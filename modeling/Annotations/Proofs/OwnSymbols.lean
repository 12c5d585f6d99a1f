import Annotations.Proofs.Attribution
import Annotations.Proofs.Source.Places

/-!
Contract: which of a unit's own symbols its directives reach.

A directive reaches a symbol that its own unit registered exactly if the first
declaration of the path begins on the row of the directive or above it: on one row
the columns do not count. What is reached becomes private. What is named and not
reached is left, and the failure of the call says so.

Owns:
- `Turn.Names`, a turn without the question whether its path resolves;
- `Run.Rejects`, a failure that leaves a path unresolved;
- `History.reaches_own_iff`.

Does not own: symbols of other units; see `Annotations.Proofs.Visibility`.
-/

namespace Annotations

open Source

/-! ## The first declaration in a unit -/

/-- A first declaration is the first of the unit that registers it. -/
theorem exists_unit_of_firstSite? {units : List SourceUnit} {path : Path} {site : Site}
    (found : firstSite? units path = some site) :
    ∃ unit ∈ units, unit.unitId = site.unitId ∧
      (unit.declarations.find? fun declaration => decide (declaration.path = path)).map
        Declaration.line = some site.line := by
  obtain ⟨before, unit, after, rfl, -, first⟩ := exists_split_of_firstSite? found
  exact ⟨unit, by simp, first⟩

/-! ## Directives on a unit's own symbols -/

/-- The call is a directive, and one of its arguments names the path. -/
def Turn.Names (catalog : Catalog) (turn : Turn) (path : Path) : Prop :=
  ∃ shape argument name, catalog.classify? turn.call.callee = some shape ∧
    argument ∈ turn.call.arguments ∧ shape.Names argument name ∧
    path = ⟨turn.call.scope, name, shape.targetKind⟩

theorem Turn.appliesTo_iff {catalog : Catalog} {turn : Turn} {path : Path} :
    turn.AppliesTo catalog path ↔
      turn.Names catalog path ∧ Resolves turn.known turn.unit.unitId turn.call.line path := by
  constructor
  · rintro ⟨shape, argument, name, shaped, isArgument, names, isTarget, resolves⟩
    exact ⟨⟨shape, argument, name, shaped, isArgument, names, isTarget⟩, resolves⟩
  · rintro ⟨⟨shape, argument, name, shaped, isArgument, names, isTarget⟩, resolves⟩
    exact ⟨shape, argument, name, shaped, isArgument, names, isTarget, resolves⟩

/-- A call on this line of a unit fails because the path is undefined there. -/
def Run.Rejects (run : Run) (unitId : UnitId) (line : Line) (path : Path) : Prop :=
  ∃ failure ∈ run.diagnostics, failure.unitId = unitId ∧ failure.line = line ∧
    ∃ directive, .unresolvedSymbol directive path ∈ failure.errors

namespace History

/-- What a unit registers for good, it has registered when its own directives take their turn. -/
theorem firstSite?_known_of_own {batches : List (List SourceUnit)} {turn : Turn} {path : Path}
    {site : Site} (isTurn : turn ∈ turns batches)
    (registered : firstSite? batches.flatten path = some site)
    (declares : Declares [turn.unit] path) : firstSite? turn.known path = some site := by
  obtain ⟨k, batch, isBatch, isUnit, isKnown⟩ := mem_withKnown_iff.1 (mem_turns_iff.1 isTurn).1
  obtain ⟨_, isOwn, declaration, isDeclaration, ofPath⟩ := declares
  obtain rfl := List.mem_singleton.1 isOwn
  have known : (firstSite? turn.known path).isSome :=
    isSome_firstSite?_iff.2 ⟨_, Turn.unit_mem_known isTurn, declaration, isDeclaration, ofPath⟩
  obtain ⟨knownSite, found⟩ := Option.isSome_iff_exists.1 known
  -- A turn knows a prefix of all units, its own among them; what is first there stays first.
  rw [isKnown] at found
  rw [firstSite?_of_take found] at registered
  rw [isKnown, found, registered]

/-- A listed symbol stands at the first declaration of its path. -/
theorem firstSite?_of_mem_symbols {options : RunOptions} {requests : List Request} {symbol : Symbol}
    (isSymbol : symbol ∈ ((Run.fresh options).performAll requests).2.symbols) :
    firstSite? (ofRequests options requests).analysed.flatten symbol.path = some symbol.site := by
  rw [snd_performAll_fresh] at isSymbol
  have registered : (tableAfter options (ofRequests options requests).analysed).get? symbol.path =
      some symbol := SymbolTable.mem_symbols_iff.1 isSymbol
  rw [← site?_tableAfter options, SymbolTable.site?, registered]
  rfl

/-- Identifiers are distinct, so a symbol with the identifier of a turn's unit is registered by the
first declaration of its path in that unit. -/
theorem find?_declarations_of_own {options : RunOptions} {requests : List Request} {turn : Turn}
    {symbol : Symbol} (isTurn : turn ∈ turns (ofRequests options requests).analysed)
    (isSymbol : symbol ∈ ((Run.fresh options).performAll requests).2.symbols)
    (own : symbol.unitId = turn.unit.unitId) :
    ∃ declaration,
      (turn.unit.declarations.find? fun declaration => decide (declaration.path = symbol.path)) =
          some declaration ∧
        declaration.line = symbol.line := by
  obtain ⟨unit, isUnit, ofSite, first⟩ :=
    exists_unit_of_firstSite? (firstSite?_of_mem_symbols isSymbol)
  have distinct : ((ofRequests options requests).analysed.flatten.map SourceUnit.unitId).Nodup :=
    (isDistinct_ofRequests options requests).sublist
      ((List.sublist_append_left _ _).map SourceUnit.unitId)
  obtain rfl : unit = turn.unit :=
    List.inj_on_of_nodup_map distinct isUnit (Turn.unit_mem_flatten isTurn) (ofSite.trans own)
  exact Option.map_eq_some_iff.1 first

/-- What a unit's directives reach of its own symbols is told by lines. -/
theorem resolves_own_iff {options : RunOptions} {requests : List Request} {turn : Turn}
    {symbol : Symbol} (isTurn : turn ∈ turns (ofRequests options requests).analysed)
    (isSymbol : symbol ∈ ((Run.fresh options).performAll requests).2.symbols)
    (own : symbol.unitId = turn.unit.unitId) :
    Resolves turn.known turn.unit.unitId turn.call.line symbol.path ↔
      symbol.line ≤ turn.call.line := by
  obtain ⟨declaration, found, -⟩ := find?_declarations_of_own isTurn isSymbol own
  have declares : Declares [turn.unit] symbol.path :=
    ⟨turn.unit, List.mem_singleton.2 rfl, declaration, List.mem_of_find?_eq_some found,
      by simpa using List.find?_some found⟩
  unfold Resolves
  rw [firstSite?_known_of_own isTurn (firstSite?_of_mem_symbols isSymbol) declares]
  simp [Symbol.site, own]

/-! ## What the run shows -/

theorem mem_diagnostics_replay_iff {options : RunOptions} {history : History} {failure : Failure} :
    failure ∈ (replay options history).diagnostics ↔
      ∃ turn ∈ turns history.analysed,
        callFailure? options.catalog turn.known turn.unit turn.call = some failure := by
  rw [Run.mem_diagnostics_iff]
  constructor
  · rintro ⟨report, isReport, isFailure⟩
    obtain ⟨⟨unit, known⟩, isKnown, rfl⟩ := List.mem_map.1 isReport
    obtain ⟨call, isCall, failed⟩ := List.mem_filterMap.1 isFailure
    exact ⟨⟨unit, known, call⟩,
      mem_turns_iff.2 ⟨isKnown, (mem_sortByLine Call.line).1 isCall⟩, failed⟩
  · rintro ⟨turn, isTurn, failed⟩
    obtain ⟨isKnown, isCall⟩ := mem_turns_iff.1 isTurn
    exact ⟨_, List.mem_map_of_mem isKnown,
      List.mem_filterMap.2 ⟨turn.call, (mem_sortByLine Call.line).2 isCall, failed⟩⟩

section Turn

variable {options : RunOptions} {requests : List Request} {turn : Turn} {path : Path}

/-- What a directive names is rejected exactly if it does not resolve. Only the line counts: calls
on one line of a unit resolve alike. -/
theorem rejects_iff (isTurn : turn ∈ turns (ofRequests options requests).analysed)
    (names : turn.Names options.catalog path) :
    ((Run.fresh options).performAll requests).2.Rejects turn.unit.unitId turn.call.line path ↔
      ¬ Resolves turn.known turn.unit.unitId turn.call.line path := by
  have unresolved {sites : Path → Option Site} {unitId : UnitId} {line : Line} :
      Resolver.reaches ⟨unitId, options.catalog⟩ sites path line = false ↔
        ¬ ∃ site, sites path = some site ∧ ¬ (site.unitId = unitId ∧ line < site.line) := by
    rw [← Bool.not_eq_true, Resolver.reaches_iff]
  rw [snd_performAll_fresh]
  constructor
  · rintro ⟨failure, isFailure, ofUnit, onLine, directive, isError⟩
    obtain ⟨other, isOther, failed⟩ := mem_diagnostics_replay_iff.1 isFailure
    obtain ⟨ofOther, onOther⟩ := Resolver.located_of_failure? failed
    have distinct : ((ofRequests options requests).analysed.flatten.map SourceUnit.unitId).Nodup :=
      (isDistinct_ofRequests options requests).sublist
        ((List.sublist_append_left _ _).map SourceUnit.unitId)
    have sameUnit : other.unit = turn.unit := List.inj_on_of_nodup_map distinct
      (Turn.unit_mem_flatten isOther) (Turn.unit_mem_flatten isTurn) (ofOther.symm.trans ofUnit)
    obtain ⟨knownTo, isKnownTo⟩ := exists_known distinct
    have sameKnown : other.known = turn.known :=
      (isKnownTo _ (mem_turns_iff.1 isOther).1).symm.trans
        ((congrArg knownTo sameUnit).trans (isKnownTo _ (mem_turns_iff.1 isTurn).1))
    have unreached := Resolver.not_reaches_of_unresolved failed isError
    rw [← onOther, onLine, sameUnit, sameKnown] at unreached
    exact unresolved.1 unreached
  · intro notResolved
    obtain ⟨shape, argument, name, shaped, isArgument, isNamed, rfl⟩ := names
    have unreached : Resolver.reaches ⟨turn.unit.unitId, options.catalog⟩ (firstSite? turn.known)
        ⟨turn.call.scope, name, shape.targetKind⟩ turn.call.line = false :=
      unresolved.2 notResolved
    obtain ⟨failure, failed, isError⟩ := Resolver.exists_failure?_of_unreached unreached shaped
      isArgument (Shape.target?_eq_some_iff.2 ⟨name, isNamed, rfl⟩)
    obtain ⟨ofUnit, onLine⟩ := Resolver.located_of_failure? failed
    exact ⟨failure, mem_diagnostics_replay_iff.2 ⟨turn, isTurn, failed⟩, ofUnit, onLine,
      shape.name, isError⟩

/-- What a directive is applied to is private. -/
theorem isPrivate_of_appliesTo {symbol : Symbol}
    (isTurn : turn ∈ turns (ofRequests options requests).analysed)
    (isSymbol : symbol ∈ ((Run.fresh options).performAll requests).2.symbols)
    (applies : turn.AppliesTo options.catalog symbol.path) : symbol.visibility = .isPrivate := by
  obtain ⟨isKnown, isCall⟩ := mem_turns_iff.1 isTurn
  have byUnit := Resolver.mem_applications_iff.2 ⟨turn.call, isCall, appliesTo_iff.1 applies⟩
  have hasPrivate : (replay options (ofRequests options requests)).HasPrivate symbol.path :=
    hasPrivate_of_appliedIn ⟨(turn.unit, turn.known), isKnown, byUnit⟩
  obtain ⟨other, isOther, samePath, isPrivate⟩ := hasPrivate
  rw [snd_performAll_fresh] at isSymbol
  have registered := SymbolTable.mem_symbols_iff.1 isSymbol
  rw [← samePath, SymbolTable.mem_symbols_iff.1 isOther] at registered
  rwa [← Option.some.inj registered]

end Turn

/-- A directive is applied to a symbol of its own unit exactly if it names the symbol's path and the
first declaration of that path in the unit begins on the row of the call or above it. Then the
symbol is private and the call does not fail with it; else a failure of the call says that it is
undefined. -/
theorem reaches_own_iff (options : RunOptions) (requests : List Request) (source : List Char)
    (root : Node) (unitId : UnitId) (moduleName : String) {turn : Turn} {start : Position}
    {symbol : Symbol}
    (isTurn : turn ∈ turns (ofRequests options requests).analysed)
    (ofTree : turn.unit = SourceUnit.ofTree source root unitId moduleName)
    (isPlaced : (turn.call, start) ∈ (placedFindings root moduleName).calls)
    (isSymbol : symbol ∈ ((Run.fresh options).performAll requests).2.symbols)
    (own : symbol.unitId = unitId) :
    ∃ declaration position,
      (placedFindings root moduleName).first? symbol.path = some (declaration, position) ∧
        (turn.AppliesTo options.catalog symbol.path ↔
          turn.Names options.catalog symbol.path ∧ position.row ≤ start.row) ∧
        (turn.Names options.catalog symbol.path → position.row ≤ start.row →
          symbol.visibility = .isPrivate ∧
          ¬ ((Run.fresh options).performAll requests).2.Rejects unitId turn.call.line
              symbol.path) ∧
        (turn.Names options.catalog symbol.path → start.row < position.row →
          ((Run.fresh options).performAll requests).2.Rejects unitId turn.call.line
            symbol.path) := by
  have places := placedFindings_places root moduleName
  have isOwn : turn.unit.unitId = unitId := by
    rw [ofTree]
    rfl
  have ofTurn : symbol.unitId = turn.unit.unitId := own.trans isOwn.symm
  obtain ⟨declaration, found, onLine⟩ := find?_declarations_of_own isTurn isSymbol ofTurn
  rw [ofTree, declarations_ofTree, List.find?_map] at found
  obtain ⟨⟨declaration, position⟩, isFirst, rfl⟩ := Option.map_eq_some_iff.1 found
  have callLine : turn.call.line = start.row + 1 := places.callLines _ isPlaced
  have symbolLine : declaration.line = position.row + 1 :=
    places.declarationLines _ (List.mem_of_find?_eq_some isFirst)
  -- Lines are rows counted from one, so the check of lines is one of rows.
  have resolves_iff : Resolves turn.known turn.unit.unitId turn.call.line symbol.path ↔
      position.row ≤ start.row := by
    rw [resolves_own_iff isTurn isSymbol ofTurn, callLine, ← onLine, symbolLine,
      Int.add_le_add_iff_right, Int.ofNat_le]
  have applies_iff : turn.AppliesTo options.catalog symbol.path ↔
      turn.Names options.catalog symbol.path ∧ position.row ≤ start.row := by
    rw [Turn.appliesTo_iff, resolves_iff]
  refine ⟨declaration, position, isFirst, applies_iff, ?_, ?_⟩
  · intro names above
    refine ⟨isPrivate_of_appliesTo isTurn isSymbol (applies_iff.2 ⟨names, above⟩), ?_⟩
    rw [← isOwn, rejects_iff isTurn names, resolves_iff]
    exact not_not_intro above
  · intro names below
    rw [← isOwn, rejects_iff isTurn names, resolves_iff]
    exact Nat.not_le_of_lt below

/-- A directive, and what it names after it on its line. -/
private def sameLine : List Char := "private_constant('A'); A = 1\n".toList

private def sameLineUnit : SourceUnit :=
  SourceUnit.ofTree sameLine (moduleNode sameLine) "m.py" "m"

private def sameLineCall : Call :=
  ⟨["m"], "private_constant", 1, [⟨.string, "'A'", some (.text "A")⟩]⟩

private def sameLineTurn : Turn := ⟨sameLineUnit, [sameLineUnit], sameLineCall⟩

private def sameLineOptions : RunOptions := ⟨Catalog.standard, true, ⟨"annotate", []⟩, true, 1⟩

private def sameLineRequests : List Request := [.add sameLineUnit, .analyze]

private theorem placedFindings_sameLine :
    placedFindings (moduleNode sameLine) "m" =
      ⟨[(⟨["m"], "A", .constant, 1⟩, ⟨0, 23⟩)], [(sameLineCall, ⟨0, 0⟩)]⟩ := by
  decide +kernel

private theorem declarations_sameLineUnit :
    sameLineUnit.declarations = [⟨["m"], "A", .constant, 1⟩] := by
  unfold sameLineUnit
  rw [declarations_ofTree, placedFindings_sameLine]
  rfl

private theorem sameLineTurn_mem :
    sameLineTurn ∈ turns (ofRequests sameLineOptions sameLineRequests).analysed := by
  have calls := (placedFindings_places (moduleNode sameLine) "m").calls
  rw [placedFindings_sameLine] at calls
  have isCall : sameLineCall ∈ sameLineUnit.calls :=
    (congrArg (sameLineCall ∈ ·) calls).mp (List.mem_singleton.2 rfl)
  exact mem_turns_iff.2 ⟨List.mem_singleton.2 rfl, isCall⟩

private def constantA : Path := ⟨["m"], "A", .constant⟩

private theorem symbols_sameLine :
    ((Run.fresh sameLineOptions).performAll sameLineRequests).2.symbols =
      [⟨constantA, .isPrivate, "m.py", 1⟩] := by
  decide +kernel

private theorem diagnostics_sameLine :
    ((Run.fresh sameLineOptions).performAll sameLineRequests).2.diagnostics = [] := by
  decide +kernel

private theorem names_sameLineTurn : sameLineTurn.Names Catalog.standard constantA :=
  ⟨⟨.markConstantPrivate, .constant, "private_constant"⟩, ⟨.string, "'A'", some (.text "A")⟩, "A",
    by decide, List.mem_singleton.2 rfl, ⟨rfl, Or.inl ⟨rfl, by decide⟩⟩, rfl⟩

private theorem isPlaced_sameLineTurn :
    (sameLineTurn.call, ⟨0, 0⟩) ∈ (placedFindings (moduleNode sameLine) "m").calls := by
  rw [placedFindings_sameLine]
  exact List.mem_singleton.2 rfl

/-- The directive begins on the row of the declaration. So it is applied, the symbol is private, and
nothing fails. -/
theorem reaches_own_on_row :
    sameLineTurn.AppliesTo Catalog.standard constantA ∧
      ∃ symbol ∈ ((Run.fresh sameLineOptions).performAll sameLineRequests).2.symbols,
        symbol.path = constantA ∧ symbol.visibility = .isPrivate ∧
        ¬ ((Run.fresh sameLineOptions).performAll sameLineRequests).2.Rejects "m.py" 1
            constantA := by
  have isSymbol : ⟨constantA, .isPrivate, "m.py", 1⟩ ∈
      ((Run.fresh sameLineOptions).performAll sameLineRequests).2.symbols := by
    rw [symbols_sameLine]
    exact List.mem_singleton.2 rfl
  obtain ⟨declaration, position, isFirst, applies, shown, -⟩ :=
    reaches_own_iff sameLineOptions sameLineRequests sameLine (moduleNode sameLine) "m.py" "m"
      sameLineTurn_mem rfl isPlaced_sameLineTurn isSymbol rfl
  rw [placedFindings_sameLine] at isFirst
  obtain ⟨rfl, rfl⟩ := Prod.mk.inj (Option.some.inj isFirst)
  obtain ⟨isPrivate, notRejected⟩ := shown names_sameLineTurn (Nat.le_refl 0)
  exact ⟨applies.2 ⟨names_sameLineTurn, Nat.le_refl 0⟩, _, isSymbol, rfl, isPrivate, notRejected⟩

/-- So it is not the case that a symbol of the own unit is declared before every directive that is
applied to it, not even where the run shows the symbol as private and no failure at all. -/
theorem declared_after_directive_on_row :
    ¬ ∀ (options : RunOptions) (requests : List Request) (source : List Char) (unitId : UnitId)
        (moduleName : String) (turn : Turn) (start : Position) (symbol : Symbol),
      turn ∈ turns (ofRequests options requests).analysed →
      turn.unit = SourceUnit.ofTree source (moduleNode source) unitId moduleName →
      (turn.call, start) ∈ (placedFindings (moduleNode source) moduleName).calls →
      symbol ∈ ((Run.fresh options).performAll requests).2.symbols →
      symbol.unitId = unitId →
      turn.AppliesTo options.catalog symbol.path →
      symbol.visibility = .isPrivate →
      ((Run.fresh options).performAll requests).2.diagnostics = [] →
        ∃ declaration position,
          (declaration, position) ∈ (placedFindings (moduleNode source) moduleName).declarations ∧
            declaration.path = symbol.path ∧ position.Precedes start := by
  intro precedes
  have isSymbol : ⟨constantA, .isPrivate, "m.py", 1⟩ ∈
      ((Run.fresh sameLineOptions).performAll sameLineRequests).2.symbols := by
    rw [symbols_sameLine]
    exact List.mem_singleton.2 rfl
  have registered : firstSite? [sameLineUnit] constantA = some ⟨"m.py", 1⟩ := by
    rw [firstSite?_singleton, declarations_sameLineUnit]
    decide
  have applies : sameLineTurn.AppliesTo Catalog.standard constantA :=
    Turn.appliesTo_iff.2 ⟨names_sameLineTurn, ⟨"m.py", 1⟩, registered, by decide⟩
  obtain ⟨declaration, position, isDeclared, -, before⟩ :=
    precedes sameLineOptions sameLineRequests sameLine "m.py" "m" sameLineTurn ⟨0, 0⟩ _
      sameLineTurn_mem rfl isPlaced_sameLineTurn isSymbol rfl applies rfl diagnostics_sameLine
  rw [placedFindings_sameLine] at isDeclared
  obtain ⟨-, rfl⟩ := Prod.mk.inj (List.mem_singleton.1 isDeclared)
  exact absurd before (by decide)

end History

end Annotations
