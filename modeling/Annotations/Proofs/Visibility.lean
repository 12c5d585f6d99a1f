import Annotations.Proofs.History

/-!
Contract: the symbols of a run that analysed batches of units.

A batch registers its declarations before any of its directives is processed, so
a directive sees the declarations of its own batch and of the batches before it.
Once a path is registered its site stays, and only directives touch its
visibility; so a symbol is private exactly if some directive reached it.

Owns:

- `MadePrivate`, the directives that make a symbol private, said of units alone;
- `symbols_after_batches`, the exact symbols of a run.
-/

namespace Annotations

/-- A directive makes the symbol private: one of its arguments names the symbol's path, the path is
declared in the directive's batch `k` or an earlier one, and the declaration that registered it does
not stand further down in the directive's own unit. -/
def MadePrivate (catalog : Catalog) (batches : List (List SourceUnit)) (symbol : Symbol) : Prop :=
  ∃ k batch unit call shape argument name,
    batches[k]? = some batch ∧ unit ∈ batch ∧ call ∈ unit.calls ∧
      catalog.classify? call.callee = some shape ∧
      argument ∈ call.arguments ∧ shape.Names argument name ∧
      symbol.path = ⟨call.scope, name, shape.targetKind⟩ ∧
      Declares (batches.take (k + 1)).flatten symbol.path ∧
      ¬ (symbol.unitId = unit.unitId ∧ call.line < symbol.line)

namespace History

/-- Some unit of the batches applies an argument to the path. -/
def AppliedIn (catalog : Catalog) (batches : List (List SourceUnit)) (path : Path) : Prop :=
  ∃ entry ∈ withKnown [] batches,
    path ∈ (Resolver.applications ⟨entry.1.unitId, catalog⟩ (firstSite? entry.2) entry.1).map
      Application.path

def applicationsAfter (catalog : Catalog) (batches : List (List SourceUnit)) : List Application :=
  (withKnown [] batches).flatMap fun entry =>
    Resolver.applications ⟨entry.1.unitId, catalog⟩ (firstSite? entry.2) entry.1

theorem appliedIn_iff_mem_applicationsAfter {catalog : Catalog}
    {batches : List (List SourceUnit)} {path : Path} :
    AppliedIn catalog batches path ↔
      path ∈ (applicationsAfter catalog batches).map Application.path := by
  unfold AppliedIn applicationsAfter
  rw [List.map_flatMap, List.mem_flatMap]

theorem applicationsAfter_append_singleton (catalog : Catalog) (batches : List (List SourceUnit))
    (batch : List SourceUnit) :
    applicationsAfter catalog (batches ++ [batch]) =
      applicationsAfter catalog batches ++
        batchApplications catalog (firstSite? (batches.flatten ++ batch)) batch := by
  unfold applicationsAfter batchApplications
  rw [withKnown_append_singleton, List.flatMap_append, List.flatMap_map]
  rfl

theorem appliedIn_append_singleton {catalog : Catalog} {batches : List (List SourceUnit)}
    {batch : List SourceUnit} {path : Path} :
    AppliedIn catalog (batches ++ [batch]) path ↔
      AppliedIn catalog batches path ∨
        path ∈ (batchApplications catalog (firstSite? (batches.flatten ++ batch)) batch).map
          Application.path := by
  rw [appliedIn_iff_mem_applicationsAfter, appliedIn_iff_mem_applicationsAfter,
    applicationsAfter_append_singleton, List.map_append, List.mem_append]

/-- What a directive reaches, told by the directive's call and argument. -/
theorem appliedIn_iff {catalog : Catalog} {batches : List (List SourceUnit)} {path : Path} :
    AppliedIn catalog batches path ↔
      ∃ k batch unit call shape argument name,
        batches[k]? = some batch ∧ unit ∈ batch ∧ call ∈ unit.calls ∧
          catalog.classify? call.callee = some shape ∧
          argument ∈ call.arguments ∧ shape.Names argument name ∧
          path = ⟨call.scope, name, shape.targetKind⟩ ∧
          ∃ site, firstSite? (batches.take (k + 1)).flatten path = some site ∧
            ¬ (site.unitId = unit.unitId ∧ call.line < site.line) := by
  constructor
  · intro applied
    obtain ⟨⟨unit, known⟩, isEntry, applied⟩ := applied
    obtain ⟨k, batch, isBatch, isUnit, rfl⟩ := mem_withKnown_iff.1 isEntry
    obtain ⟨call, isCall, applied⟩ := Resolver.mem_applications_iff.1 applied
    obtain ⟨shape, argument, name, shaped, isArgument, names, isTarget, reached⟩ :=
      Resolver.mem_callApplications_iff.1 applied
    exact ⟨k, batch, unit, call, shape, argument, name, isBatch, isUnit, isCall, shaped, isArgument,
      names, isTarget, Resolver.reaches_iff.1 reached⟩
  · rintro ⟨k, batch, unit, call, shape, argument, name, isBatch, isUnit, isCall, shaped,
      isArgument, names, isTarget, reached⟩
    refine ⟨(unit, (batches.take (k + 1)).flatten),
      mem_withKnown_iff.2 ⟨k, batch, isBatch, isUnit, rfl⟩, ?_⟩
    rw [Resolver.mem_applications_iff]
    refine ⟨call, isCall, ?_⟩
    rw [Resolver.mem_callApplications_iff]
    exact ⟨shape, argument, name, shaped, isArgument, names, isTarget,
      Resolver.reaches_iff.2 reached⟩

/-- A first declaration in the first batches stays the first. -/
theorem firstSite?_of_take {batches : List (List SourceUnit)} {k : Nat} {path : Path} {site : Site}
    (found : firstSite? (batches.take k).flatten path = some site) :
    firstSite? batches.flatten path = some site := by
  have split : (batches.take k).flatten ++ (batches.drop k).flatten = batches.flatten := by
    rw [← List.flatten_append, List.take_append_drop]
  rw [← split]
  exact firstSite?_append_of_some found _

/-- Only registered paths are reached. -/
theorem isSome_firstSite?_of_appliedIn {catalog : Catalog} {batches : List (List SourceUnit)}
    {path : Path} (applied : AppliedIn catalog batches path) :
    (firstSite? batches.flatten path).isSome := by
  obtain ⟨k, -, -, -, -, -, -, -, -, -, -, -, -, -, site, found, -⟩ := appliedIn_iff.1 applied
  rw [firstSite?_of_take found]
  rfl

/-- Registering one more batch keeps visibilities. What it adds is public, and was not reached
before. -/
theorem visibility_declareUnits {options : RunOptions} {batches : List (List SourceUnit)}
    {batch : List SourceUnit} {path : Path} {symbol : Symbol}
    (before : ∀ old, (tableAfter options batches).get? path = some old →
      AppliedIn options.catalog batches path ∧ old.visibility = .isPrivate ∨
        ¬ AppliedIn options.catalog batches path ∧ old.visibility = .isPublic)
    (declared : (Run.declareUnits (tableAfter options batches) batch).get? path = some symbol) :
    AppliedIn options.catalog batches path ∧ symbol.visibility = .isPrivate ∨
      ¬ AppliedIn options.catalog batches path ∧ symbol.visibility = .isPublic := by
  rw [Run.get?_declareUnits] at declared
  cases earlier : (tableAfter options batches).get? path with
  | some old =>
      rw [earlier, Option.some_or] at declared
      obtain rfl := Option.some.inj declared
      exact before old earlier
  | none =>
      -- The batch registered the path, so no earlier batch reached it.
      have notApplied : ¬ AppliedIn options.catalog batches path := by
        intro applied
        have sited := isSome_firstSite?_of_appliedIn applied
        rw [← site?_tableAfter options, SymbolTable.site?, earlier] at sited
        contradiction
      rw [earlier, Option.none_or] at declared
      obtain ⟨site, -, rfl⟩ := Option.map_eq_some_iff.1 declared
      exact Or.inr ⟨notApplied, rfl⟩

/-- A registered symbol is private if some directive of the batches reached its path, and public
otherwise. -/
theorem visibility_tableAfter (options : RunOptions) (batches : List (List SourceUnit))
    {path : Path} {symbol : Symbol}
    (registered : (tableAfter options batches).get? path = some symbol) :
    AppliedIn options.catalog batches path ∧ symbol.visibility = .isPrivate ∨
      ¬ AppliedIn options.catalog batches path ∧ symbol.visibility = .isPublic := by
  induction batches using List.reverseRecOn generalizing symbol with
  | nil => contradiction
  | append_singleton batches batch inductionHypothesis =>
      rw [tableAfter_append_singleton, analyseBatch, SymbolTable.get?_applyAll,
        site?_declareUnits_tableAfter] at registered
      obtain ⟨before, declared, outcome⟩ := Option.map_eq_some_iff.1 registered
      rw [appliedIn_append_singleton]
      by_cases now : path ∈ (batchApplications options.catalog
          (firstSite? (batches.flatten ++ batch)) batch).map Application.path
      · rw [if_pos now] at outcome
        subst outcome
        exact Or.inl ⟨Or.inr now, rfl⟩
      · rw [if_neg now] at outcome
        subst outcome
        rcases visibility_declareUnits (fun _ => inductionHypothesis) declared with
          ⟨applied, isPrivate⟩ | ⟨notApplied, isPublic⟩
        · exact Or.inl ⟨Or.inl applied, isPrivate⟩
        · exact Or.inr ⟨not_or.2 ⟨notApplied, now⟩, isPublic⟩

/-- A table is determined by where its paths are declared and which of them were reached. -/
theorem get?_tableAfter_eq {options other : RunOptions} {batches others : List (List SourceUnit)}
    (sameSites : firstSite? batches.flatten = firstSite? others.flatten)
    (sameApplied : ∀ path, AppliedIn options.catalog batches path ↔
      AppliedIn other.catalog others path) (path : Path) :
    (tableAfter options batches).get? path = (tableAfter other others).get? path := by
  have sited : ((tableAfter options batches).get? path).map Symbol.site =
      ((tableAfter other others).get? path).map Symbol.site := by
    change (tableAfter options batches).site? path = (tableAfter other others).site? path
    rw [site?_tableAfter, site?_tableAfter, sameSites]
  cases registered : (tableAfter options batches).get? path with
  | none =>
      rw [registered, Option.map_none] at sited
      exact (Option.map_eq_none_iff.1 sited.symm).symm
  | some symbol =>
      rw [registered, Option.map_some] at sited
      obtain ⟨found, otherRegistered, sameSite⟩ := Option.map_eq_some_iff.1 sited.symm
      have samePath : symbol.path = found.path :=
        (Registry.path_of_get? registered).trans (Registry.path_of_get? otherRegistered).symm
      have sameVisibility : symbol.visibility = found.visibility := by
        rcases visibility_tableAfter options batches registered with
          ⟨applied, isPrivate⟩ | ⟨notApplied, isPublic⟩ <;>
        rcases visibility_tableAfter other others otherRegistered with
          ⟨otherApplied, otherPrivate⟩ | ⟨otherNotApplied, otherPublic⟩
        · rw [isPrivate, otherPrivate]
        · exact absurd ((sameApplied path).1 applied) otherNotApplied
        · exact absurd ((sameApplied path).2 otherApplied) notApplied
        · rw [isPublic, otherPublic]
      obtain ⟨sameUnit, sameLine⟩ := Site.mk.inj sameSite
      rw [otherRegistered]
      cases symbol
      cases found
      simp_all

/-- A registered symbol stands where its path was first declared. -/
theorem firstSite?_of_registered {options : RunOptions} {batches : List (List SourceUnit)}
    {symbol : Symbol} (registered : (tableAfter options batches).get? symbol.path = some symbol) :
    firstSite? batches.flatten symbol.path = some symbol.site := by
  rw [← site?_tableAfter options, SymbolTable.site?, registered]
  rfl

/-- For a registered symbol, being reached can be told by its own site. -/
theorem appliedIn_iff_madePrivate {catalog : Catalog} {batches : List (List SourceUnit)}
    {symbol : Symbol} (sited : firstSite? batches.flatten symbol.path = some symbol.site) :
    AppliedIn catalog batches symbol.path ↔ MadePrivate catalog batches symbol := by
  rw [appliedIn_iff]
  unfold MadePrivate
  constructor
  · rintro ⟨k, batch, unit, call, shape, argument, name, isBatch, isUnit, isCall, shaped,
      isArgument, names, isTarget, site, found, notBelow⟩
    have sameSite : symbol.site = site :=
      Option.some.inj (sited.symm.trans (firstSite?_of_take found))
    have declared := isSome_firstSite?_iff.1 (Option.isSome_of_eq_some found)
    subst sameSite
    exact ⟨k, batch, unit, call, shape, argument, name, isBatch, isUnit, isCall, shaped, isArgument,
      names, isTarget, declared, notBelow⟩
  · rintro ⟨k, batch, unit, call, shape, argument, name, isBatch, isUnit, isCall, shaped,
      isArgument, names, isTarget, declared, notBelow⟩
    obtain ⟨site, found⟩ := Option.isSome_iff_exists.1 (isSome_firstSite?_iff.2 declared)
    have sameSite : symbol.site = site :=
      Option.some.inj (sited.symm.trans (firstSite?_of_take found))
    subst sameSite
    exact ⟨k, batch, unit, call, shape, argument, name, isBatch, isUnit, isCall, shaped, isArgument,
      names, isTarget, symbol.site, found, notBelow⟩

/-- After batches of units, the symbols are the declared paths, each once and at its first
declaration. A symbol is private if some directive makes it so, and otherwise public. -/
theorem symbols_after_batches (options : RunOptions) (batches : List (List SourceUnit))
    (distinct : (batches.flatten.map SourceUnit.unitId).Nodup) :
    ∃ answers run,
      (Run.fresh options).performAll (batchRequests batches) = (answers, run) ∧
        (∀ answer ∈ answers, ∃ value, answer = .ok value) ∧
        (run.symbols.map Symbol.path).Nodup ∧
        (∀ path, path ∈ run.symbols.map Symbol.path ↔ Declares batches.flatten path) ∧
        ∀ symbol ∈ run.symbols,
          firstSite? batches.flatten symbol.path = some ⟨symbol.unitId, symbol.line⟩ ∧
            (symbol.visibility = .isPrivate ↔ MadePrivate options.catalog batches symbol) ∧
            (¬ MadePrivate options.catalog batches symbol → symbol.visibility = .isPublic) ∧
            symbol.visibility ≠ .isProtected := by
  obtain ⟨answers, performed, answered⟩ := performAll_batches options batches distinct
  refine ⟨answers, _, performed, answered, Registry.nodup_symbols _, ?_, ?_⟩
  · intro path
    rw [← isSome_firstSite?_iff, ← site?_tableAfter options]
    exact SymbolTable.mem_paths_symbols_iff
  · intro symbol isSymbol
    have registered := SymbolTable.mem_symbols_iff.1 isSymbol
    have sited := firstSite?_of_registered registered
    rw [← appliedIn_iff_madePrivate sited]
    refine ⟨sited, ?_⟩
    rcases visibility_tableAfter options batches registered with
      ⟨applied, isPrivate⟩ | ⟨notApplied, isPublic⟩
    · simp [applied, isPrivate]
    · simp [notApplied, isPublic]

/-- A unit whose directive stands above the declaration it names. -/
private def early : SourceUnit where
  unitId := "b.py"
  lineCount := 2
  declarations := [⟨["b"], "Limit", .constant, 2⟩]
  calls := [⟨["b"], "private_constant", 1, [⟨.string, "'Limit'", some (.text "Limit")⟩]⟩]
  comments := []
  scope := ["b"]

/-- A unit that refers to the same path, and declares it again. -/
private def late : SourceUnit where
  unitId := "a.py"
  lineCount := 9
  declarations := [⟨["b"], "Limit", .constant, 9⟩]
  calls := [⟨["b"], "private_constant", 1, [⟨.identifier, "Limit", some (.text "Limit")⟩]⟩]
  comments := []
  scope := ["a"]

/-- A later batch makes private what the declaring unit itself could not, and redeclares nothing. -/
theorem later_batch_makes_private :
    (([[early], [late]] : List (List SourceUnit)).flatten.map SourceUnit.unitId).Nodup ∧
      ∃ answers run,
        (Run.fresh ⟨Catalog.standard, true, ⟨"annotate", []⟩, true, 1⟩).performAll
            (batchRequests [[early], [late]]) = (answers, run) ∧
          ⟨⟨["b"], "Limit", .constant⟩, .isPrivate, "b.py", 2⟩ ∈ run.symbols := by
  have distinct :
      (([[early], [late]] : List (List SourceUnit)).flatten.map SourceUnit.unitId).Nodup := by
    decide
  obtain ⟨answers, run, performed, -, -, paths, outcome⟩ :=
    symbols_after_batches ⟨Catalog.standard, true, ⟨"annotate", []⟩, true, 1⟩ [[early], [late]]
      distinct
  refine ⟨distinct, answers, run, performed, ?_⟩
  have declared : Declares [early, late] ⟨["b"], "Limit", .constant⟩ :=
    ⟨early, by simp, _, List.mem_singleton.2 rfl, rfl⟩
  obtain ⟨symbol, isSymbol, ofPath⟩ := List.mem_map.1 ((paths _).2 declared)
  obtain ⟨sited, isPrivate, -⟩ := outcome symbol isSymbol
  have first : firstSite? [early, late] ⟨["b"], "Limit", .constant⟩ = some ⟨"b.py", 2⟩ := by decide
  have site : (⟨symbol.unitId, symbol.line⟩ : Site) = ⟨"b.py", 2⟩ :=
    Option.some.inj (sited.symm.trans (ofPath ▸ first))
  obtain ⟨inUnit, onLine⟩ := Site.mk.inj site
  have madePrivate : MadePrivate Catalog.standard [[early], [late]] symbol := by
    refine ⟨1, [late], late,
      ⟨["b"], "private_constant", 1, [⟨.identifier, "Limit", some (.text "Limit")⟩]⟩,
      ⟨.markConstantPrivate, .constant, "private_constant"⟩,
      ⟨.identifier, "Limit", some (.text "Limit")⟩, "Limit", rfl, by simp, by simp [late],
      by decide, by simp, ⟨rfl, Or.inr ⟨rfl, rfl, by decide⟩⟩, ofPath, ofPath ▸ declared, ?_⟩
    intro below
    obtain ⟨inLate, -⟩ := below
    rw [inUnit] at inLate
    exact absurd inLate (by decide)
  have same : symbol = ⟨⟨["b"], "Limit", .constant⟩, .isPrivate, "b.py", 2⟩ := by
    rw [← ofPath, ← isPrivate.2 madePrivate, ← inUnit, ← onLine]
  exact same ▸ isSymbol

end History

end Annotations
