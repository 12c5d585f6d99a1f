import Annotations.Proofs.Diagnostics
import Annotations.Proofs.Invariant

/-!
Contract: units analysed in batches, against the same units analysed at once.

A directive in a batch sees the declarations of its own batch and of those before
it. What it sees is a restriction of what it would see with all units declared:
no first declaration stands elsewhere, but some are not there yet. Hence batches
can only apply fewer arguments, and only find more errors. Both runs process the
units of a batch in order, however many workers their options ask for.

Owns:

- `Restricts`, the relation between what is declared in time and what is declared;
- `History.IsCompletedBy`, how the results of the two runs are related, and
  `History.DeclaredInTime`, when they are the same;
- `History.completed_by_one_batch`, which compares the runs.
-/

namespace Annotations

/-! ## Sites declared so far -/

/-- Whatever is sited already is sited there in the end. -/
def Restricts (sites all : Path → Option Site) : Prop :=
  ∀ path site, sites path = some site → all path = some site

theorem Restricts.eq_of_sited {sites all : Path → Option Site} (restricts : Restricts sites all)
    {path : Path} (inTime : (all path).isSome → (sites path).isSome) : sites path = all path := by
  cases sited : sites path with
  | some site => exact (restricts path site sited).symm
  | none =>
      have absent : ¬ (all path).isSome := by
        intro sitedInEnd
        have sitedInTime := inTime sitedInEnd
        rw [sited] at sitedInTime
        contradiction
      exact (Option.not_isSome_iff_eq_none.1 absent).symm

theorem Restricts.reaches {sites all : Path → Option Site} (restricts : Restricts sites all)
    {resolver : Resolver} {path : Path} {line : Line}
    (reached : resolver.reaches sites path line = true) :
    resolver.reaches all path line = true := by
  obtain ⟨site, sited, notBelow⟩ := Resolver.reaches_iff.1 reached
  exact Resolver.reaches_iff.2 ⟨site, restricts path site sited, notBelow⟩

/-- An argument that fails in the end fails before. -/
theorem Restricts.error? {sites all : Path → Option Site} (restricts : Restricts sites all)
    {resolver : Resolver} {shape : Shape} {scope : Namespace} {line : Line} {argument : Argument}
    {error : DirectiveError}
    (failed : resolver.error? all shape scope line argument = some error) :
    resolver.error? sites shape scope line argument = some error := by
  unfold Resolver.error? at failed ⊢
  cases target : shape.target? scope argument with
  | none =>
      rw [target] at failed
      exact failed
  | some path =>
      have notReached : resolver.reaches all path line ≠ true := by
        intro reached
        simp [target, reached] at failed
      have notReachedBefore : resolver.reaches sites path line ≠ true :=
        fun reached => notReached (restricts.reaches reached)
      simp only [target, notReached] at failed
      simp only [notReachedBefore]
      exact failed

theorem restricts_take (batches : List (List SourceUnit)) (k : Nat) :
    Restricts (firstSite? (batches.take k).flatten) (firstSite? batches.flatten) :=
  fun _ _ sited => History.firstSite?_of_take sited

/-! ## Listed places -/

def Symbol.place (symbol : Symbol) : Path × Site :=
  (symbol.path, symbol.site)

theorem SymbolTable.mem_places_iff {table : SymbolTable} {path : Path} {site : Site} :
    (path, site) ∈ table.registry.entries.map Symbol.place ↔ table.site? path = some site := by
  rw [site?, Option.map_eq_some_iff, List.mem_map]
  constructor
  · intro isPlace
    obtain ⟨symbol, isEntry, samePlace⟩ := isPlace
    obtain ⟨samePath, sameSite⟩ := Prod.mk.inj samePlace
    exact ⟨symbol, Registry.get?_eq_some_iff.2 ⟨isEntry, samePath⟩, sameSite⟩
  · intro isSited
    obtain ⟨symbol, registered, sameSite⟩ := isSited
    obtain ⟨isEntry, samePath⟩ := Registry.get?_eq_some_iff.1 registered
    exact ⟨symbol, isEntry, Prod.ext samePath sameSite⟩

theorem SymbolTable.map_place_symbols_eq {left right : SymbolTable}
    (sameSites : left.site? = right.site?) :
    left.symbols.map Symbol.place = right.symbols.map Symbol.place := by
  have listed : ∀ table : SymbolTable, table.symbols.map Symbol.place =
      (table.registry.entries.map Symbol.place).mergeSort fun first second =>
        (compare first.1 second.1).isLE := by
    intro table
    apply List.map_mergeSort
    intro first _ second _
    rfl
  have distinctPaths : ∀ table : SymbolTable,
      ((table.registry.entries.map Symbol.place).map Prod.fst).Nodup := by
    intro table
    rw [List.map_map]
    exact table.registry.distinct
  have permuted : (left.registry.entries.map Symbol.place).Perm
      (right.registry.entries.map Symbol.place) := by
    rw [List.perm_ext_iff_of_nodup ((distinctPaths left).of_map _) ((distinctPaths right).of_map _)]
    rintro ⟨path, site⟩
    rw [mem_places_iff, mem_places_iff, sameSites]
  rw [listed, listed]
  apply mergeSort_eq_of_perm Prod.fst permuted
  intro first isFirst second isSecond samePath
  exact List.inj_on_of_nodup_map (distinctPaths left) isFirst isSecond samePath

namespace History

/-! ## Errors of arguments -/

/-- The error of one argument of a call, where some units are known to the call's own. -/
def argumentError? (catalog : Catalog) (known : List SourceUnit) (unit : SourceUnit) (call : Call)
    (argument : Argument) : Option DirectiveError :=
  (catalog.classify? call.callee).bind fun shape =>
    Resolver.error? ⟨unit.unitId, catalog⟩ (firstSite? known) shape call.scope call.line argument

def failureOf? (catalog : Catalog) (error? : Argument → Option DirectiveError) (unit : SourceUnit)
    (call : Call) : Option Failure :=
  (catalog.classify? call.callee).bind fun shape =>
    let errors := call.arguments.filterMap error?
    if errors.isEmpty then none
    else some ⟨shape.name, call.scope, unit.unitId, call.line, errors⟩

theorem callFailure?_eq (catalog : Catalog) (known : List SourceUnit) (unit : SourceUnit)
    (call : Call) :
    callFailure? catalog known unit call =
      failureOf? catalog (argumentError? catalog known unit call) unit call := by
  unfold callFailure? failureOf? argumentError? Resolver.failure?
  cases shaped : catalog.classify? call.callee with
  | none => rfl
  | some shape => simp

theorem argumentError?_of_restricts {catalog : Catalog} {known units : List SourceUnit}
    (restricts : Restricts (firstSite? known) (firstSite? units)) {unit : SourceUnit} {call : Call}
    {argument : Argument} {error : DirectiveError}
    (failed : argumentError? catalog units unit call argument = some error) :
    argumentError? catalog known unit call argument = some error := by
  obtain ⟨shape, shaped, failedThere⟩ := Option.bind_eq_some_iff.1 failed
  exact Option.bind_eq_some_iff.2 ⟨shape, shaped, restricts.error? failedThere⟩

theorem failureOf?_congr {catalog : Catalog} {error? other? : Argument → Option DirectiveError}
    {call : Call} (same : ∀ argument ∈ call.arguments, error? argument = other? argument)
    (unit : SourceUnit) :
    failureOf? catalog error? unit call = failureOf? catalog other? unit call := by
  unfold failureOf?
  rw [List.filterMap_congr same]

theorem listedFailures_congr {failure? other? : SourceUnit → Call → Option Failure}
    {units : List SourceUnit}
    (same : ∀ unit ∈ units, ∀ call ∈ unit.calls, failure? unit call = other? unit call) :
    listedFailures failure? units = listedFailures other? units := by
  unfold listedFailures
  apply List.flatMap_congr
  intro unit isListed
  have isUnit : unit ∈ units := List.mem_mergeSort.1 isListed
  apply List.filterMap_congr
  intro call isCall
  exact same unit isUnit call ((mem_sortByLine Call.line).1 isCall)

/-- The failures of a run are those that the errors of its units' arguments make. -/
def ReportsErrors (run : Run) (catalog : Catalog) (units : List SourceUnit)
    (error? : SourceUnit → Call → Argument → Option DirectiveError) : Prop :=
  run.diagnostics =
    listedFailures (fun unit call => failureOf? catalog (error? unit call) unit call) units

theorem reportsErrors_replay (options : RunOptions) {batches : List (List SourceUnit)}
    (distinct : (batches.flatten.map SourceUnit.unitId).Nodup)
    (knownTo : SourceUnit → List SourceUnit)
    (isKnown : ∀ entry ∈ withKnown [] batches, knownTo entry.1 = entry.2) :
    ReportsErrors (replay options ⟨batches, []⟩) options.catalog batches.flatten
      fun unit => argumentError? options.catalog (knownTo unit) unit := by
  unfold ReportsErrors
  rw [diagnostics_replay options [] distinct isKnown]
  apply listedFailures_congr
  intro unit _ call _
  exact callFailure?_eq options.catalog (knownTo unit) unit call

/-- With all units in one batch, every unit knows all of them. -/
theorem reportsErrors_replay_singleton (options : RunOptions) {units : List SourceUnit}
    (distinct : (units.map SourceUnit.unitId).Nodup) :
    ReportsErrors (replay options ⟨[units], []⟩) options.catalog units
      (argumentError? options.catalog units) := by
  have distinctWhole : (([units].flatten).map SourceUnit.unitId).Nodup := by
    rw [List.flatten_singleton]
    exact distinct
  have reported := reportsErrors_replay options distinctWhole (fun _ => units)
    (by simp [withKnown])
  rw [List.flatten_singleton] at reported
  exact reported

/-! ## Batches joined to one -/

theorem exists_batch {batches : List (List SourceUnit)} {unit : SourceUnit}
    (isUnit : unit ∈ batches.flatten) :
    ∃ (k : Nat) (batch : List SourceUnit), batches[k]? = some batch ∧ unit ∈ batch := by
  obtain ⟨batch, inBatches, inBatch⟩ := List.mem_flatten.1 isUnit
  obtain ⟨k, isBatch⟩ := List.mem_iff_getElem?.1 inBatches
  exact ⟨k, batch, isBatch, inBatch⟩

theorem appliedIn_flatten {catalog : Catalog} {batches : List (List SourceUnit)} {path : Path}
    (applied : AppliedIn catalog batches path) : AppliedIn catalog [batches.flatten] path := by
  obtain ⟨k, batch, unit, call, shape, argument, name, isBatch, isUnit, isCall, shaped, isArgument,
    names, isTarget, site, sited, notBelow⟩ := appliedIn_iff.1 applied
  have inFlatten : unit ∈ batches.flatten :=
    List.mem_flatten.2 ⟨batch, List.mem_of_getElem? isBatch, isUnit⟩
  have sitedInEnd : firstSite? batches.flatten path = some site :=
    restricts_take batches (k + 1) path site sited
  refine appliedIn_iff.2 ⟨0, batches.flatten, unit, call, shape, argument, name, rfl, inFlatten,
    isCall, shaped, isArgument, names, isTarget, site, ?_, notBelow⟩
  simpa using sitedInEnd

/-- A directive argument whose path is declared in some batch has it declared in its own batch or an
earlier one. -/
def DeclaredInTime (catalog : Catalog) (batches : List (List SourceUnit)) : Prop :=
  ∀ (k : Nat) (batch : List SourceUnit), batches[k]? = some batch →
    ∀ unit ∈ batch, ∀ call ∈ unit.calls, ∀ shape, catalog.classify? call.callee = some shape →
      ∀ argument ∈ call.arguments, ∀ name, shape.Names argument name →
        Declares batches.flatten ⟨call.scope, name, shape.targetKind⟩ →
          Declares (batches.take (k + 1)).flatten ⟨call.scope, name, shape.targetKind⟩

section InTime

variable {catalog : Catalog} {batches : List (List SourceUnit)}

theorem DeclaredInTime.sites_eq (inTime : DeclaredInTime catalog batches) {k : Nat}
    {batch : List SourceUnit} (isBatch : batches[k]? = some batch) {unit : SourceUnit}
    (isUnit : unit ∈ batch) {call : Call} (isCall : call ∈ unit.calls) {shape : Shape}
    (shaped : catalog.classify? call.callee = some shape) {argument : Argument}
    (isArgument : argument ∈ call.arguments) {name : String} (names : shape.Names argument name) :
    firstSite? (batches.take (k + 1)).flatten ⟨call.scope, name, shape.targetKind⟩ =
      firstSite? batches.flatten ⟨call.scope, name, shape.targetKind⟩ := by
  apply (restricts_take batches (k + 1)).eq_of_sited
  rw [isSome_firstSite?_iff, isSome_firstSite?_iff]
  exact inTime k batch isBatch unit isUnit call isCall shape shaped argument isArgument name names

theorem DeclaredInTime.appliedIn (inTime : DeclaredInTime catalog batches) {path : Path}
    (applied : AppliedIn catalog [batches.flatten] path) : AppliedIn catalog batches path := by
  obtain ⟨k, joined, unit, call, shape, argument, name, isJoined, isUnit, isCall, shaped,
    isArgument, names, isTarget, site, sited, notBelow⟩ := appliedIn_iff.1 applied
  have sitedInEnd : firstSite? batches.flatten path = some site := by
    have found := firstSite?_of_take sited
    simpa using found
  have inFlatten : unit ∈ batches.flatten := by
    have inJoined := List.mem_of_getElem? isJoined
    rw [List.mem_singleton] at inJoined
    exact inJoined ▸ isUnit
  obtain ⟨position, batch, isBatch, inBatch⟩ := exists_batch inFlatten
  have sitedInTime := inTime.sites_eq isBatch inBatch isCall shaped isArgument names
  rw [← isTarget, sitedInEnd] at sitedInTime
  exact appliedIn_iff.2 ⟨position, batch, unit, call, shape, argument, name, isBatch, inBatch,
    isCall, shaped, isArgument, names, isTarget, site, sitedInTime, notBelow⟩

theorem DeclaredInTime.argumentError?_eq (inTime : DeclaredInTime catalog batches) {k : Nat}
    {batch : List SourceUnit} (isBatch : batches[k]? = some batch) {unit : SourceUnit}
    (isUnit : unit ∈ batch) {call : Call} (isCall : call ∈ unit.calls) {argument : Argument}
    (isArgument : argument ∈ call.arguments) :
    argumentError? catalog (batches.take (k + 1)).flatten unit call argument =
      argumentError? catalog batches.flatten unit call argument := by
  unfold argumentError?
  cases shaped : catalog.classify? call.callee with
  | none => rfl
  | some shape =>
      simp only [Option.bind_some]
      unfold Resolver.error?
      cases target : shape.target? call.scope argument with
      | none => rfl
      | some path =>
          obtain ⟨name, names, rfl⟩ := Shape.target?_eq_some_iff.1 target
          have sameSite := inTime.sites_eq isBatch isUnit isCall shaped isArgument names
          unfold Resolver.reaches
          simp only [sameSite]

end InTime

/-! ## The two runs -/

/-- The results of a run that analysed units in batches, beside those of one that analysed all of
them at once: the symbols are declared in the same places and private only where the other run has
them private, and the collected ranges are the same. -/
structure IsCompletedBy (run whole : Run) : Prop where
  places : run.symbols.map Symbol.place = whole.symbols.map Symbol.place
  suppressions : ∃ mapping, (run.perform .suppressions).1 = .ok (.suppressions mapping) ∧
    (whole.perform .suppressions).1 = .ok (.suppressions mapping)
  privateKept : ∀ path, run.HasPrivate path → whole.HasPrivate path

theorem isCompletedBy_replay (options : RunOptions) {batches : List (List SourceUnit)}
    (distinct : (batches.flatten.map SourceUnit.unitId).Nodup) :
    IsCompletedBy (replay options ⟨batches, []⟩) (replay options ⟨[batches.flatten], []⟩) where
  places := by
    apply SymbolTable.map_place_symbols_eq
    change (tableAfter options batches).site? = (tableAfter options [batches.flatten]).site?
    rw [site?_tableAfter, site?_tableAfter, List.flatten_singleton]
  suppressions := exists_suppressions_of_perm options distinct (by simp)
  privateKept := fun _ isPrivate =>
    hasPrivate_of_appliedIn (appliedIn_flatten (appliedIn_of_hasPrivate isPrivate))

theorem symbols_eq_of_inTime {options : RunOptions} {batches : List (List SourceUnit)}
    (inTime : DeclaredInTime options.catalog batches) :
    (replay options ⟨batches, []⟩).symbols = (replay options ⟨[batches.flatten], []⟩).symbols := by
  apply SymbolTable.symbols_eq_of_get?_eq
  apply get?_tableAfter_eq
  · rw [List.flatten_singleton]
  · exact fun path => ⟨appliedIn_flatten, inTime.appliedIn⟩

/-- Analysing units in batches finds every symbol and range that analysing them at once finds. It
can only leave more symbols public, and more arguments with an error; and it does neither, if
whatever a directive names is declared in time. -/
theorem completed_by_one_batch (options : RunOptions) (batches : List (List SourceUnit))
    (distinct : (batches.flatten.map SourceUnit.unitId).Nodup) :
    ∃ answers run wholeAnswers whole,
      (Run.fresh options).performAll (batchRequests batches) = (answers, run) ∧
        (Run.fresh options).performAll [.addMany batches.flatten, .analyze] =
          (wholeAnswers, whole) ∧
        (∀ answer ∈ answers ++ wholeAnswers, ∃ value, answer = .ok value) ∧
        IsCompletedBy run whole ∧
        (∃ knownTo : SourceUnit → List SourceUnit,
          (∀ (k : Nat) (batch : List SourceUnit), batches[k]? = some batch →
            ∀ unit ∈ batch, knownTo unit = (batches.take (k + 1)).flatten) ∧
          ReportsErrors run options.catalog batches.flatten
            (fun unit => argumentError? options.catalog (knownTo unit) unit) ∧
          ReportsErrors whole options.catalog batches.flatten
            (argumentError? options.catalog batches.flatten) ∧
          ∀ unit ∈ batches.flatten, ∀ call ∈ unit.calls, ∀ argument ∈ call.arguments, ∀ error,
            argumentError? options.catalog batches.flatten unit call argument = some error →
              argumentError? options.catalog (knownTo unit) unit call argument = some error) ∧
        (DeclaredInTime options.catalog batches →
          run.symbols = whole.symbols ∧ run.diagnostics = whole.diagnostics) := by
  obtain ⟨answers, performed, answered⟩ := performAll_batches options batches distinct
  obtain ⟨wholeAnswers, wholePerformed, wholeAnswered⟩ :=
    performAll_batches options [batches.flatten] (by simpa using distinct)
  obtain ⟨knownTo, isKnown⟩ := exists_known distinct
  have knownToUnit : ∀ (k : Nat) (batch : List SourceUnit), batches[k]? = some batch →
      ∀ unit ∈ batch, knownTo unit = (batches.take (k + 1)).flatten := by
    intro k batch isBatch unit isUnit
    exact isKnown _ (mem_withKnown_iff.2 ⟨k, batch, isBatch, isUnit, rfl⟩)
  have reported := reportsErrors_replay options distinct knownTo isKnown
  have wholeReported := reportsErrors_replay_singleton options distinct
  refine ⟨answers, _, wholeAnswers, _, performed, wholePerformed,
    List.forall_mem_append.2 ⟨answered, wholeAnswered⟩, isCompletedBy_replay options distinct,
    ⟨knownTo, knownToUnit, reported, wholeReported, ?_⟩, ?_⟩
  · intro unit isUnit call _ argument _ error failed
    obtain ⟨k, batch, isBatch, inBatch⟩ := exists_batch isUnit
    rw [knownToUnit k batch isBatch unit inBatch]
    exact argumentError?_of_restricts (restricts_take batches (k + 1)) failed
  · intro inTime
    refine ⟨symbols_eq_of_inTime inTime, ?_⟩
    rw [reported, wholeReported]
    apply listedFailures_congr
    intro unit isUnit call isCall
    apply failureOf?_congr
    intro argument isArgument
    obtain ⟨k, batch, isBatch, inBatch⟩ := exists_batch isUnit
    simp only [knownToUnit k batch isBatch unit inBatch]
    exact inTime.argumentError?_eq isBatch inBatch isCall isArgument

private def declaresRun : SourceUnit where
  unitId := "b.py"
  lineCount := 1
  declarations := [⟨["lib"], "run", .instanceMethod, 1⟩]
  calls := []
  comments := []
  scope := ["lib"]

/-- A unit whose directive names the method, and another one that is declared nowhere. -/
private def hidesRun : SourceUnit where
  unitId := "a.py"
  lineCount := 1
  declarations := []
  calls := [⟨["lib"], "private", 1, [⟨.string, "'run'", some (.text "run")⟩,
    ⟨.string, "'stop'", some (.text "stop")⟩]⟩]
  comments := []
  scope := ["lib"]

/-- A directive may follow in a later batch. -/
theorem directive_in_later_batch :
    (([[declaresRun], [hidesRun]] : List (List SourceUnit)).flatten.map SourceUnit.unitId).Nodup ∧
      DeclaredInTime Catalog.standard [[declaresRun], [hidesRun]] ∧
      ∃ answers run wholeAnswers whole,
        (Run.fresh ⟨Catalog.standard, true, ⟨"annotate", []⟩, true, 1⟩).performAll
            (batchRequests [[declaresRun], [hidesRun]]) = (answers, run) ∧
          (Run.fresh ⟨Catalog.standard, true, ⟨"annotate", []⟩, true, 1⟩).performAll
            [.addMany [declaresRun, hidesRun], .analyze] = (wholeAnswers, whole) ∧
          IsCompletedBy run whole ∧ run.symbols = whole.symbols ∧
          run.diagnostics = whole.diagnostics := by
  have distinct :
      (([[declaresRun], [hidesRun]] : List (List SourceUnit)).flatten.map
        SourceUnit.unitId).Nodup := by
    decide
  have inTime : DeclaredInTime Catalog.standard [[declaresRun], [hidesRun]] := by
    intro k batch isBatch unit isUnit call isCall _ _ argument isArgument name names declared
    match k with
    | 0 =>
        -- The first batch has no directives.
        obtain rfl := Option.some.inj isBatch
        obtain rfl := List.mem_singleton.1 isUnit
        contradiction
    | 1 =>
        -- To the last batch all units are known.
        exact declared
    | k + 2 => contradiction
  obtain ⟨answers, run, wholeAnswers, whole, performed, wholePerformed, -, completed, -,
    ifInTime⟩ := completed_by_one_batch ⟨Catalog.standard, true, ⟨"annotate", []⟩, true, 1⟩
      [[declaresRun], [hidesRun]] distinct
  exact ⟨distinct, inTime, answers, run, wholeAnswers, whole, performed, wholePerformed, completed,
    ifInTime inTime⟩

end History

end Annotations
