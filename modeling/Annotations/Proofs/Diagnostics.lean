import Annotations.Proofs.History
import Annotations.Proofs.Sorting
import Annotations.Proofs.Visibility

/-!
Contract: the failures that a run reports.

Every argument of every directive is accounted for once: it is applied, and its
symbol is private from then on, or it has one error in the failure of its call.
The failures are listed by unit, and within a unit by line.

Owns:

- `ErrorsOf` and `Accounted`, what the arguments of a directive and a call
  amount to;
- `History.diagnostics_after_batches`, which lists the failures of a run.

Does not own:

- which symbols are private; see `Annotations.Proofs.Visibility`.
-/

namespace Annotations

/-- A path is registered when the directives of a unit are processed, and not declared further down
than the line in the unit itself. -/
def Resolves (known : List SourceUnit) (unitId : UnitId) (line : Line) (path : Path) : Prop :=
  ∃ site, firstSite? known path = some site ∧ ¬ (site.unitId = unitId ∧ line < site.line)

def Run.HasPrivate (run : Run) (path : Path) : Prop :=
  ∃ symbol ∈ run.symbols, symbol.path = path ∧ symbol.visibility = .isPrivate

/-- The errors of a directive's arguments, in order: one for each argument that names nothing or
does not resolve. A name with surrogates never does. Every other argument is applied. -/
inductive ErrorsOf (resolves isPrivate : Path → Prop) (shape : Shape) (scope : Namespace) :
    List Argument → List DirectiveError → Prop where
  | nil : ErrorsOf resolves isPrivate shape scope [] []
  | invalid {argument : Argument} {arguments : List Argument} {errors : List DirectiveError}
      (unnamed : ∀ name, ¬ shape.Names argument name)
      (noCodes : ∀ codes, ¬ argument.HasCodes codes)
      (rest : ErrorsOf resolves isPrivate shape scope arguments errors) :
      ErrorsOf resolves isPrivate shape scope (argument :: arguments)
        (.invalidArgument shape.name argument shape.acceptsReferences :: errors)
  | unresolvedCodes {argument : Argument} {arguments : List Argument}
      {errors : List DirectiveError} {codes : List Nat} (hasCodes : argument.HasCodes codes)
      (rest : ErrorsOf resolves isPrivate shape scope arguments errors) :
      ErrorsOf resolves isPrivate shape scope (argument :: arguments)
        (.unresolvedCodes shape.name scope codes shape.targetKind :: errors)
  | unresolved {argument : Argument} {arguments : List Argument} {errors : List DirectiveError}
      {name : String} (names : shape.Names argument name)
      (fails : ¬ resolves ⟨scope, name, shape.targetKind⟩)
      (rest : ErrorsOf resolves isPrivate shape scope arguments errors) :
      ErrorsOf resolves isPrivate shape scope (argument :: arguments)
        (.unresolvedSymbol shape.name ⟨scope, name, shape.targetKind⟩ :: errors)
  | applied {argument : Argument} {arguments : List Argument} {errors : List DirectiveError}
      {name : String} (names : shape.Names argument name)
      (succeeds : resolves ⟨scope, name, shape.targetKind⟩)
      (madePrivate : isPrivate ⟨scope, name, shape.targetKind⟩)
      (rest : ErrorsOf resolves isPrivate shape scope arguments errors) :
      ErrorsOf resolves isPrivate shape scope (argument :: arguments) errors

/-- What a call of a unit contributes to the failures of a run: nothing, unless it is a directive
some argument of which was not applied. -/
inductive Accounted (catalog : Catalog) (known : List SourceUnit) (run : Run) (unit : SourceUnit)
    (call : Call) : Option Failure → Prop where
  | notDirective (unshaped : catalog.classify? call.callee = none) :
      Accounted catalog known run unit call none
  | applied {shape : Shape} (shaped : catalog.classify? call.callee = some shape)
      (complete : ErrorsOf (Resolves known unit.unitId call.line) run.HasPrivate shape call.scope
        call.arguments []) :
      Accounted catalog known run unit call none
  | failed {shape : Shape} {errors : List DirectiveError}
      (shaped : catalog.classify? call.callee = some shape)
      (incomplete : ErrorsOf (Resolves known unit.unitId call.line) run.HasPrivate shape call.scope
        call.arguments errors)
      (someError : errors ≠ []) :
      Accounted catalog known run unit call
        (some ⟨shape.name, call.scope, unit.unitId, call.line, errors⟩)

/-- The errors of arguments are determined. -/
theorem ErrorsOf.unique {resolves isPrivate : Path → Prop} {shape : Shape} {scope : Namespace}
    {arguments : List Argument} {errors others : List DirectiveError}
    (first : ErrorsOf resolves isPrivate shape scope arguments errors)
    (second : ErrorsOf resolves isPrivate shape scope arguments others) : errors = others := by
  have sameName : ∀ {argument : Argument} {name other : String}, shape.Names argument name →
      shape.Names argument other → name = other := by
    intro argument name other names namesOther
    simpa using names.1.symm.trans namesOther.1
  induction first generalizing others with
  | nil =>
      cases second with
      | nil => rfl
  | invalid unnamed noCodes _ inductionHypothesis =>
      cases second with
      | invalid _ _ rest => rw [inductionHypothesis rest]
      | unresolvedCodes hasCodes _ => exact absurd hasCodes (noCodes _)
      | unresolved names _ _ => exact absurd names (unnamed _)
      | applied names _ _ _ => exact absurd names (unnamed _)
  | unresolvedCodes hasCodes _ inductionHypothesis =>
      cases second with
      | invalid _ noCodes _ => exact absurd hasCodes (noCodes _)
      | unresolvedCodes hasOther rest =>
          rw [inductionHypothesis rest, hasCodes.unique hasOther]
      | unresolved names _ _ => exact absurd hasCodes (names.not_hasCodes _)
      | applied names _ _ _ => exact absurd hasCodes (names.not_hasCodes _)
  | unresolved names fails _ inductionHypothesis =>
      cases second with
      | invalid unnamed _ _ => exact absurd names (unnamed _)
      | unresolvedCodes hasCodes _ => exact absurd hasCodes (names.not_hasCodes _)
      | unresolved namesOther _ rest => rw [inductionHypothesis rest, sameName names namesOther]
      | applied namesOther succeeds _ _ => exact absurd (sameName names namesOther ▸ succeeds) fails
  | applied names succeeds _ _ inductionHypothesis =>
      cases second with
      | invalid unnamed _ _ => exact absurd names (unnamed _)
      | unresolvedCodes hasCodes _ => exact absurd hasCodes (names.not_hasCodes _)
      | unresolved namesOther fails _ => exact absurd (sameName names namesOther ▸ succeeds) fails
      | applied _ _ _ rest => exact inductionHypothesis rest

/-- The contribution of a call is determined. -/
theorem Accounted.unique {catalog : Catalog} {known : List SourceUnit} {run : Run}
    {unit : SourceUnit} {call : Call} {failure? other? : Option Failure}
    (first : Accounted catalog known run unit call failure?)
    (second : Accounted catalog known run unit call other?) : failure? = other? := by
  cases first with
  | notDirective unshaped =>
      cases second with
      | notDirective _ => rfl
      | applied _ _ => rfl
      | failed shaped _ _ =>
          rw [unshaped] at shaped
          contradiction
  | applied shaped complete =>
      cases second with
      | notDirective _ => rfl
      | applied _ _ => rfl
      | failed shapedOther incomplete someError =>
          obtain rfl := Option.some.inj (shaped.symm.trans shapedOther)
          exact absurd (incomplete.unique complete) someError
  | failed shaped incomplete someError =>
      cases second with
      | notDirective unshaped =>
          rw [unshaped] at shaped
          contradiction
      | applied shapedOther complete =>
          obtain rfl := Option.some.inj (shaped.symm.trans shapedOther)
          exact absurd (incomplete.unique complete) someError
      | failed shapedOther incompleteOther _ =>
          obtain rfl := Option.some.inj (shaped.symm.trans shapedOther)
          rw [incomplete.unique incompleteOther]

/-- The order of failures: by unit, then by line. -/
def Failure.precedes (left right : Failure) : Bool :=
  ((compare left.unitId right.unitId).then (compare left.line right.line)).isLE

theorem Failure.precedes_of_line_le {left right : Failure} (sameUnit : left.unitId = right.unitId)
    (ascending : left.line ≤ right.line) : left.precedes right = true := by
  unfold precedes
  rw [sameUnit, Std.ReflOrd.compare_self]
  exact Std.isLE_compare.2 ascending

theorem Failure.precedes_of_unitId_lt {left right : Failure}
    (ascending : compare left.unitId right.unitId = .lt) : left.precedes right = true := by
  unfold precedes
  rw [ascending]
  rfl

/-! ## The errors of a call -/

/-- The errors read off the sites are those of the arguments, if all applied paths are private. -/
theorem errorsOf_filterMap {resolver : Resolver} {known : List SourceUnit} {shape : Shape}
    {scope : Namespace} {line : Line} {isPrivate : Path → Prop} {arguments : List Argument}
    (appliedPrivate : ∀ argument ∈ arguments, ∀ path,
      resolver.appliedPath? (firstSite? known) shape scope line argument = some path →
        isPrivate path) :
    ErrorsOf (Resolves known resolver.unitId line) isPrivate shape scope arguments
      (arguments.filterMap (resolver.error? (firstSite? known) shape scope line)) := by
  induction arguments with
  | nil => exact .nil
  | cons argument rest inductionHypothesis =>
      have ofRest := inductionHypothesis fun other isOther =>
        appliedPrivate other (List.mem_cons_of_mem argument isOther)
      rw [List.filterMap_cons]
      unfold Resolver.error?
      cases target : shape.target? scope argument with
      | none =>
          by_cases withCodes : ∃ codes, argument.HasCodes codes
          · obtain ⟨codes, hasCodes⟩ := withCodes
            simp only [shape.untargeted_of_codes hasCodes scope]
            exact .unresolvedCodes hasCodes ofRest
          · simp only [shape.untargeted_of_no_codes (not_exists.1 withCodes) scope]
            exact .invalid (Shape.target?_eq_none_iff.1 target) (not_exists.1 withCodes) ofRest
      | some path =>
          obtain ⟨name, names, rfl⟩ := Shape.target?_eq_some_iff.1 target
          by_cases reached : resolver.reaches (firstSite? known)
              ⟨scope, name, shape.targetKind⟩ line = true
          · have isApplied : resolver.appliedPath? (firstSite? known) shape scope line argument =
                some ⟨scope, name, shape.targetKind⟩ :=
              Resolver.appliedPath?_eq_some_iff.2 ⟨⟨name, names, rfl⟩, reached⟩
            simp only [reached, if_true]
            exact .applied names (Resolver.reaches_iff.1 reached)
              (appliedPrivate argument (List.mem_cons_self ..) _ isApplied) ofRest
          · simp only [reached]
            refine .unresolved names ?_ ofRest
            intro resolves
            exact reached (Resolver.reaches_iff.2 resolves)

/-! ## The failures of a run -/

/-- The failures of a run are those of its reports, in another order. -/
theorem Run.diagnostics_perm (run : Run) :
    run.diagnostics.Perm (run.unitReports.flatMap UnitReport.diagnostics) :=
  (List.mergeSort_perm _ _).trans ((List.mergeSort_perm _ _).flatMap_right _)

theorem Run.mem_diagnostics_iff {run : Run} {failure : Failure} :
    failure ∈ run.diagnostics ↔ ∃ report ∈ run.unitReports, failure ∈ report.diagnostics := by
  rw [run.diagnostics_perm.mem_iff, List.mem_flatMap]

namespace History

/-- What a call contributes, read off the units known to its own. -/
def callFailure? (catalog : Catalog) (known : List SourceUnit) (unit : SourceUnit) (call : Call) :
    Option Failure :=
  Resolver.failure? ⟨unit.unitId, catalog⟩ (firstSite? known) call

/-- A path that some directive reached is private. -/
theorem hasPrivate_of_appliedIn {options : RunOptions} {batches : List (List SourceUnit)}
    {pending : List SourceUnit} {path : Path} (applied : AppliedIn options.catalog batches path) :
    (replay options ⟨batches, pending⟩).HasPrivate path := by
  have sited := isSome_firstSite?_of_appliedIn applied
  rw [← site?_tableAfter options, SymbolTable.site?, Option.isSome_map] at sited
  obtain ⟨symbol, registered⟩ := Option.isSome_iff_exists.1 sited
  have ofPath : symbol.path = path := Registry.path_of_get? registered
  subst ofPath
  rcases visibility_tableAfter options batches registered with ⟨-, isPrivate⟩ | ⟨notApplied, -⟩
  · exact ⟨symbol, SymbolTable.mem_symbols_iff.2 registered, rfl, isPrivate⟩
  · contradiction

/-- Only reached paths are private. -/
theorem appliedIn_of_hasPrivate {options : RunOptions} {batches : List (List SourceUnit)}
    {pending : List SourceUnit} {path : Path}
    (isPrivate : (replay options ⟨batches, pending⟩).HasPrivate path) :
    AppliedIn options.catalog batches path := by
  obtain ⟨symbol, isSymbol, rfl, madePrivate⟩ := isPrivate
  rcases visibility_tableAfter options batches (SymbolTable.mem_symbols_iff.1 isSymbol) with
    ⟨applied, -⟩ | ⟨-, isPublic⟩
  · exact applied
  · rw [isPublic] at madePrivate
    contradiction

/-- In the run of some batches, every call is accounted for by the units known to its own. -/
theorem accounted_callFailure? {options : RunOptions} {batches : List (List SourceUnit)}
    {pending known : List SourceUnit} {unit : SourceUnit} {call : Call}
    (isKnown : (unit, known) ∈ withKnown [] batches) (isCall : call ∈ unit.calls) :
    Accounted options.catalog known (replay options ⟨batches, pending⟩) unit call
      (callFailure? options.catalog known unit call) := by
  unfold callFailure? Resolver.failure?
  cases shaped : options.catalog.classify? call.callee with
  | none => exact .notDirective shaped
  | some shape =>
      have appliedPrivate : ∀ argument ∈ call.arguments, ∀ path,
          Resolver.appliedPath? ⟨unit.unitId, options.catalog⟩ (firstSite? known) shape call.scope
            call.line argument = some path →
          (replay options ⟨batches, pending⟩).HasPrivate path := by
        intro argument isArgument path isApplied
        obtain ⟨⟨name, names, isTarget⟩, reached⟩ := Resolver.appliedPath?_eq_some_iff.1 isApplied
        have byCall := Resolver.mem_callApplications_iff.2
          ⟨shape, argument, name, shaped, isArgument, names, isTarget, reached⟩
        have byUnit := Resolver.mem_applications_iff.2 ⟨call, isCall, byCall⟩
        exact hasPrivate_of_appliedIn ⟨(unit, known), isKnown, byUnit⟩
      have ofArguments := errorsOf_filterMap appliedPrivate
      dsimp only
      split
      next noError =>
        rw [List.isEmpty_iff.1 noError] at ofArguments
        exact .applied shaped ofArguments
      next someError =>
        exact .failed shaped ofArguments fun noError => someError (List.isEmpty_iff.2 noError)

/-- Where identifiers are distinct, the units known to a unit depend on the unit alone. -/
theorem exists_known {batches : List (List SourceUnit)}
    (distinct : (batches.flatten.map SourceUnit.unitId).Nodup) :
    ∃ knownTo : SourceUnit → List SourceUnit,
      ∀ entry ∈ withKnown [] batches, knownTo entry.1 = entry.2 := by
  refine ⟨fun unit => (((withKnown [] batches).find? fun entry => entry.1 = unit).map
    Prod.snd).getD [], ?_⟩
  intro entry isEntry
  have distinctUnits : ((withKnown [] batches).map Prod.fst).Nodup := by
    rw [map_fst_withKnown]
    exact distinct.of_map SourceUnit.unitId
  cases found : (withKnown [] batches).find? fun other => other.1 = entry.1 with
  | none => simpa using List.find?_eq_none.1 found entry isEntry
  | some other =>
      have sameUnit : other.1 = entry.1 := by simpa using List.find?_some found
      have same := List.inj_on_of_nodup_map distinctUnits (List.mem_of_find?_eq_some found) isEntry
        sameUnit
      subst same
      simp only [found, Option.map_some, Option.getD_some]

def byUnitId (units : List SourceUnit) : List SourceUnit :=
  units.mergeSort fun left right => (compare left.unitId right.unitId).isLE

/-- The failures of units, each unit's calls in the order of their lines. -/
def listedFailures (failure? : SourceUnit → Call → Option Failure) (units : List SourceUnit) :
    List Failure :=
  (byUnitId units).flatMap fun unit =>
    (sortByLine Call.line unit.calls).filterMap (failure? unit)

/-- The listing is in order, if the failure of a call stands where the call does. -/
theorem pairwise_listedFailures {failure? : SourceUnit → Call → Option Failure}
    {units : List SourceUnit} (distinct : (units.map SourceUnit.unitId).Nodup)
    (located : ∀ unit call failure, failure? unit call = some failure →
      failure.unitId = unit.unitId ∧ failure.line = call.line) :
    (listedFailures failure? units).Pairwise fun left right => left.precedes right = true := by
  unfold listedFailures
  rw [List.pairwise_flatMap]
  constructor
  · -- Within a unit lines ascend, as the calls were sorted by them.
    intro unit _
    rw [List.pairwise_filterMap]
    refine (pairwise_sortByLine Call.line unit.calls).imp ?_
    intro first second ascending left fromFirst right fromSecond
    obtain ⟨leftUnit, leftLine⟩ := located unit first left fromFirst
    obtain ⟨rightUnit, rightLine⟩ := located unit second right fromSecond
    apply Failure.precedes_of_line_le
    · rw [leftUnit, rightUnit]
    · rw [leftLine, rightLine]
      exact ascending
  · -- Between units the identifiers ascend strictly, as they are distinct.
    have distinctSorted : (byUnitId units).Pairwise fun left right =>
        left.unitId ≠ right.unitId := by
      have sameIds := (List.mergeSort_perm units fun left right =>
        (compare left.unitId right.unitId).isLE).map SourceUnit.unitId
      exact List.pairwise_map.1 (sameIds.nodup_iff.2 distinct)
    have ascending := pairwise_mergeSort_compare SourceUnit.unitId units
    refine (distinctSorted.and ascending).imp ?_
    rintro first second ⟨different, isLE⟩ left fromFirst right fromSecond
    obtain ⟨call, -, fromCall⟩ := List.mem_filterMap.1 fromFirst
    obtain ⟨other, -, fromOther⟩ := List.mem_filterMap.1 fromSecond
    apply Failure.precedes_of_unitId_lt
    rw [(located first call left fromCall).1, (located second other right fromOther).1]
    exact compare_eq_lt_of_ne isLE different

theorem pairwise_callFailures (catalog : Catalog) (knownTo : SourceUnit → List SourceUnit)
    {units : List SourceUnit} (distinct : (units.map SourceUnit.unitId).Nodup) :
    (listedFailures (fun unit => callFailure? catalog (knownTo unit) unit) units).Pairwise
      fun left right => left.precedes right = true := by
  apply pairwise_listedFailures distinct
  intro unit call failure failed
  exact Resolver.located_of_failure? failed

/-- The failures of the run of some batches, listed from what is known to each unit. -/
theorem diagnostics_replay (options : RunOptions) {batches : List (List SourceUnit)}
    (pending : List SourceUnit) (distinct : (batches.flatten.map SourceUnit.unitId).Nodup)
    {knownTo : SourceUnit → List SourceUnit}
    (isKnown : ∀ entry ∈ withKnown [] batches, knownTo entry.1 = entry.2) :
    (replay options ⟨batches, pending⟩).diagnostics =
      listedFailures (fun unit => callFailure? options.catalog (knownTo unit) unit)
        batches.flatten := by
  have reports : reportsAfter options batches =
      batches.flatten.map fun unit => unitReport options (firstSite? (knownTo unit)) unit := by
    rw [← map_fst_withKnown [], List.map_map]
    apply List.map_congr_left
    intro entry isEntry
    rw [Function.comp_apply, isKnown entry isEntry]
  have sorted : (replay options ⟨batches, pending⟩).sortedUnitReports =
      (byUnitId batches.flatten).map fun unit =>
        unitReport options (firstSite? (knownTo unit)) unit := by
    unfold Run.sortedUnitReports byUnitId
    change (reportsAfter options batches).mergeSort _ = _
    rw [reports]
    symm
    apply List.map_mergeSort
    intro left _ right _
    rfl
  unfold Run.diagnostics
  rw [sorted, List.flatMap_map]
  exact List.mergeSort_of_pairwise (pairwise_callFailures options.catalog knownTo distinct)

/-- After batches of units, the failures are those of the analysed units in the order of their
identifiers, and of each unit's calls in the order of their lines. Every call is accounted for: it
has a failure only if some argument of it was not applied, and the errors are those of such
arguments. -/
theorem diagnostics_after_batches (options : RunOptions) (batches : List (List SourceUnit))
    (pending : List SourceUnit)
    (distinct : ((batches.flatten ++ pending).map SourceUnit.unitId).Nodup) :
    ∃ answers run,
      (Run.fresh options).performAll (batchRequests batches ++ [.addMany pending]) =
          (answers, run) ∧
        (∀ answer ∈ answers, ∃ value, answer = .ok value) ∧
        ∃ failure? : SourceUnit → Call → Option Failure,
          run.diagnostics = listedFailures failure? batches.flatten ∧
            (∀ (k : Nat) (batch : List SourceUnit), batches[k]? = some batch →
              ∀ unit ∈ batch, ∀ call ∈ unit.calls,
                Accounted options.catalog (batches.take (k + 1)).flatten run unit call
                  (failure? unit call)) ∧
            run.diagnostics.Pairwise fun left right => left.precedes right = true := by
  obtain ⟨answers, performed, answered⟩ :=
    performAll_batches_pending options batches pending distinct
  have distinctAnalysed : (batches.flatten.map SourceUnit.unitId).Nodup :=
    distinct.sublist ((List.sublist_append_left batches.flatten pending).map SourceUnit.unitId)
  obtain ⟨knownTo, isKnown⟩ := exists_known distinctAnalysed
  have listed := diagnostics_replay options pending distinctAnalysed isKnown
  refine ⟨answers, _, performed, answered, _, listed, ?_, ?_⟩
  · intro k batch isBatch unit isUnit call isCall
    have isEntry := mem_withKnown_iff.2 ⟨k, batch, isBatch, isUnit, rfl⟩
    rw [isKnown _ isEntry]
    exact accounted_callFailure? isEntry isCall
  · rw [listed]
    exact pairwise_callFailures options.catalog knownTo distinctAnalysed

/-- A directive whose first argument names a method; the second names nothing, and the third what is
nowhere declared. -/
private def partialCall : Call :=
  ⟨["b"], "private", 2, [⟨.string, "'run'", some (.text "run")⟩, ⟨.splat, "*names", none⟩,
    ⟨.string, "'stop'", some (.text "stop")⟩]⟩

private def partlyApplied : SourceUnit where
  unitId := "b.py"
  lineCount := 3
  declarations := [⟨["b"], "run", .instanceMethod, 1⟩]
  calls := [⟨["b"], "print", 2, []⟩, partialCall]
  comments := []
  scope := ["b"]

/-- A unit that declares what is missing, but is not analysed. -/
private def declaresLate : SourceUnit where
  unitId := "a.py"
  lineCount := 1
  declarations := [⟨["b"], "stop", .instanceMethod, 1⟩]
  calls := []
  comments := []
  scope := ["a"]

private def partialFailure : Failure :=
  ⟨"private", ["b"], "b.py", 2, [.invalidArgument "private" ⟨.splat, "*names", none⟩ false,
    .unresolvedSymbol "private" ⟨["b"], "stop", .instanceMethod⟩]⟩

private theorem errors_partialCall {isPrivate : Path → Prop} {errors : List DirectiveError}
    (errorsOf : ErrorsOf (Resolves [partlyApplied] "b.py" 2) isPrivate
      ⟨.markMethodPrivate, .instanceMethod, "private"⟩ ["b"] partialCall.arguments errors) :
    errors = partialFailure.errors := by
  have runResolves : Resolves [partlyApplied] "b.py" 2 ⟨["b"], "run", .instanceMethod⟩ :=
    ⟨⟨"b.py", 1⟩, by decide, by decide⟩
  have stopFails : ¬ Resolves [partlyApplied] "b.py" 2 ⟨["b"], "stop", .instanceMethod⟩ := by
    intro resolves
    obtain ⟨site, found, -⟩ := resolves
    have absent : firstSite? [partlyApplied] ⟨["b"], "stop", .instanceMethod⟩ = none := by decide
    rw [absent] at found
    contradiction
  have namesRun : Shape.Names ⟨.markMethodPrivate, .instanceMethod, "private"⟩
      ⟨.string, "'run'", some (.text "run")⟩ "run" :=
    ⟨rfl, Or.inl ⟨rfl, by decide⟩⟩
  cases errorsOf with
  | invalid unnamed _ _ => exact absurd namesRun (unnamed "run")
  | unresolvedCodes hasCodes _ => exact absurd hasCodes (namesRun.not_hasCodes _)
  | unresolved names fails _ =>
      obtain rfl : "run" = _ := by simpa using names.1
      exact absurd runResolves fails
  | applied _ _ _ rest =>
      refine rest.unique (.invalid ?_ ?_ (.unresolved ⟨rfl, ?_⟩ stopFails .nil))
      · rintro name ⟨named, -⟩
        contradiction
      · rintro codes ⟨isString, -⟩
        contradiction
      · exact Or.inl ⟨rfl, by decide⟩

private theorem partialFailure_of_accounted {run : Run} {failure? : Option Failure}
    (accounted : Accounted Catalog.standard [partlyApplied] run partlyApplied partialCall
      failure?) :
    failure? = some partialFailure := by
  have classified : Catalog.standard.classify? partialCall.callee =
      some ⟨.markMethodPrivate, .instanceMethod, "private"⟩ := by
    decide
  cases accounted with
  | notDirective unshaped =>
      rw [classified] at unshaped
      contradiction
  | applied shaped complete =>
      obtain rfl := Option.some.inj (classified.symm.trans shaped)
      exact absurd (errors_partialCall complete) (by decide)
  | failed shaped incomplete _ =>
      obtain rfl := Option.some.inj (classified.symm.trans shaped)
      rw [errors_partialCall incomplete]
      rfl

/-- A directive that is partly applied fails with one error for each of its other arguments. -/
theorem partly_applied_failure :
    ((([[partlyApplied]] : List (List SourceUnit)).flatten ++ [declaresLate]).map
        SourceUnit.unitId).Nodup ∧
      ∃ answers run,
        (Run.fresh ⟨Catalog.standard, true, ⟨"annotate", []⟩, true, 1⟩).performAll
            (batchRequests [[partlyApplied]] ++ [.addMany [declaresLate]]) = (answers, run) ∧
          run.diagnostics = [partialFailure] := by
  have distinct : ((([[partlyApplied]] : List (List SourceUnit)).flatten ++ [declaresLate]).map
      SourceUnit.unitId).Nodup := by
    decide
  obtain ⟨answers, run, performed, -, failure?, listed, accounted, -⟩ :=
    diagnostics_after_batches ⟨Catalog.standard, true, ⟨"annotate", []⟩, true, 1⟩ [[partlyApplied]]
      [declaresLate] distinct
  refine ⟨distinct, answers, run, performed, ?_⟩
  have ofCalls := accounted 0 [partlyApplied] rfl partlyApplied (List.mem_singleton.2 rfl)
  have unrelated : failure? partlyApplied ⟨["b"], "print", 2, []⟩ = none :=
    (ofCalls _ (by simp [partlyApplied])).unique (.notDirective (by decide))
  have failed := partialFailure_of_accounted (ofCalls partialCall (by simp [partlyApplied]))
  have inOrder : sortByLine Call.line partlyApplied.calls =
      [⟨["b"], "print", 2, []⟩, partialCall] :=
    List.mergeSort_of_pairwise (by decide)
  rw [listed, listedFailures, byUnitId, List.flatten_singleton, List.mergeSort_singleton,
    List.flatMap_singleton, inOrder]
  simp only [List.filterMap_cons, List.filterMap_nil, unrelated, failed]

end History

end Annotations
