import Annotations.Resolver
import Annotations.Proofs.Registry
import Annotations.Proofs.Sorting

/-!
Contract: what the directives of one unit do, told in advance.

Whether an argument is applied depends on where its target was declared, never
on visibilities. Processing directives only changes visibilities, so the outcome
of a whole unit can be read off the table as it stood before: its failures are
`Resolver.failures`, and the table after it is the old one with
`Resolver.applications` applied.

Owns:

- `Shape.Names`, the names that an argument refers to;
- the failures and applications of a unit as functions of the declared sites;
- `Resolver.processUnit_eq`, which says that processing a unit is never refused
  and has exactly these effects.

Does not own:

- the order of units and batches; see `Annotations.Proofs.History`.
-/

namespace Annotations

/-- An argument refers to a name: it is a nonempty string literal of this value or, for a directive
on constants, an identifier of this value that has the shape of a constant's name. -/
def Shape.Names (shape : Shape) (argument : Argument) (name : String) : Prop :=
  argument.value = some (.text name) ∧
    (argument.kind = .string ∧ name ≠ "" ∨
      shape.kind = .markConstantPrivate ∧ argument.kind = .identifier ∧
        isConstantName name = true)

/-- An argument is a string literal whose code points are not all characters. -/
def Argument.HasCodes (argument : Argument) (codes : List Nat) : Prop :=
  argument.kind = .string ∧ ∃ unwritable, argument.value = some (.codes codes unwritable)

theorem Argument.HasCodes.unique {argument : Argument} {codes others : List Nat}
    (first : argument.HasCodes codes) (second : argument.HasCodes others) : codes = others := by
  obtain ⟨-, _, isValue⟩ := first
  obtain ⟨-, _, isOther⟩ := second
  simpa using isValue.symm.trans isOther

theorem Shape.Names.not_hasCodes {shape : Shape} {argument : Argument} {name : String}
    (names : shape.Names argument name) (codes : List Nat) : ¬ argument.HasCodes codes := by
  rintro ⟨-, _, isValue⟩
  simpa using names.1.symm.trans isValue

theorem Argument.text?_eq_some_iff {argument : Argument} {name : String} :
    argument.text? = some name ↔ argument.value = some (.text name) := by
  unfold text?
  split
  next value isText => simp [isText]
  next noText => simpa using noText name

theorem Shape.targetName?_eq_some_iff {shape : Shape} {argument : Argument} {name : String} :
    shape.targetName? argument = some name ↔ shape.Names argument name := by
  unfold targetName? Names acceptsReferences
  cases argument.kind with
  | string => simp [Option.filter_eq_some_iff, Argument.text?_eq_some_iff]
  | identifier =>
      by_cases marksConstants : shape.kind = .markConstantPrivate
      · simp [marksConstants, Option.filter_eq_some_iff, Argument.text?_eq_some_iff]
      · simp [marksConstants]
  | _ => simp

theorem Shape.target?_eq_some_iff {shape : Shape} {scope : Namespace} {argument : Argument}
    {path : Path} :
    shape.target? scope argument = some path ↔
      ∃ name, shape.Names argument name ∧ path = ⟨scope, name, shape.targetKind⟩ := by
  unfold target?
  rw [Option.map_eq_some_iff]
  constructor
  · intro isTarget
    obtain ⟨name, names, rfl⟩ := isTarget
    exact ⟨name, targetName?_eq_some_iff.1 names, rfl⟩
  · intro isNamed
    obtain ⟨name, names, rfl⟩ := isNamed
    exact ⟨name, targetName?_eq_some_iff.2 names, rfl⟩

theorem Shape.target?_eq_none_iff {shape : Shape} {scope : Namespace} {argument : Argument} :
    shape.target? scope argument = none ↔ ∀ name, ¬ shape.Names argument name := by
  rw [Option.eq_none_iff_forall_ne_some]
  constructor
  · intro without name names
    exact without _ (target?_eq_some_iff.2 ⟨name, names, rfl⟩)
  · intro without path isTarget
    obtain ⟨name, names, -⟩ := target?_eq_some_iff.1 isTarget
    exact without name names

theorem Shape.untargeted_of_codes {argument : Argument} {codes : List Nat}
    (hasCodes : argument.HasCodes codes) (shape : Shape) (scope : Namespace) :
    shape.untargeted scope argument =
      .unresolvedCodes shape.name scope codes shape.targetKind := by
  obtain ⟨isString, unwritable, isValue⟩ := hasCodes
  unfold untargeted
  rw [isString, isValue]

theorem Shape.untargeted_of_no_codes {argument : Argument}
    (noCodes : ∀ codes, ¬ argument.HasCodes codes) (shape : Shape) (scope : Namespace) :
    shape.untargeted scope argument =
      .invalidArgument shape.name argument shape.acceptsReferences := by
  unfold untargeted
  split
  next codes unwritable isString isValue =>
    exact absurd ⟨isString, unwritable, isValue⟩ (noCodes codes)
  next => rfl

theorem Shape.untargeted_ne_unresolvedSymbol (shape : Shape) (scope : Namespace)
    (argument : Argument) (directive : String) (path : Path) :
    shape.untargeted scope argument ≠ .unresolvedSymbol directive path := by
  unfold untargeted
  split <;> simp

namespace Resolver

/-! ## Outcomes as functions of the declared sites -/

/-- A path is declared, and no later than the line where it belongs to the resolver's own unit. -/
def reaches (resolver : Resolver) (sites : Path → Option Site) (path : Path) (line : Line) : Bool :=
  match sites path with
  | some site => !(site.unitId == resolver.unitId && decide (line < site.line))
  | none => false

theorem reaches_iff {resolver : Resolver} {sites : Path → Option Site} {path : Path} {line : Line} :
    resolver.reaches sites path line = true ↔
      ∃ site, sites path = some site ∧ ¬ (site.unitId = resolver.unitId ∧ line < site.line) := by
  unfold reaches
  cases sites path with
  | none => simp
  | some site => simp [imp_iff_not_or]

theorem accepts_eq_reaches (resolver : Resolver) {sites : Path → Option Site} {path : Path}
    {symbol? : Option Symbol} (sited : symbol?.map Symbol.site = sites path) (line : Line) :
    resolver.accepts line symbol? = resolver.reaches sites path line := by
  unfold reaches
  rw [← sited]
  cases symbol? <;> rfl

theorem isDeclared_eq_reaches (resolver : Resolver) (table : SymbolTable) (path : Path)
    (line : Line) :
    resolver.isDeclared table path line = resolver.reaches table.site? path line :=
  resolver.accepts_eq_reaches rfl line

def appliedPath? (resolver : Resolver) (sites : Path → Option Site) (shape : Shape)
    (scope : Namespace) (line : Line) (argument : Argument) : Option Path :=
  (shape.target? scope argument).filter fun path => resolver.reaches sites path line

def error? (resolver : Resolver) (sites : Path → Option Site) (shape : Shape)
    (scope : Namespace) (line : Line) (argument : Argument) : Option DirectiveError :=
  match shape.target? scope argument with
  | none => some (shape.untargeted scope argument)
  | some path =>
      if resolver.reaches sites path line then none
      else some (.unresolvedSymbol shape.name path)

def argumentApplications (resolver : Resolver) (sites : Path → Option Site) (shape : Shape)
    (scope : Namespace) (line : Line) (arguments : List Argument) : List Application :=
  (arguments.filterMap (resolver.appliedPath? sites shape scope line)).map fun path =>
    ⟨path, resolver.unitId, line⟩

def callApplications (resolver : Resolver) (sites : Path → Option Site) (call : Call) :
    List Application :=
  match resolver.catalog.classify? call.callee with
  | none => []
  | some shape =>
      resolver.argumentApplications sites shape call.scope call.line call.arguments

def failure? (resolver : Resolver) (sites : Path → Option Site) (call : Call) : Option Failure :=
  match resolver.catalog.classify? call.callee with
  | none => none
  | some shape =>
      let errors := call.arguments.filterMap (resolver.error? sites shape call.scope call.line)
      if errors.isEmpty then none
      else some ⟨shape.name, call.scope, resolver.unitId, call.line, errors⟩

/-- The applications that a unit makes, in processing order. -/
def applications (resolver : Resolver) (sites : Path → Option Site) (unit : SourceUnit) :
    List Application :=
  (sortByLine Call.line unit.calls).flatMap (resolver.callApplications sites)

def failures (resolver : Resolver) (sites : Path → Option Site) (unit : SourceUnit) :
    List Failure :=
  (sortByLine Call.line unit.calls).filterMap (resolver.failure? sites)

/-! ## Processing has these outcomes -/

theorem processArgument_eq (resolver : Resolver) (shape : Shape) (scope : Namespace) (line : Line)
    (table : SymbolTable) (argument : Argument) :
    resolver.processArgument shape scope line table argument =
      .ok (resolver.error? table.site? shape scope line argument,
        table.applyAll
          (resolver.argumentApplications table.site? shape scope line [argument])) := by
  unfold processArgument error? argumentApplications
  rw [List.filterMap_cons, List.filterMap_nil, appliedPath?]
  cases shape.target? scope argument with
  | none => rfl
  | some path =>
      simp only [isDeclared_eq_reaches]
      by_cases reached : resolver.reaches table.site? path line = true
      · obtain ⟨site, sited, -⟩ := reaches_iff.1 reached
        obtain ⟨symbol, registered, -⟩ := Option.map_eq_some_iff.1 sited
        have applied := SymbolTable.setVisibility_eq_apply ⟨path, resolver.unitId, line⟩ registered
        simp only [reached, applied, Option.filter_some]
        rfl
      · simp only [reached, Option.filter_some]
        rfl

theorem processArguments_eq (resolver : Resolver) (shape : Shape) (scope : Namespace) (line : Line)
    (table : SymbolTable) (arguments : List Argument) :
    resolver.processArguments shape scope line table arguments =
      .ok (arguments.filterMap (resolver.error? table.site? shape scope line),
        table.applyAll
          (resolver.argumentApplications table.site? shape scope line arguments)) := by
  induction arguments generalizing table with
  | nil => rfl
  | cons argument rest inductionHypothesis =>
      -- The sites are those before the first argument: applying it moves no declaration.
      rw [processArguments, processArgument_eq]
      simp only [bind, Except.bind]
      rw [inductionHypothesis, SymbolTable.site?_applyAll, ← SymbolTable.applyAll_append]
      unfold argumentApplications
      rw [← List.map_append, ← List.filterMap_append, List.filterMap_cons]
      cases resolver.error? table.site? shape scope line argument <;> rfl

theorem processDirective_eq (resolver : Resolver) (table : SymbolTable) (call : Call) :
    resolver.processDirective call.scope table call =
      .ok (resolver.failure? table.site? call,
        table.applyAll (resolver.callApplications table.site? call)) := by
  unfold processDirective failure? callApplications
  cases resolver.catalog.classify? call.callee with
  | none => rfl
  | some shape =>
      simp only [processArguments_eq]
      rfl

theorem processCalls_eq (resolver : Resolver) (table : SymbolTable) (calls : List Call) :
    resolver.processCalls table calls =
      .ok (calls.filterMap (resolver.failure? table.site?),
        table.applyAll (calls.flatMap (resolver.callApplications table.site?))) := by
  induction calls generalizing table with
  | nil => rfl
  | cons call rest inductionHypothesis =>
      rw [processCalls, processDirective_eq]
      simp only [bind, Except.bind]
      rw [inductionHypothesis, SymbolTable.site?_applyAll, ← SymbolTable.applyAll_append,
        List.flatMap_cons, List.filterMap_cons]
      cases resolver.failure? table.site? call <;> rfl

/-- Processing a unit is never refused. Its failures and applications are those read off the sites
before it. -/
theorem processUnit_eq (resolver : Resolver) (table : SymbolTable) (unit : SourceUnit) :
    resolver.processUnit table unit =
      .ok (resolver.failures table.site? unit,
        table.applyAll (resolver.applications table.site? unit)) :=
  resolver.processCalls_eq table (sortByLine Call.line unit.calls)

/-! ## Where the outcomes stand -/

/-- The failure of a call stands where the call does. -/
theorem located_of_failure? {resolver : Resolver} {sites : Path → Option Site}
    {call : Call} {failure : Failure} (failed : resolver.failure? sites call = some failure) :
    failure.unitId = resolver.unitId ∧ failure.line = call.line := by
  unfold failure? at failed
  cases shaped : resolver.catalog.classify? call.callee with
  | none => simp [shaped] at failed
  | some shape =>
      simp only [shaped, Option.ite_none_left_eq_some] at failed
      obtain ⟨-, sameFailure⟩ := failed
      obtain rfl := Option.some.inj sameFailure
      exact ⟨rfl, rfl⟩

/-- The applications of a call stand where the call does. -/
theorem place_of_mem_callApplications {resolver : Resolver} {sites : Path → Option Site}
    {call : Call} {application : Application}
    (isApplication : application ∈ resolver.callApplications sites call) :
    application.unitId = resolver.unitId ∧ application.line = call.line := by
  unfold callApplications at isApplication
  cases shaped : resolver.catalog.classify? call.callee with
  | none => simp [shaped] at isApplication
  | some shape =>
      simp only [shaped, argumentApplications, List.mem_map] at isApplication
      obtain ⟨path, -, rfl⟩ := isApplication
      exact ⟨rfl, rfl⟩

/-- Lines ascend in the applications of a unit. -/
theorem pairwise_applications (resolver : Resolver) (sites : Path → Option Site)
    (unit : SourceUnit) :
    (resolver.applications sites unit).Pairwise fun left right => left.line ≤ right.line := by
  unfold applications
  rw [List.pairwise_flatMap]
  refine ⟨?_, (pairwise_sortByLine Call.line unit.calls).imp ?_⟩
  · intro call _
    refine List.pairwise_of_forall_mem_list ?_
    intro left isLeft right isRight
    obtain ⟨-, onLine⟩ := place_of_mem_callApplications isLeft
    obtain ⟨-, alsoOnLine⟩ := place_of_mem_callApplications isRight
    exact Int.le_of_eq (onLine.trans alsoOnLine.symm)
  · intro call later ascending left isLeft right isRight
    rwa [(place_of_mem_callApplications isLeft).2, (place_of_mem_callApplications isRight).2]

/-- Lines ascend in the failures of a unit. -/
theorem pairwise_failures (resolver : Resolver) (sites : Path → Option Site) (unit : SourceUnit) :
    (resolver.failures sites unit).Pairwise fun left right => left.line ≤ right.line := by
  unfold failures
  refine (pairwise_sortByLine Call.line unit.calls).filterMap _ ?_
  intro call later ascending left ofCall right ofLater
  rwa [(located_of_failure? ofCall).2, (located_of_failure? ofLater).2]

/-! ## Which paths are applied -/

theorem appliedPath?_eq_some_iff {resolver : Resolver} {sites : Path → Option Site} {shape : Shape}
    {scope : Namespace} {line : Line} {argument : Argument} {path : Path} :
    resolver.appliedPath? sites shape scope line argument = some path ↔
      (∃ name, shape.Names argument name ∧ path = ⟨scope, name, shape.targetKind⟩) ∧
        resolver.reaches sites path line = true := by
  unfold appliedPath?
  rw [Option.filter_eq_some_iff, Shape.target?_eq_some_iff]

theorem mem_callApplications_iff {resolver : Resolver} {sites : Path → Option Site} {call : Call}
    {path : Path} :
    path ∈ (resolver.callApplications sites call).map Application.path ↔
      ∃ shape argument name, resolver.catalog.classify? call.callee = some shape ∧
        argument ∈ call.arguments ∧ shape.Names argument name ∧
        path = ⟨call.scope, name, shape.targetKind⟩ ∧
        resolver.reaches sites path call.line = true := by
  unfold callApplications
  cases resolver.catalog.classify? call.callee with
  | none => simp
  | some shape =>
      simp only [argumentApplications, List.map_map, Function.comp_def, List.map_id',
        List.mem_filterMap, appliedPath?_eq_some_iff, Option.some.injEq]
      constructor
      · intro applied
        obtain ⟨argument, isArgument, ⟨name, names, isTarget⟩, reached⟩ := applied
        exact ⟨shape, argument, name, rfl, isArgument, names, isTarget, reached⟩
      · intro directive
        obtain ⟨_, argument, name, rfl, isArgument, names, isTarget, reached⟩ := directive
        exact ⟨argument, isArgument, ⟨name, names, isTarget⟩, reached⟩

theorem mem_applications_iff {resolver : Resolver} {sites : Path → Option Site} {unit : SourceUnit}
    {path : Path} :
    path ∈ (resolver.applications sites unit).map Application.path ↔
      ∃ call ∈ unit.calls, path ∈ (resolver.callApplications sites call).map Application.path := by
  unfold applications sortByLine
  rw [List.map_flatMap, List.mem_flatMap]
  simp only [List.mem_mergeSort]

/-! ## Which paths are refused -/

/-- The errors of a failure are those of the arguments that are not applied. -/
theorem errors_of_failure? {resolver : Resolver} {sites : Path → Option Site} {call : Call}
    {failure : Failure} (failed : resolver.failure? sites call = some failure) :
    ∃ shape, resolver.catalog.classify? call.callee = some shape ∧
      failure.errors = call.arguments.filterMap
        (resolver.error? sites shape call.scope call.line) := by
  unfold failure? at failed
  cases shaped : resolver.catalog.classify? call.callee with
  | none => simp [shaped] at failed
  | some shape =>
      simp only [shaped, Option.ite_none_left_eq_some] at failed
      obtain ⟨-, sameFailure⟩ := failed
      obtain rfl := Option.some.inj sameFailure
      exact ⟨shape, rfl, rfl⟩

theorem error?_eq_unresolvedSymbol_iff {resolver : Resolver} {sites : Path → Option Site}
    {shape : Shape} {scope : Namespace} {line : Line} {argument : Argument} {directive : String}
    {path : Path} :
    resolver.error? sites shape scope line argument = some (.unresolvedSymbol directive path) ↔
      shape.name = directive ∧ shape.target? scope argument = some path ∧
        resolver.reaches sites path line = false := by
  unfold error?
  cases shape.target? scope argument with
  | none => simp [shape.untargeted_ne_unresolvedSymbol]
  | some target =>
      by_cases same : target = path
      · subst same
        cases reached : resolver.reaches sites target line <;> simp [reached]
      · cases reached : resolver.reaches sites target line <;> simp [reached, same]

/-- Where a call fails with an unresolved path, the path is not reached. -/
theorem not_reaches_of_unresolved {resolver : Resolver} {sites : Path → Option Site} {call : Call}
    {failure : Failure} {directive : String} {path : Path}
    (failed : resolver.failure? sites call = some failure)
    (isError : .unresolvedSymbol directive path ∈ failure.errors) :
    resolver.reaches sites path call.line = false := by
  obtain ⟨shape, -, areErrors⟩ := errors_of_failure? failed
  rw [areErrors] at isError
  obtain ⟨argument, -, ofArgument⟩ := List.mem_filterMap.1 isError
  exact (error?_eq_unresolvedSymbol_iff.1 ofArgument).2.2

/-- A call that names a path it does not reach fails with this path unresolved. -/
theorem exists_failure?_of_unreached {resolver : Resolver} {sites : Path → Option Site}
    {call : Call} {shape : Shape} {argument : Argument} {path : Path}
    (unreached : resolver.reaches sites path call.line = false)
    (shaped : resolver.catalog.classify? call.callee = some shape)
    (isArgument : argument ∈ call.arguments)
    (isTarget : shape.target? call.scope argument = some path) :
    ∃ failure, resolver.failure? sites call = some failure ∧
      .unresolvedSymbol shape.name path ∈ failure.errors := by
  have isError : .unresolvedSymbol shape.name path ∈
      call.arguments.filterMap (resolver.error? sites shape call.scope call.line) :=
    List.mem_filterMap.2
      ⟨argument, isArgument, error?_eq_unresolvedSymbol_iff.2 ⟨rfl, isTarget, unreached⟩⟩
  unfold failure?
  simp only [shaped, List.isEmpty_iff, if_neg (List.ne_nil_of_mem isError)]
  exact ⟨_, rfl, isError⟩

end Resolver

end Annotations
