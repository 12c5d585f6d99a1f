import Annotations.Proofs.History
import Annotations.Run.Worker

/-!
Contract: workers that nobody disturbs.

Left alone, the worker of a unit does with the shared table and report what the
analysis of the unit does with those of the run, in either phase.

Owns:

- `Worker.runAll_declaring` and `Worker.runAll_ofUnit`, that workers one after the
  other do what `Run.declareUnits` and `Run.processUnits` do.

Does not own:

- workers that disturb each other; see `Annotations.Proofs.Parallel.Interleaving`.
-/

namespace Annotations

namespace Worker

variable {Outcome : Type}

theorem run_step (worker : Worker Outcome) (shared : Shared) :
    (worker.step shared).1.run (worker.step shared).2 = worker.run shared := by
  cases worker with
  | assign path visibility next =>
      rw [step, run]
      cases shared.assign path visibility <;> rfl
  | _ => rfl

variable {shared : Shared}

theorem assign_eq_of_registered {path : Path} {symbol : Symbol}
    (registered : shared.table.get? path = some symbol) (visibility : Visibility) :
    shared.assign path visibility =
      .ok (symbol.visibility,
        ⟨⟨shared.table.registry.assign path visibility, shared.table.log?⟩, shared.report⟩) := by
  have found : shared.table.registry.get? path = some symbol := registered
  unfold Shared.assign Registry.setVisibility
  rw [found]
  rfl

/-- The two steps that apply an argument. -/
theorem apply_eq_of_registered {table : SymbolTable} {application : Application} {symbol : Symbol}
    (registered : table.get? application.path = some symbol) :
    table.apply application =
      ⟨table.registry.assign application.path .isPrivate,
        if symbol.visibility = .isPrivate then table.log?
        else table.log?.map (· ++ [⟨application.path, symbol.visibility, .isPrivate,
          application.unitId, application.line⟩])⟩ := by
  have found : table.registry.get? application.path = some symbol := registered
  unfold SymbolTable.apply SymbolTable.setVisibility Registry.setVisibility
  rw [found]
  rfl

theorem filterMap_cons_toList {Item Result : Type} (result? : Item → Option Result) (item : Item)
    (rest : List Item) :
    (item :: rest).filterMap result? = (result? item).toList ++ rest.filterMap result? := by
  rw [List.filterMap_cons]
  cases result? item <;> rfl

variable (shared) (resolver : Resolver)

theorem run_ofArgument (shape : Shape) (scope : Namespace) (line : Line) (argument : Argument)
    (next : Option DirectiveError → Worker Outcome) :
    (ofArgument resolver shape scope line argument next).run shared =
      (next (resolver.error? shared.table.site? shape scope line argument)).run
        ⟨shared.table.applyAll
          (resolver.argumentApplications shared.table.site? shape scope line [argument]),
          shared.report⟩ := by
  unfold ofArgument Resolver.error? Resolver.argumentApplications
  rw [List.filterMap_cons, List.filterMap_nil, Resolver.appliedPath?]
  cases shape.target? scope argument with
  | none => rfl
  | some path =>
      have sited : (shared.table.get? path).map Symbol.site = shared.table.site? path := rfl
      simp only [run, resolver.accepts_eq_reaches sited line]
      by_cases reached : resolver.reaches shared.table.site? path line = true
      · obtain ⟨site, isSited, -⟩ := Resolver.reaches_iff.1 reached
        obtain ⟨symbol, registered, -⟩ := Option.map_eq_some_iff.1 isSited
        have applied : shared.table.applyAll [⟨path, resolver.unitId, line⟩] = _ :=
          apply_eq_of_registered registered
        simp only [reached, if_true, run, assign_eq_of_registered registered, Option.filter_some,
          List.map_cons, List.map_nil, applied]
        by_cases isPrivate : symbol.visibility = .isPrivate
        · simp only [isPrivate, if_true]
        · simp only [isPrivate, if_false, run, Shared.record]
      · simp only [reached, Option.filter_some]
        rfl

theorem run_ofArguments (shape : Shape) (scope : Namespace) (line : Line)
    (arguments : List Argument) (next : List DirectiveError → Worker Outcome) :
    (ofArguments resolver shape scope line arguments next).run shared =
      (next (arguments.filterMap
        (resolver.error? shared.table.site? shape scope line))).run
        ⟨shared.table.applyAll
          (resolver.argumentApplications shared.table.site? shape scope line arguments),
          shared.report⟩ := by
  induction arguments generalizing shared next with
  | nil => rfl
  | cons argument rest inductionHypothesis =>
      rw [ofArguments, run_ofArgument, inductionHypothesis, SymbolTable.site?_applyAll,
        ← SymbolTable.applyAll_append]
      unfold Resolver.argumentApplications
      rw [← List.map_append, ← List.filterMap_append,
        filterMap_cons_toList (resolver.error? shared.table.site? shape scope line)]
      rfl

theorem run_ofCall (call : Call) (next : Option Failure → Worker Outcome) :
    (ofCall resolver call next).run shared =
      (next (resolver.failure? shared.table.site? call)).run
        ⟨shared.table.applyAll (resolver.callApplications shared.table.site? call),
          shared.report⟩ := by
  unfold ofCall Resolver.failure? Resolver.callApplications
  cases resolver.catalog.classify? call.callee with
  | none => rfl
  | some shape => exact run_ofArguments shared resolver shape call.scope call.line call.arguments _

theorem run_ofCalls (calls : List Call) (next : List Failure → Worker Outcome) :
    (ofCalls resolver calls next).run shared =
      (next (calls.filterMap (resolver.failure? shared.table.site?))).run
        ⟨shared.table.applyAll (calls.flatMap (resolver.callApplications shared.table.site?)),
          shared.report⟩ := by
  induction calls generalizing shared next with
  | nil => rfl
  | cons call rest inductionHypothesis =>
      rw [ofCalls, run_ofCall, inductionHypothesis, SymbolTable.site?_applyAll,
        ← SymbolTable.applyAll_append, List.flatMap_cons, filterMap_cons_toList]

/-- Undisturbed, the worker of a unit does what processing the unit does, and files its ranges. -/
theorem run_ofUnit (options : RunOptions) (unit : SourceUnit) :
    ∃ unitReport table, Run.processUnit options shared.table unit = .ok (unitReport, table) ∧
      (ofUnit options unit).run shared =
        (.ok unitReport, ⟨table, Run.collect shared.report [unitReport]⟩) := by
  refine ⟨_, _, History.processUnit_eq options shared.table unit, ?_⟩
  unfold ofUnit
  rw [run_ofCalls, History.trackUnit_eq]
  have applied : History.batchApplications options.catalog shared.table.site? [unit] =
      (sortByLine Call.line unit.calls).flatMap
        (Resolver.callApplications ⟨unit.unitId, options.catalog⟩ shared.table.site?) := by
    simp [History.batchApplications, Resolver.applications]
  rw [applied]
  cases enabled : options.suppressionsEnabled with
  | true => rfl
  | false =>
      have noRanges : History.unitSuppressions options unit = [] := by
        simp [History.unitSuppressions, enabled]
      simp [noRanges, run, Run.collect, History.unitReport, Resolver.failures,
        SuppressionReport.append]

/-! ## One worker after the other -/

theorem run_ofDeclarations (unitId : UnitId) (declarations : List Declaration) :
    (ofDeclarations unitId declarations).run shared =
      (.ok (), ⟨shared.table.declareAll declarations unitId, shared.report⟩) := by
  induction declarations generalizing shared with
  | nil => rfl
  | cons declaration rest inductionHypothesis => exact inductionHypothesis (shared.declare ..)

theorem runAll_declaring (units : List SourceUnit) :
    runAll (units.map declaring) shared =
      (units.map fun _ => .ok (), ⟨Run.declareUnits shared.table units, shared.report⟩) := by
  induction units generalizing shared with
  | nil => rfl
  | cons unit rest inductionHypothesis =>
      rw [List.map_cons, runAll, declaring, run_ofDeclarations]
      simp only [inductionHypothesis]
      rfl

/-- The workers of units, one after the other, do what processing the units does. -/
theorem runAll_ofUnit (options : RunOptions) (shared : Shared) (units : List SourceUnit) :
    ∃ unitReports table, Run.processUnits options shared.table units = .ok (unitReports, table) ∧
      runAll (units.map (ofUnit options)) shared =
        (unitReports.map .ok, ⟨table, Run.collect shared.report unitReports⟩) := by
  induction units generalizing shared with
  | nil => exact ⟨[], shared.table, rfl, rfl⟩
  | cons unit rest inductionHypothesis =>
      obtain ⟨unitReport, table, processed, ran⟩ := run_ofUnit shared options unit
      obtain ⟨unitReports, last, processedRest, ranRest⟩ :=
        inductionHypothesis ⟨table, Run.collect shared.report [unitReport]⟩
      refine ⟨unitReport :: unitReports, last, ?_, ?_⟩
      · rw [Run.processUnits, processed]
        simp only [bind, Except.bind, processedRest]
      · rw [List.map_cons, runAll, ran]
        simp only [ranRest]
        rfl

end Worker

end Annotations
