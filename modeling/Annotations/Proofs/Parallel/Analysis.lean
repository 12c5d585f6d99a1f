import Annotations.Proofs.Parallel.Declaring
import Annotations.Proofs.Parallel.Interleaving

/-!
Contract: what an analysis by workers leaves behind, under every schedule.

The first phase leaves one table of several. It is a race: where more than one unit
declares a path, whichever comes first registers it. The second phase has no such
choice: with the table of the first phase given, all its results are but for the
directives that the records of changes name. Each of these is a call of a unit all
the same.

Owns:

- `Worker.RecordsOnly`, the changes that a worker may record;
- `Schedule.declared`, the table of the first phase;
- `Run.IsAnalysedInto`, the results of an analysis, and `Run.exists_analyzeUnder`,
  that every schedule leads to such results;
- `Run.analyzeUnder_eq_analyze`, the schedules that are those of `Run.analyze`.
-/

namespace Annotations

/-! ## Records of a worker -/

/-- Whatever a worker is answered, it records changes of this kind only. -/
def Worker.RecordsOnly {Outcome : Type} (allowed : Change → Prop) : Worker Outcome → Prop
  | .finished _ => True
  | .declare _ _ next => next.RecordsOnly allowed
  | .lookup _ next => ∀ symbol?, (next symbol?).RecordsOnly allowed
  | .assign _ _ next => ∀ before, (next before).RecordsOnly allowed
  | .record change next => allowed change ∧ next.RecordsOnly allowed
  | .append _ _ next => next.RecordsOnly allowed

namespace Worker

variable {Outcome : Type} {allowed : Change → Prop} {resolver : Resolver}

theorem recordsOnly_ofArgument {shape : Shape} {scope : Namespace} {line : Line}
    {argument : Argument} {next : Option DirectiveError → Worker Outcome}
    (placed : ∀ path before, allowed ⟨path, before, .isPrivate, resolver.unitId, line⟩)
    (rest : ∀ error?, (next error?).RecordsOnly allowed) :
    (ofArgument resolver shape scope line argument next).RecordsOnly allowed := by
  unfold ofArgument
  cases shape.target? scope argument with
  | none => exact rest _
  | some path =>
      intro symbol?
      dsimp only
      split
      · intro before
        dsimp only
        split
        · exact rest none
        · exact ⟨placed path before, rest none⟩
      · exact rest _

theorem recordsOnly_ofArguments {shape : Shape} {scope : Namespace} {line : Line}
    {arguments : List Argument} {next : List DirectiveError → Worker Outcome}
    (placed : ∀ path before, allowed ⟨path, before, .isPrivate, resolver.unitId, line⟩)
    (rest : ∀ errors, (next errors).RecordsOnly allowed) :
    (ofArguments resolver shape scope line arguments next).RecordsOnly allowed := by
  induction arguments generalizing next with
  | nil => exact rest []
  | cons argument others inductionHypothesis =>
      exact recordsOnly_ofArgument placed fun error? => inductionHypothesis fun errors => rest _

theorem recordsOnly_ofCalls {calls : List Call} {next : List Failure → Worker Outcome}
    (placed : ∀ call ∈ calls, ∀ path before,
      allowed ⟨path, before, .isPrivate, resolver.unitId, call.line⟩)
    (rest : ∀ failures, (next failures).RecordsOnly allowed) :
    (ofCalls resolver calls next).RecordsOnly allowed := by
  induction calls generalizing next with
  | nil => exact rest []
  | cons call others inductionHypothesis =>
      obtain ⟨ofFirst, ofOthers⟩ := List.forall_mem_cons.1 placed
      have later (failure? : Option Failure) :
          (ofCalls resolver others fun failures =>
            next (failure?.toList ++ failures)).RecordsOnly allowed :=
        inductionHypothesis ofOthers fun failures => rest _
      rw [ofCalls, ofCall]
      cases resolver.catalog.classify? call.callee with
      | none => exact later none
      | some shape => exact recordsOnly_ofArguments ofFirst fun errors => later _

end Worker

def Change.NamesCallOf (units : List SourceUnit) (change : Change) : Prop :=
  ∃ unit ∈ units, ∃ call ∈ unit.calls, change.unitId = unit.unitId ∧ change.line = call.line

theorem Worker.recordsOnly_ofUnit (options : RunOptions) {units : List SourceUnit}
    {unit : SourceUnit} (isUnit : unit ∈ units) (changes : List Change) :
    (ofUnit options unit).RecordsOnly fun change =>
      change ∈ changes ∨ change.NamesCallOf units := by
  apply recordsOnly_ofCalls
  · intro call isCall path before
    exact Or.inr ⟨unit, isUnit, call, (mem_sortByLine Call.line).1 isCall, rfl, rfl⟩
  · intro failures
    rw [History.trackUnit_eq]
    dsimp only
    split <;> trivial

structure Pool.IsLogged {Outcome : Type} (allowed : Change → Prop) (pool : Pool Outcome) :
    Prop where
  workers : ∀ worker ∈ pool.workers, worker.RecordsOnly allowed
  log : ∀ log, pool.shared.table.log? = some log → ∀ change ∈ log, allowed change

namespace Pool.IsLogged

variable {Outcome : Type} {allowed : Change → Prop} {pool : Pool Outcome}

theorem step (isLogged : pool.IsLogged allowed) (position : Nat) :
    (pool.step position).IsLogged allowed := by
  cases found : pool.workers[position]? with
  | none => rwa [Pool.step_of_none found]
  | some worker =>
      have stepped : (worker.step pool.shared).1.RecordsOnly allowed ∧
          ∀ log, (worker.step pool.shared).2.table.log? = some log →
            ∀ change ∈ log, allowed change := by
        have records := isLogged.workers worker (List.mem_of_getElem? found)
        cases worker with
        | finished _ => exact ⟨trivial, isLogged.log⟩
        | declare _ _ next => exact ⟨records, isLogged.log⟩
        | lookup path next => exact ⟨records _, isLogged.log⟩
        | assign path visibility next =>
            rw [Worker.step, Shared.assign]
            cases pool.shared.table.registry.setVisibility path visibility with
            | error error => exact ⟨trivial, isLogged.log⟩
            | ok answer => exact ⟨records _, isLogged.log⟩
        | record change next =>
            refine ⟨records.2, ?_⟩
            intro log isLog other isOther
            obtain ⟨earlier, isEarlier, rfl⟩ := Option.map_eq_some_iff.1 isLog
            rcases List.mem_append.1 isOther with isOld | isNew
            · exact isLogged.log earlier isEarlier other isOld
            · rw [List.mem_singleton.1 isNew]
              exact records.1
        | append _ _ next => exact ⟨records, isLogged.log⟩
      rw [Pool.step_of_worker found]
      refine ⟨?_, stepped.2⟩
      intro other isOther
      rcases List.mem_or_eq_of_mem_set isOther with isOld | rfl
      · exact isLogged.workers other isOld
      · exact stepped.1

theorem execute (isLogged : pool.IsLogged allowed) (schedule : List Nat) :
    (pool.execute schedule).IsLogged allowed := by
  induction schedule generalizing pool with
  | nil => exact isLogged
  | cons position rest inductionHypothesis => exact inductionHypothesis (isLogged.step position)

end Pool.IsLogged

/-! ## Results -/

/-- The table that the workers leave which register the declarations of units. -/
def Schedule.declared (schedule : Schedule) (threads : Int) (shared : Shared)
    (units : List SourceUnit) : SymbolTable :=
  (Pool.runOn threads schedule.declaring ⟨shared, units.map Worker.declaring⟩).2.table

/-- A run whose pending units have been analysed, with this table of their declarations. Their
reports are those for its sites. Symbols and ranges are as if the directives had been applied to it
in order, and so is it recorded which symbols changed. -/
structure Run.IsAnalysedInto (before : Run) (declared : SymbolTable) (reports : List UnitReport)
    (after : Run) : Prop where
  options : after.options = before.options
  units : after.units = before.units
  pending : after.pending = []
  unitReports : after.unitReports = before.unitReports ++ reports
  hasDeclared : before.table.HasDeclared before.pendingUnits declared
  answers : ∀ path, after.table.get? path = (declared.applyAll (History.batchApplications
    before.options.catalog declared.site? before.pendingUnits)).get? path
  recorded : ∃ records, SymbolTable.Records declared after.table records
  reported : reports =
    before.pendingUnits.map (History.unitReport before.options declared.site?)
  ranges : after.report.asMapping = (Run.collect before.report reports).asMapping
  named : ∀ change ∈ after.changes,
    change ∈ before.changes ∨ change.NamesCallOf before.pendingUnits

theorem SymbolTable.mem_changes_iff {table : SymbolTable} {change : Change} :
    change ∈ table.changes ↔ ∃ log, table.log? = some log ∧ change ∈ log := by
  unfold changes
  rw [List.mem_mergeSort]
  cases table.log? <;> simp

theorem SymbolTable.changes_empty (tracksChanges : Bool) :
    (SymbolTable.empty tracksChanges).changes = [] := by
  cases tracksChanges <;> simp [changes, empty]

namespace Pool

/-- In every state of the workers, a record names a call of a unit or was there before. -/
theorem named_execute_ofUnits (options : RunOptions) (shared : Shared) (units : List SourceUnit)
    (schedule : List Nat) :
    ∀ change ∈ ((ofUnits options shared units).execute schedule).shared.table.changes,
      change ∈ shared.table.changes ∨ change.NamesCallOf units := by
  have atStart : (ofUnits options shared units).IsLogged fun change =>
      change ∈ shared.table.changes ∨ change.NamesCallOf units := by
    constructor
    case workers =>
      intro worker isWorker
      obtain ⟨unit, isUnit, rfl⟩ := List.mem_map.1 isWorker
      exact Worker.recordsOnly_ofUnit options isUnit _
    case log =>
      intro log isLog change isChange
      exact Or.inl (SymbolTable.mem_changes_iff.2 ⟨log, isLog, isChange⟩)
  intro change isChange
  obtain ⟨log, isLog, isChange⟩ := SymbolTable.mem_changes_iff.1 isChange
  exact (atStart.execute schedule).log log isLog change isChange

/-- Outcomes without an error are gathered as they are. -/
theorem mapM_id_ok {Outcome : Type} (outcomes : List Outcome) :
    (outcomes.map fun outcome => (.ok outcome : Except RunError Outcome)).mapM id =
      .ok outcomes := by
  induction outcomes with
  | nil => rfl
  | cons outcome rest inductionHypothesis =>
      rw [List.map_cons, List.mapM_cons, inductionHypothesis]
      rfl

/-- On any threads and in any turns all workers of units finish, and agree with processing the units
one after the other. -/
theorem exists_runOn_ofUnits (threads : Int) (turns : List Nat) (options : RunOptions)
    (table : SymbolTable) (report : SuppressionReport) (units : List SourceUnit) :
    ∃ pool : Pool UnitReport,
      runOn threads turns (ofUnits options ⟨table, report⟩ units) =
          (.ok (units.map (History.unitReport options table.site?)), pool.shared) ∧
        pool.AgreesWith ⟨table, report⟩ (units.map (History.unitReport options table.site?))
          (table.applyAll (History.batchApplications options.catalog table.site? units)) ∧
        ∀ change ∈ pool.shared.table.changes,
          change ∈ table.changes ∨ change.NamesCallOf units := by
  obtain ⟨schedule, outcomes, after, ran, executed⟩ :=
    exists_runOn threads turns (ofUnits options ⟨table, report⟩ units)
  have complete : ((ofUnits options ⟨table, report⟩ units).execute schedule).IsComplete := by
    rw [executed]
    intro worker isWorker
    obtain ⟨outcome, -, rfl⟩ := List.mem_map.1 isWorker
    exact ⟨outcome, rfl⟩
  have agrees := agreesWith_of_isComplete complete
  have named := named_execute_ofUnits options ⟨table, report⟩ units schedule
  rw [executed] at agrees named
  have succeed : outcomes = (units.map (History.unitReport options table.site?)).map .ok :=
    List.map_injective_iff.2 (fun _ _ => Worker.finished.inj)
      (agrees.outcomes.trans (List.map_map ..).symm)
  refine ⟨_, ?_, agrees, named⟩
  rw [ran, succeed, mapM_id_ok]

end Pool

namespace Run

/-- Every schedule of the workers leads to the results of an analysis. -/
theorem exists_analyzeUnder (schedule : Schedule) (run : Run) :
    ∃ reports after, run.analyzeUnder schedule = .ok (reports, after) ∧
      run.IsAnalysedInto (schedule.declared run.options.workers ⟨run.table, run.report⟩
        run.pendingUnits) reports after := by
  obtain ⟨table, declared, hasDeclared⟩ := Pool.exists_runOn_declaring run.options.workers
    schedule.declaring ⟨run.table, run.report⟩ run.pendingUnits
  obtain ⟨pool, processed, agrees, named⟩ := Pool.exists_runOn_ofUnits run.options.workers
    schedule.processing run.options table run.report run.pendingUnits
  have isTable : schedule.declared run.options.workers ⟨run.table, run.report⟩ run.pendingUnits =
      table := by
    rw [Schedule.declared, declared]
  refine ⟨run.pendingUnits.map (History.unitReport run.options table.site?),
    run.conclude (run.pendingUnits.map (History.unitReport run.options table.site?)) pool.shared,
    ?_, ?_⟩
  · unfold analyzeUnder
    simp only [declared, processed]
    rfl
  · rw [isTable]
    constructor
    case options => rfl
    case units => rfl
    case pending => rfl
    case unitReports => rfl
    case hasDeclared => exact hasDeclared
    case answers => exact agrees.answers
    case recorded => exact agrees.recorded
    case reported => rfl
    case ranges => exact agrees.ranges
    case named =>
      intro change isChange
      refine (named change isChange).imp_left fun isOld => ?_
      obtain ⟨log, isLog, isOld⟩ := SymbolTable.mem_changes_iff.1 isOld
      exact SymbolTable.mem_changes_iff.2 ⟨log, hasDeclared.logged ▸ isLog, isOld⟩

end Run

/-! ## Analysis in order -/

theorem Pool.runOn_declaring_eq (shared : Shared) {threads : Int} {turns : List Nat}
    {units : List SourceUnit} (inOrder : turns = [] ∨ threads = 1 ∨ units.length < 2) :
    runOn threads turns ⟨shared, units.map Worker.declaring⟩ =
      (.ok (units.map fun _ => ()), ⟨Run.declareUnits shared.table units, shared.report⟩) := by
  rw [runOn_eq_finish (by rwa [List.length_map]), finish, Worker.runAll_declaring]
  exact congrArg (·, _) (by rw [← mapM_id_ok, List.map_map]; rfl)

/-- Workers that declare in order register what declaring the units does. -/
theorem Schedule.declared_eq (shared : Shared) {schedule : Schedule} {threads : Int}
    {units : List SourceUnit}
    (inOrder : schedule.declaring = [] ∨ threads = 1 ∨ units.length < 2) :
    schedule.declared threads shared units = Run.declareUnits shared.table units := by
  rw [declared, Pool.runOn_declaring_eq shared inOrder]

/-- Where the workers take no turns beside those that finish them in order, or cannot run beside
each other, this is the analysis of one unit after the other. -/
theorem Run.analyzeUnder_eq_analyze {schedule : Schedule} {run : Run}
    (inOrder : schedule = .inOrder ∨ run.options.workers = 1 ∨ run.pendingUnits.length < 2) :
    run.analyzeUnder schedule = run.analyze := by
  have declared := Pool.runOn_declaring_eq ⟨run.table, run.report⟩
    (inOrder.imp_left (congrArg Schedule.declaring))
  obtain ⟨reports, table, processed, ran⟩ := Worker.runAll_ofUnit run.options
    ⟨declareUnits run.table run.pendingUnits, run.report⟩ run.pendingUnits
  have finished : Pool.runOn run.options.workers schedule.processing
      (Pool.ofUnits run.options ⟨declareUnits run.table run.pendingUnits, run.report⟩
        run.pendingUnits) = (.ok reports, ⟨table, collect run.report reports⟩) := by
    have noTurns : schedule.processing = [] ∨ run.options.workers = 1 ∨
        (run.pendingUnits.map (Worker.ofUnit run.options)).length < 2 := by
      rw [List.length_map]
      exact inOrder.imp_left (congrArg Schedule.processing)
    rw [Pool.runOn_eq_finish noTurns, Pool.finish, Pool.ofUnits, ran, Pool.mapM_id_ok]
  unfold analyzeUnder analyze
  simp only [declared, finished, processed]
  rfl

end Annotations
