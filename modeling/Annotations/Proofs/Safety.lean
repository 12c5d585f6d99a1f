import Annotations.Proofs.Invariant
import Annotations.Proofs.Suppression.Ranges
import Annotations.Proofs.Parallel.Analysis

/-!
Contract: nothing is fatal to a run.

The engine has two checks that it never fails: a visibility is changed on a
registered path only, since declarations are never withdrawn, and a range starts
on a line of a marker and ends no earlier, since markers are read by line. What
remains is the refusal of a unit whose identifier is taken.

Owns:
- `Pool.MeetsNoError`, for workers that step in turn, and `Run.MeetsNoError`;
- `History.meetsNoError_of_requests`, that no sequence of requests leads to a run
  that could meet an error.

Does not own: what a run answers; see `Annotations.Proofs.Visibility`.
-/

namespace Annotations

/-! ## Workers -/

/-- No worker has ended with an error, or is about to change a visibility where no symbol is
registered. -/
structure Pool.MeetsNoError (pool : Pool UnitReport) : Prop where
  ended : ∀ error, Worker.finished (.error error) ∉ pool.workers
  registered : ∀ path visibility next, Worker.assign path visibility next ∈ pool.workers →
    ∃ symbol, pool.shared.table.get? path = some symbol

/-- Settled workers assign to declared paths only, and what the workers have done so far has
withdrawn no declaration. -/
theorem Pool.OnCourse.meetsNoError {plan : Plan} {pool : Pool UnitReport} {done : List Path}
    {records : List Change} {courses : List (Remainder × UnitReport)}
    (onCourse : OnCourse plan pool done records courses) : pool.MeetsNoError := by
  have settledWorker : ∀ worker ∈ pool.workers, ∃ remainder report,
      Worker.Settles plan.start.table.site? worker remainder report := by
    intro worker isWorker
    obtain ⟨position, found⟩ := List.mem_iff_getElem?.1 isWorker
    obtain ⟨course, -, settles, -⟩ := exists_of_forall₂ onCourse.settled found
    exact ⟨course.1, course.2, settles⟩
  constructor
  case ended =>
    intro error isWorker
    obtain ⟨remainder, report, settles⟩ := settledWorker _ isWorker
    cases settles
  case registered =>
    intro path visibility next isWorker
    obtain ⟨remainder, report, settles⟩ := settledWorker _ isWorker
    cases settles with
    | assign sited =>
        rw [SymbolTable.site?, Option.isSome_map, Option.isSome_iff_exists] at sited
        obtain ⟨symbol, atStart⟩ := sited
        rw [onCourse.progress.makes path, atStart]
        exact ⟨_, rfl⟩

theorem Pool.meetsNoError_execute (options : RunOptions) (shared : Shared)
    (units : List SourceUnit) (schedule : List Nat) :
    ((Pool.ofUnits options shared units).execute schedule).MeetsNoError := by
  obtain ⟨_, _, _, onCourse, -⟩ := (Pool.onCourse_ofUnits options shared units).execute schedule
  exact onCourse.meetsNoError

/-! ## Refusals -/

def Request.given : Request → List SourceUnit
  | .add unit => [unit]
  | .addMany members => members
  | _ => []

/-- Units cannot all be added: one has the identifier of a unit of the run, or of one before it. -/
def Run.Refuses (run : Run) (units : List SourceUnit) (error : RunError) : Prop :=
  ∃ before unit after, units = before ++ unit :: after ∧
    unit.unitId ∈ run.unitIds ++ before.map SourceUnit.unitId ∧
      error = .duplicateUnit unit.unitId

theorem Run.not_refuses_nil {run : Run} {error : RunError} : ¬ run.Refuses [] error := by
  rintro ⟨before, unit, after, none, -⟩
  simp at none

theorem Run.refuses_of_addUnits {run : Run} {units : List SourceUnit} {error : RunError}
    (refused : (run.addUnits units).1 = some error) : run.Refuses units error := by
  induction units generalizing run with
  | nil => contradiction
  | cons unit rest inductionHypothesis =>
      by_cases isOld : unit.unitId ∈ run.unitIds
      · have answer : run.addUnit unit = .error (.duplicateUnit unit.unitId) := if_pos isOld
        rw [addUnits, answer] at refused
        obtain rfl := Option.some.inj refused
        exact ⟨[], unit, rest, rfl, List.mem_append_left _ isOld, rfl⟩
      · have answer : run.addUnit unit = .ok _ := if_neg isOld
        rw [addUnits, answer] at refused
        obtain ⟨before, other, after, rfl, isTaken, rfl⟩ := inductionHypothesis refused
        refine ⟨unit :: before, other, after, rfl, ?_, rfl⟩
        simpa [unitIds] using isTaken

theorem Run.refusal_of_answerAdd {added : Option RunError × Run} {error : RunError}
    (refused : (answerAdd added).1 = .error error) : added.1 = some error := by
  obtain ⟨refusal, run⟩ := added
  cases refusal with
  | none => contradiction
  | some given => exact congrArg some (Except.error.inj refused)

/-! ## Runs -/

/-- A run in this state meets no error. All its pending units are there; they are analysed, one
after the other or by workers in any order, whichever of them declares first; their markers give
proper ranges. What it refuses is a unit whose identifier is taken, and a request that gives it no
units is answered. -/
structure Run.MeetsNoError (run : Run) : Prop where
  found : run.pendingUnits.map SourceUnit.unitId = run.pending
  analysed : ∃ unitReports next, run.analyze = .ok (unitReports, next) ∧
    unitReports.map UnitReport.unitId = run.pending
  analysedUnder : ∀ schedule, ∃ unitReports next,
    run.analyzeUnder schedule = .ok (unitReports, next)
  scheduled : ∀ schedule, ((Pool.ofUnits run.options
    ⟨declareUnits run.table run.pendingUnits, run.report⟩ run.pendingUnits).execute
      schedule).MeetsNoError
  tracked : ∀ unit ∈ run.pendingUnits, ∃ ranges,
    run.options.tracker.processUnit unit = .ok ranges ∧
      ∀ entry ∈ ranges, ∀ range ∈ entry.2, range.IsValid
  refused : ∀ request error, (run.perform request).1 = .error error →
    run.Refuses request.given error
  answered : ∀ request, request.given = [] → ∃ answer, (run.perform request).1 = .ok answer

/-- The ranges of a unit are proper, on whatever lines its comments stand. -/
theorem Tracker.exists_processUnit (tracker : Tracker) (unit : SourceUnit) :
    ∃ ranges, tracker.processUnit unit = .ok ranges ∧
      ∀ entry ∈ ranges, ∀ range ∈ entry.2, range.IsValid :=
  ⟨_, Suppressions.track_eq _ _, fun _ isEntry => Suppressions.isValid_of_mem_track isEntry⟩

namespace History

theorem refuses_of_perform_replay (options : RunOptions) {history : History}
    (distinct : history.IsDistinct) {request : Request} {error : RunError}
    (refused : ((replay options history).perform request).1 = .error error) :
    (replay options history).Refuses request.given error := by
  cases request with
  | add unit => exact Run.refuses_of_addUnits (Run.refusal_of_answerAdd refused)
  | addMany units => exact Run.refuses_of_addUnits (Run.refusal_of_answerAdd refused)
  | analyze =>
      rw [perform_analyze_replay options history distinct] at refused
      contradiction
  | resolve =>
      rw [Run.perform, resolveVisibility_replay options distinct] at refused
      contradiction
  | suppressions =>
      rw [perform_suppressions_replay options distinct] at refused
      contradiction
  | units | unitReports | diagnostics | symbols | changes | reset => contradiction

theorem meetsNoError_replay (options : RunOptions) {history : History}
    (distinct : history.IsDistinct) : (replay options history).MeetsNoError where
  found := congrArg (List.map SourceUnit.unitId) (pendingUnits_replay options history distinct)
  analysed := by
    refine ⟨_, _, analyze_replay options history distinct, ?_⟩
    rw [List.map_map]
    rfl
  analysedUnder := by
    intro schedule
    obtain ⟨reports, next, analysed, -⟩ := (replay options history).exists_analyzeUnder schedule
    exact ⟨reports, next, analysed⟩
  scheduled := Pool.meetsNoError_execute _ _ _
  tracked := fun unit _ => options.tracker.exists_processUnit unit
  refused := fun _ _ refused => refuses_of_perform_replay options distinct refused
  answered := by
    intro request givesNone
    cases performed : ((replay options history).perform request).1 with
    | ok answer => exact ⟨answer, rfl⟩
    | error error =>
        have refuses := refuses_of_perform_replay options distinct performed
        rw [givesNone] at refuses
        exact absurd refuses Run.not_refuses_nil

/-- Whatever requests brought a run to a state, on whatever lines its units place markers,
declarations and calls, it meets no error there. -/
theorem meetsNoError_of_requests (options : RunOptions) (requests : List Request) :
    ((Run.fresh options).performAll requests).2.MeetsNoError := by
  rw [snd_performAll_fresh]
  exact meetsNoError_replay options (isDistinct_ofRequests options requests)

end History

end Annotations
