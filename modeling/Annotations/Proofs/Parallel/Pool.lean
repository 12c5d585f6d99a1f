import Mathlib.Data.List.Forall2
import Annotations.Proofs.Parallel.Worker
import Annotations.Run.Pool

/-!
Contract: what the schedules of a pool can and cannot do.

A turn of a worker that is finished, or that does not exist, is idle, and no turn
moves more than one worker. So workers can finish one after the other from
wherever a schedule left them. The turns on a number of threads are such a
schedule as well, with some of them idle.

Owns:

- `Pool.exists_completion`, that no schedule leads where a worker cannot finish;
- `Pool.exists_sequential`, that one of them processes unit after unit;
- `Pool.exists_runOn`, that workers on threads follow a schedule and finish.

Does not own:

- what the workers leave behind; see `Annotations.Proofs.Parallel.Interleaving`.
-/

namespace Annotations

variable {Outcome : Type}

/-- Lists that pair off still do when the items of one position are replaced by a pair. -/
theorem exists_of_forall₂ {First Second : Type} {related : First → Second → Prop}
    {left : List First} {right : List Second} (pairs : List.Forall₂ related left right)
    {position : Nat} {first : First} (found : left[position]? = some first) :
    ∃ second, right[position]? = some second ∧ related first second ∧
      ∀ first' second', related first' second' →
        List.Forall₂ related (left.set position first') (right.set position second') := by
  induction pairs generalizing position with
  | nil => contradiction
  | cons head tail inductionHypothesis =>
      cases position with
      | zero =>
          obtain rfl := Option.some.inj found
          exact ⟨_, rfl, head, fun _ _ replaced => .cons replaced tail⟩
      | succ position =>
          obtain ⟨second, isSecond, pair, replace⟩ := inductionHypothesis found
          exact ⟨second, isSecond, pair, fun _ _ replaced => .cons head (replace _ _ replaced)⟩

namespace Pool

def IsComplete (pool : Pool Outcome) : Prop :=
  ∀ worker ∈ pool.workers, ∃ outcome, worker = .finished outcome

theorem step_of_worker {pool : Pool Outcome} {position : Nat} {worker : Worker Outcome}
    (found : pool.workers[position]? = some worker) :
    pool.step position =
      ⟨(worker.step pool.shared).2, pool.workers.set position (worker.step pool.shared).1⟩ := by
  unfold step
  rw [found]

theorem step_of_none {pool : Pool Outcome} {position : Nat}
    (absent : pool.workers[position]? = none) : pool.step position = pool := by
  unfold step
  rw [absent]

theorem execute_append (pool : Pool Outcome) (first second : List Nat) :
    pool.execute (first ++ second) = (pool.execute first).execute second :=
  List.foldl_append

theorem getElem?_step_self {pool : Pool Outcome} {position : Nat} {worker : Worker Outcome}
    (found : pool.workers[position]? = some worker) :
    (pool.step position).workers[position]? = some (worker.step pool.shared).1 := by
  rw [step_of_worker found]
  exact List.getElem?_set_self (List.getElem?_eq_some_iff.1 found).1

theorem set_eq_self {Item : Type} {items : List Item} {position : Nat} {item : Item}
    (found : items[position]? = some item) : items.set position item = items := by
  obtain ⟨inRange, isItem⟩ := List.getElem?_eq_some_iff.1 found
  rw [← isItem]
  exact List.set_getElem_self inRange

/-! ## Every schedule can be completed -/

/-- Some turns in a row let the worker at a position do all that it does, and move no other. -/
def Finishes (pool : Pool Outcome) (position : Nat) (worker : Worker Outcome) : Prop :=
  ∃ schedule, pool.execute schedule =
    ⟨(worker.run pool.shared).2, pool.workers.set position (.finished (worker.run pool.shared).1)⟩

theorem finishes_of_finished {pool : Pool Outcome} {position : Nat}
    {outcome : Except RunError Outcome}
    (found : pool.workers[position]? = some (.finished outcome)) :
    pool.Finishes position (.finished outcome) := by
  refine ⟨[], ?_⟩
  rw [Worker.run, set_eq_self found]
  rfl

theorem finishes_of_step {pool : Pool Outcome} {position : Nat} {worker : Worker Outcome}
    (found : pool.workers[position]? = some worker)
    (finishes : (pool.step position).Finishes position (worker.step pool.shared).1) :
    pool.Finishes position worker := by
  obtain ⟨schedule, reached⟩ := finishes
  refine ⟨position :: schedule, reached.trans ?_⟩
  rw [step_of_worker found, List.set_set, Worker.run_step]

theorem finishes_of_worker {pool : Pool Outcome} {position : Nat} {worker : Worker Outcome}
    (found : pool.workers[position]? = some worker) : pool.Finishes position worker := by
  induction worker generalizing pool with
  | finished outcome => exact finishes_of_finished found
  | lookup path next inductionHypothesis =>
      exact finishes_of_step found (inductionHypothesis _ (getElem?_step_self found))
  | assign path visibility next inductionHypothesis =>
      apply finishes_of_step found
      have stepped := getElem?_step_self found
      rw [Worker.step] at stepped ⊢
      cases assigned : pool.shared.assign path visibility with
      | error error =>
          rw [assigned] at stepped
          exact finishes_of_finished stepped
      | ok answer =>
          rw [assigned] at stepped
          exact inductionHypothesis answer.1 stepped
  | declare _ _ next inductionHypothesis | record _ next inductionHypothesis
  | append _ _ next inductionHypothesis =>
      exact finishes_of_step found (inductionHypothesis (getElem?_step_self found))

private theorem exists_execute_eq_runAll (outcomes : List (Except RunError Outcome))
    (workers : List (Worker Outcome)) (shared : Shared) :
    ∃ schedule, execute ⟨shared, outcomes.map .finished ++ workers⟩ schedule =
      ⟨(Worker.runAll workers shared).2,
        (outcomes ++ (Worker.runAll workers shared).1).map .finished⟩ := by
  induction workers generalizing outcomes shared with
  | nil => exact ⟨[], by simp [execute, Worker.runAll]⟩
  | cons worker rest inductionHypothesis =>
      have first : Finishes ⟨shared, outcomes.map .finished ++ worker :: rest⟩ outcomes.length
          worker := by
        apply finishes_of_worker
        simp
      obtain ⟨turns, reached⟩ := first
      obtain ⟨schedule, reachedRest⟩ :=
        inductionHypothesis (outcomes ++ [(worker.run shared).1]) (worker.run shared).2
      refine ⟨turns ++ schedule, ?_⟩
      rw [execute_append, reached]
      simpa [Worker.runAll] using reachedRest

/-- To finish workers one after the other is a schedule. -/
theorem exists_execute_eq_finish (pool : Pool Outcome) :
    ∃ schedule, pool.execute schedule = ⟨pool.finish.2, pool.finish.1.map .finished⟩ :=
  exists_execute_eq_runAll [] pool.workers pool.shared

theorem exists_completion (pool : Pool Outcome) :
    ∃ schedule, (pool.execute schedule).IsComplete := by
  obtain ⟨schedule, reached⟩ := pool.exists_execute_eq_finish
  refine ⟨schedule, ?_⟩
  rw [reached]
  intro worker isWorker
  obtain ⟨outcome, -, rfl⟩ := List.mem_map.1 isWorker
  exact ⟨outcome, rfl⟩

/-- Processing units one after the other is one of the schedules. -/
theorem exists_sequential (options : RunOptions) (shared : Shared) (units : List SourceUnit) :
    ∃ schedule unitReports table,
      Run.processUnits options shared.table units = .ok (unitReports, table) ∧
        (ofUnits options shared units).execute schedule =
          ⟨⟨table, Run.collect shared.report unitReports⟩,
            unitReports.map fun unitReport => .finished (.ok unitReport)⟩ := by
  obtain ⟨unitReports, table, processed, ran⟩ :=
    Worker.runAll_ofUnit options shared units
  obtain ⟨schedule, reached⟩ := (ofUnits options shared units).exists_execute_eq_finish
  refine ⟨schedule, unitReports, table, processed, ?_⟩
  rw [reached, finish, ofUnits, ran, List.map_map]
  rfl

end Pool

/-! ## Workers on threads -/

/-- The turns on some threads are a schedule of the pool. -/
theorem Crew.exists_execute (crew : Crew Outcome) (turns : List Nat) :
    ∃ schedule, (crew.execute turns).pool = crew.pool.execute schedule := by
  induction turns generalizing crew with
  | nil => exact ⟨[], rfl⟩
  | cons position rest inductionHypothesis =>
      obtain ⟨schedule, executed⟩ := inductionHypothesis (crew.turn position)
      rw [execute, List.foldl_cons]
      change (execute (crew.turn position) rest).pool = _ at executed
      by_cases isBegun : position < crew.begun
      · refine ⟨position :: schedule, executed.trans ?_⟩
        rw [turn, if_pos isBegun]
        rfl
      · refine ⟨schedule, executed.trans ?_⟩
        rw [turn, if_neg isBegun]
        split <;> rfl

namespace Pool

theorem runOn_eq_finish {threads : Int} {turns : List Nat} {pool : Pool Outcome}
    (inOrder : turns = [] ∨ threads = 1 ∨ pool.workers.length < 2) :
    pool.runOn threads turns = (pool.finish.1.mapM id, pool.finish.2) := by
  have unchanged : pool.after threads turns = pool := by
    unfold after
    rcases inOrder with rfl | single
    · exact ite_self pool
    · exact if_pos single
  rw [runOn, unchanged]

/-- Workers on threads follow a schedule until all of them are finished. -/
theorem exists_runOn (threads : Int) (turns : List Nat) (pool : Pool Outcome) :
    ∃ (schedule : List Nat) (outcomes : List (Except RunError Outcome)) (shared : Shared),
      pool.runOn threads turns = (outcomes.mapM id, shared) ∧
      pool.execute schedule = ⟨shared, outcomes.map .finished⟩ := by
  have isExecuted : ∃ first, pool.after threads turns = pool.execute first := by
    unfold after
    split
    · exact ⟨[], rfl⟩
    · exact Crew.exists_execute ⟨threads, 0, pool⟩ turns
  obtain ⟨first, executed⟩ := isExecuted
  obtain ⟨second, finished⟩ := (pool.after threads turns).exists_execute_eq_finish
  refine ⟨first ++ second, (pool.after threads turns).finish.1, _, rfl, ?_⟩
  rw [execute_append, ← executed]
  exact finished

end Pool

end Annotations
