import Annotations.Run.Worker

/-!
Contract: an analysis by workers that step in turn.

Both phases of an analysis hand their units to a pool of threads, if there is
more than one thread and more than one unit. The units are taken up in order, and
no more of them are under way than there are threads. Which of these makes its
next access is up to a schedule; it may be any list of positions, and where it
ends the units finish in order. So the schedules cover every interleaving in which
each worker keeps the order of its own accesses.

Owns:

- `Pool`, workers and what they share, and its execution under a schedule;
- `Crew`, a pool on a number of threads;
- `Run.analyzeUnder`, an analysis whose workers follow a schedule.

Does not own:

- the analysis of one unit after the other; see `Run.analyze`.
-/

namespace Annotations

variable {Outcome : Type}

structure Pool (Outcome : Type) where
  shared : Shared
  workers : List (Worker Outcome)

namespace Pool

def ofUnits (options : RunOptions) (shared : Shared) (units : List SourceUnit) : Pool UnitReport :=
  ⟨shared, units.map (Worker.ofUnit options)⟩

/-- The worker at a position makes its next access, if there is one. -/
def step (pool : Pool Outcome) (position : Nat) : Pool Outcome :=
  match pool.workers[position]? with
  | some worker =>
      ⟨(worker.step pool.shared).2, pool.workers.set position (worker.step pool.shared).1⟩
  | none => pool

def execute (pool : Pool Outcome) (schedule : List Nat) : Pool Outcome :=
  schedule.foldl step pool

/-- Finish what is left, one worker after the other. -/
def finish (pool : Pool Outcome) : List (Except RunError Outcome) × Shared :=
  Worker.runAll pool.workers pool.shared

end Pool

/-- A pool on some threads, with the number of workers that were taken up. -/
structure Crew (Outcome : Type) where
  threads : Int
  begun : Nat
  pool : Pool Outcome

namespace Crew

/-- The number of workers that were taken up and are not finished. -/
def underWay (crew : Crew Outcome) : Nat :=
  (crew.pool.workers.take crew.begun).countP fun worker => !worker.isFinished

/-- The turn of a position: a worker that was taken up makes its next access, and the one after
these is taken up if a thread is free. -/
def turn (crew : Crew Outcome) (position : Nat) : Crew Outcome :=
  if position < crew.begun then { crew with pool := crew.pool.step position }
  else if position = crew.begun ∧ (crew.underWay : Int) < crew.threads then
    { crew with begun := crew.begun + 1 }
  else crew

def execute (crew : Crew Outcome) (turns : List Nat) : Crew Outcome :=
  turns.foldl turn crew

end Crew

namespace Pool

/-- The pool after some turns on some threads. One thread takes up one worker after the other, and
so is it done where there are fewer than two of them. -/
def after (threads : Int) (turns : List Nat) (pool : Pool Outcome) : Pool Outcome :=
  if threads = 1 ∨ pool.workers.length < 2 then pool
  else (Crew.execute ⟨threads, 0, pool⟩ turns).pool

/-- Run the workers of a pool on some threads. The first error of a worker, in their order, is that
of the whole. -/
def runOn (threads : Int) (turns : List Nat) (pool : Pool Outcome) :
    Except RunError (List Outcome) × Shared :=
  let (outcomes, shared) := (pool.after threads turns).finish
  (outcomes.mapM id, shared)

end Pool

/-- The turns of the workers in the two phases of an analysis. -/
structure Schedule where
  declaring : List Nat
  processing : List Nat
deriving DecidableEq, Repr

/-- No turns but those that finish the units in order. -/
def Schedule.inOrder : Schedule := ⟨[], []⟩

/-- The run whose pending units have these reports, with what the workers left behind. -/
def Run.conclude (run : Run) (unitReports : List UnitReport) (shared : Shared) : Run :=
  { run with
    pending := []
    unitReports := run.unitReports ++ unitReports
    table := shared.table
    report := shared.report }

/-- Process every unit added since the last call, the workers following a schedule. All
declarations are registered before any directive is applied. The result gives the reports. -/
def Run.analyzeUnder (schedule : Schedule) (run : Run) :
    Except RunError (List UnitReport × Run) := do
  let units := run.pendingUnits
  let (declared, shared) := Pool.runOn run.options.workers schedule.declaring
    ⟨⟨run.table, run.report⟩, units.map Worker.declaring⟩
  let _ ← declared
  let (processed, shared) := Pool.runOn run.options.workers schedule.processing
    (Pool.ofUnits run.options shared units)
  let unitReports ← processed
  .ok (unitReports, run.conclude unitReports shared)

end Annotations
