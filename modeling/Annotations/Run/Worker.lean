import Annotations.Run

/-!
Contract: the work on one unit, taken apart into atomic accesses.

A run may hand its units to workers that run at the same time. They share the
symbol table and the report, and each access to these is atomic: registering a
declaration, finding a symbol, changing a visibility, recording the change and
filing the ranges of a unit. What a worker does in between is its own affair. So
a worker is given by the access it makes next, and by how it goes on with the
answer.

Owns:

- `Worker` and `Worker.step`, a single access;
- `Worker.declaring` and `Worker.ofUnit`, the workers of a unit in the two phases
  of an analysis.

Does not own:

- whose turn it is; see `Annotations.Run.Pool`.
-/

namespace Annotations

structure Shared where
  table : SymbolTable
  report : SuppressionReport

namespace Shared

def declare (shared : Shared) (declaration : Declaration) (unitId : UnitId) : Shared :=
  { shared with table := (shared.table.declare declaration unitId).2 }

def assign (shared : Shared) (path : Path) (visibility : Visibility) :
    Except UnregisteredPath (Visibility × Shared) := do
  let (before, registry) ← shared.table.registry.setVisibility path visibility
  .ok (before, { shared with table := { shared.table with registry := registry } })

/-- Append to the log, where one is kept. -/
def record (shared : Shared) (change : Change) : Shared :=
  { shared with
    table := { shared.table with log? := shared.table.log?.map (· ++ [change]) } }

def append (shared : Shared) (unitId : UnitId) (ranges : SuppressionMap) : Shared :=
  { shared with report := shared.report.append unitId ranges }

end Shared

/-- A worker: the accesses that it still makes, until its outcome is known. -/
inductive Worker (Outcome : Type) where
  | finished (outcome : Except RunError Outcome)
  | declare (declaration : Declaration) (unitId : UnitId) (next : Worker Outcome)
  | lookup (path : Path) (next : Option Symbol → Worker Outcome)
  | assign (path : Path) (visibility : Visibility) (next : Visibility → Worker Outcome)
  | record (change : Change) (next : Worker Outcome)
  | append (unitId : UnitId) (ranges : SuppressionMap) (next : Worker Outcome)

namespace Worker

variable {Outcome : Type}

def isFinished : Worker Outcome → Bool
  | .finished _ => true
  | _ => false

def step (shared : Shared) : Worker Outcome → Worker Outcome × Shared
  | .finished outcome => (.finished outcome, shared)
  | .declare declaration unitId next => (next, shared.declare declaration unitId)
  | .lookup path next => (next (shared.table.get? path), shared)
  | .assign path visibility next =>
      match shared.assign path visibility with
      | .ok (before, shared) => (next before, shared)
      | .error error => (.finished (.error (.unregisteredPath error)), shared)
  | .record change next => (next, shared.record change)
  | .append unitId ranges next => (next, shared.append unitId ranges)

/-- All accesses of a worker, undisturbed by others. -/
def run : Worker Outcome → Shared → Except RunError Outcome × Shared
  | .finished outcome, shared => (outcome, shared)
  | .declare declaration unitId next, shared => next.run (shared.declare declaration unitId)
  | .lookup path next, shared => (next (shared.table.get? path)).run shared
  | .assign path visibility next, shared =>
      match shared.assign path visibility with
      | .ok (before, shared) => (next before).run shared
      | .error error => (.error (.unregisteredPath error), shared)
  | .record change next, shared => next.run (shared.record change)
  | .append unitId ranges next, shared => next.run (shared.append unitId ranges)

def runAll : List (Worker Outcome) → Shared → List (Except RunError Outcome) × Shared
  | [], shared => ([], shared)
  | worker :: rest, shared =>
      let (outcome, shared) := worker.run shared
      let (outcomes, shared) := runAll rest shared
      (outcome :: outcomes, shared)

/-! ## Registering the declarations of a unit -/

def ofDeclarations (unitId : UnitId) : List Declaration → Worker Unit
  | [] => .finished (.ok ())
  | declaration :: rest => .declare declaration unitId (ofDeclarations unitId rest)

def declaring (unit : SourceUnit) : Worker Unit :=
  ofDeclarations unit.unitId unit.declarations

/-! ## Processing a unit -/

def ofArgument (resolver : Resolver) (shape : Shape) (scope : Namespace) (line : Line)
    (argument : Argument) (next : Option DirectiveError → Worker Outcome) : Worker Outcome :=
  match shape.target? scope argument with
  | none => next (some (shape.untargeted scope argument))
  | some path =>
      .lookup path fun symbol? =>
        if resolver.accepts line symbol? then
          -- Between this step and the record other workers may step.
          .assign path .isPrivate fun before =>
            if before = .isPrivate then next none
            else .record ⟨path, before, .isPrivate, resolver.unitId, line⟩ (next none)
        else next (some (.unresolvedSymbol shape.name path))

def ofArguments (resolver : Resolver) (shape : Shape) (scope : Namespace) (line : Line) :
    List Argument → (List DirectiveError → Worker Outcome) → Worker Outcome
  | [], next => next []
  | argument :: rest, next =>
      ofArgument resolver shape scope line argument fun error? =>
        ofArguments resolver shape scope line rest fun errors => next (error?.toList ++ errors)

def ofCall (resolver : Resolver) (call : Call) (next : Option Failure → Worker Outcome) :
    Worker Outcome :=
  match resolver.catalog.classify? call.callee with
  | none => next none
  | some shape =>
      ofArguments resolver shape call.scope call.line call.arguments fun errors =>
        next
          (if errors.isEmpty then none
          else some ⟨shape.name, call.scope, resolver.unitId, call.line, errors⟩)

def ofCalls (resolver : Resolver) :
    List Call → (List Failure → Worker Outcome) → Worker Outcome
  | [], next => next []
  | call :: rest, next =>
      ofCall resolver call fun failure? =>
        ofCalls resolver rest fun failures => next (failure?.toList ++ failures)

/-- Apply the directives of a unit, and file its ranges if the run tracks them. -/
def ofUnit (options : RunOptions) (unit : SourceUnit) : Worker UnitReport :=
  ofCalls ⟨unit.unitId, options.catalog⟩ (sortByLine Call.line unit.calls) fun failures =>
    match Run.trackUnit options unit with
    | .error error => .finished (.error error)
    | .ok ranges =>
        if options.suppressionsEnabled then
          .append unit.unitId ranges (.finished (.ok ⟨unit.unitId, failures, ranges⟩))
        else .finished (.ok ⟨unit.unitId, failures, ranges⟩)

end Worker

end Annotations
