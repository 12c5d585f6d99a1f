import Annotations.Run

/-!
Contract: a run driven by requests.

Every request is answered from the run as the earlier ones left it. A request
that is refused leaves the run as it stands at that point: the units added
before a duplicate stay added. Whatever the number of workers, units are
analysed one after the other; for workers beside each other see
`Annotations.Run.Pool`.

Owns:

- `Request` and `Answer`, the operations of a run as data;
- `Run.perform` for one request, `Run.performAll` for a sequence.
-/

namespace Annotations

inductive Request where
  | add (unit : SourceUnit)
  | addMany (units : List SourceUnit)
  | units
  | analyze
  | unitReports
  | resolve
  | diagnostics
  | suppressions
  | symbols
  | changes
  | reset
deriving DecidableEq, Repr

inductive Answer where
  | unitIds (ids : List UnitId)
  | unitReports (reports : List UnitReport)
  | failures (failures : List Failure)
  | suppressions (mapping : ReportMapping)
  | symbols (symbols : List Symbol)
  | changes (changes : List Change)
  | done
deriving DecidableEq, Repr

namespace Run

def answerAdd : Option RunError × Run → Except RunError Answer × Run
  | (none, run) => (.ok (.unitIds run.unitIds), run)
  | (some error, run) => (.error error, run)

/-- The outcome of an operation that is refused as a whole or not at all. -/
def answerWith {Result : Type} (run : Run) (toAnswer : Result → Answer) :
    Except RunError (Result × Run) → Except RunError Answer × Run
  | .ok (result, next) => (.ok (toAnswer result), next)
  | .error error => (.error error, run)

def perform (run : Run) : Request → Except RunError Answer × Run
  | .add unit => answerAdd (run.addUnits [unit])
  | .addMany units => answerAdd (run.addUnits units)
  | .units => (.ok (.unitIds run.unitIds), run)
  | .analyze => run.answerWith .unitReports run.analyze
  | .unitReports => (.ok (.unitReports run.sortedUnitReports), run)
  | .resolve => run.answerWith .failures run.resolveVisibility
  | .diagnostics => (.ok (.failures run.diagnostics), run)
  | .suppressions => run.answerWith .suppressions run.suppressionReport
  | .symbols => (.ok (.symbols run.symbols), run)
  | .changes => (.ok (.changes run.changes), run)
  | .reset => (.ok .done, run.reset)

def performAll (run : Run) : List Request → List (Except RunError Answer) × Run
  | [] => ([], run)
  | request :: rest =>
      let (answer, next) := run.perform request
      let (answers, final) := next.performAll rest
      (answer :: answers, final)

end Run

end Annotations
