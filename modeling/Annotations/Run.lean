import Annotations.Resolver
import Annotations.Suppression.Report

/-!
Contract: one analysis run over source units.

Units are added first. `Run.analyze` takes all units added since it was last
called, registers the declarations of every one of them, and only then applies
directives and reads markers, unit by unit in the order of addition. That is one
of the orders in which several workers can do it; for the others see
`Annotations.Run.Pool`.

Owns:

- `Run` and its options;
- adding units, analysing, and reading the results;
- what can go wrong: too few workers, a unit added twice, and the two causes the
  engine itself never meets.

The log has its warnings alone; what is logged for debugging is left out.
-/

namespace Annotations

inductive RunError where
  | tooFewWorkers (workers : Int)
  | duplicateUnit (unitId : UnitId)
  | invalidRange (error : InvalidRange)
  | unregisteredPath (error : UnregisteredPath)
deriving DecidableEq, Repr

structure RunOptions where
  catalog : Catalog
  suppressionsEnabled : Bool
  tracker : Tracker
  tracksChanges : Bool
  workers : Int
deriving DecidableEq, Repr

structure UnitReport where
  unitId : UnitId
  diagnostics : List Failure
  suppressions : SuppressionMap
deriving DecidableEq, Repr

/-- A run: its units in the order of addition, those of them not analysed yet, and the results of
the others. -/
structure Run where
  options : RunOptions
  units : List SourceUnit
  pending : List UnitId
  unitReports : List UnitReport
  table : SymbolTable
  report : SuppressionReport

namespace Run

def fresh (options : RunOptions) : Run :=
  { options := options
    units := []
    pending := []
    unitReports := []
    table := SymbolTable.empty options.tracksChanges
    report := SuppressionReport.empty }

/-- Start a run; it needs at least one worker. -/
def start (options : RunOptions) : Except RunError Run :=
  if options.workers < 1 then .error (.tooFewWorkers options.workers) else .ok (fresh options)

/-! ## Adding units -/

/-- The identifiers of the units, in the order of addition. -/
def unitIds (run : Run) : List UnitId :=
  run.units.map SourceUnit.unitId

def addUnit (run : Run) (unit : SourceUnit) : Except RunError Run :=
  if unit.unitId ∈ run.unitIds then .error (.duplicateUnit unit.unitId)
  else
    .ok
      { run with
        units := run.units ++ [unit]
        pending := run.pending ++ [unit.unitId] }

/-- Add units up to the first whose identifier is taken. The units before it stay added. -/
def addUnits (run : Run) : List SourceUnit → Option RunError × Run
  | [] => (none, run)
  | unit :: rest =>
      match run.addUnit unit with
      | .ok run => run.addUnits rest
      | .error error => (some error, run)

/-! ## Analysis -/

def unit? (run : Run) (unitId : UnitId) : Option SourceUnit :=
  run.units.find? fun unit => unit.unitId = unitId

def pendingUnits (run : Run) : List SourceUnit :=
  run.pending.filterMap run.unit?

def declareUnits (table : SymbolTable) (units : List SourceUnit) : SymbolTable :=
  units.foldl (fun table unit => table.declareAll unit.declarations unit.unitId) table

def trackUnit (options : RunOptions) (unit : SourceUnit) : Except RunError SuppressionMap :=
  if options.suppressionsEnabled then
    (options.tracker.processUnit unit).mapError RunError.invalidRange
  else .ok []

/-- Apply the directives of a unit and read its markers. -/
def processUnit (options : RunOptions) (table : SymbolTable) (unit : SourceUnit) :
    Except RunError (UnitReport × SymbolTable) := do
  let resolver : Resolver := ⟨unit.unitId, options.catalog⟩
  let (failures, table) ← (resolver.processUnit table unit).mapError RunError.unregisteredPath
  let suppressions ← trackUnit options unit
  .ok (⟨unit.unitId, failures, suppressions⟩, table)

def processUnits (options : RunOptions) :
    SymbolTable → List SourceUnit → Except RunError (List UnitReport × SymbolTable)
  | table, [] => .ok ([], table)
  | table, unit :: rest => do
      let (unitReport, table) ← processUnit options table unit
      let (unitReports, table) ← processUnits options table rest
      .ok (unitReport :: unitReports, table)

def collect (report : SuppressionReport) (unitReports : List UnitReport) : SuppressionReport :=
  unitReports.foldl
    (fun report unitReport => report.append unitReport.unitId unitReport.suppressions) report

/-- Process every unit added since the last call, one after the other. The result gives their
reports. -/
def analyze (run : Run) : Except RunError (List UnitReport × Run) := do
  let units := run.pendingUnits
  let declared := declareUnits run.table units
  let (unitReports, table) ← processUnits run.options declared units
  .ok
    (unitReports,
      { run with
        pending := []
        unitReports := run.unitReports ++ unitReports
        table := table
        report := collect run.report unitReports })

/-! ## Results -/

/-- The reports of all analysed units, by ascending identifier. -/
def sortedUnitReports (run : Run) : List UnitReport :=
  run.unitReports.mergeSort fun left right => (compare left.unitId right.unitId).isLE

/-- All failures, by unit and line. -/
def diagnostics (run : Run) : List Failure :=
  (run.sortedUnitReports.flatMap UnitReport.diagnostics).mergeSort fun left right =>
    ((compare left.unitId right.unitId).then (compare left.line right.line)).isLE

def symbols (run : Run) : List Symbol :=
  run.table.symbols

/-- The recorded changes of visibility; none unless the run records them. -/
def changes (run : Run) : List Change :=
  run.table.changes

/-- Analyse what is pending and give all failures. -/
def resolveVisibility (run : Run) : Except RunError (List Failure × Run) := do
  let (_, run) ← run.analyze
  .ok (run.diagnostics, run)

/-- Analyse what is pending and give the collected ranges. A run that does not track suppressions
gives none and analyses nothing. -/
def suppressionReport (run : Run) : Except RunError (ReportMapping × Run) := do
  if run.options.suppressionsEnabled then
    let (_, run) ← run.analyze
    .ok (run.report.asMapping, run)
  else .ok ([], run)

def reset (run : Run) : Run :=
  { run with
    units := []
    pending := []
    unitReports := []
    table := run.table.clear
    report := SuppressionReport.empty }

end Run

/-- A warning in the log of the program. -/
structure Warning where
  logger : String
  message : String
deriving DecidableEq, Repr

def Warning.line (time : String) (warning : Warning) : String :=
  s!"{time} - {warning.logger} - WARNING - {warning.message}"

/-- What is logged when the directives of a run are resolved with these failures. -/
def warningsOf (failures : List Failure) : List Warning :=
  if failures.isEmpty then []
  else [⟨"engine.run", s!"{failures.length} directive call sites failed"⟩]

/-- The wording of the errors that carry one. -/
def RunError.message : RunError → String
  | .tooFewWorkers workers => s!"workers must be >= 1, got {workers}"
  | .duplicateUnit unitId => s!"Source unit already added: {unitId}"
  | .invalidRange error => error.message
  | .unregisteredPath error => error.path.describe

end Annotations
