import Annotations.Proofs.CommandLine.Entries
import Annotations.Proofs.CommandLine.Lines
import Annotations.Proofs.CommandLine.Overrides
import Annotations.Proofs.Description
import Annotations.Proofs.Text.Runs

/-!
Contract: what a check of a place prints, and how it ends.

A check analyses everything before it reports. So asking the run for its failures
and its ranges analyses nothing more, and both forms of the output are made of the
results as they are.

Owns:
- `Check`, a check of a place with its arguments and the turns of its workers, and
  `AnalysedCheck`, with its run;
- `execute_of_run`, what is printed of the run;
- `linesOf`, the lines of a text.

Does not own: the comparison of checks, see
`Annotations.Proofs.CommandLine.Agreement`; the reading of the arguments.
-/

namespace Annotations

/-- A run without pending units stays as it is. -/
theorem Run.analyze_of_settled {run : Run} (settled : run.pending = []) :
    run.analyze = .ok ([], run) := by
  obtain ⟨options, units, pending, unitReports, table, report⟩ := run
  obtain rfl : pending = [] := settled
  simp [analyze, pendingUnits, processUnits, declareUnits, collect, bind, Except.bind]

namespace CommandLine

/-! ## Lines of a text -/

/-- The lines of a text that ends with a line feed. -/
def linesOf (output : String) : List String :=
  (output.toList.splitOn '\n').dropLast.map String.ofList

theorem toList_unlines (lines : List String) :
    (unlines lines).toList = ['\n'].intercalate (lines.map String.toList ++ [[]]) := by
  unfold unlines
  rw [String.toList_join]
  induction lines with
  | nil => rfl
  | cons line rest inductionHypothesis =>
      rw [List.map_cons, List.flatMap_cons, inductionHypothesis, List.map_cons, List.cons_append,
        List.intercalate_cons_of_ne_nil (by simp), String.toList_append]
      rfl

theorem unlines_append (lines others : List String) :
    unlines (lines ++ others) = unlines lines ++ unlines others := by
  rw [← String.toList_inj, String.toList_append]
  simp [unlines, String.toList_join]

/-- What holds a line feed is no line. -/
theorem not_mem_linesOf {line : String} (hasBreak : '\n' ∈ line.toList) (output : String) :
    line ∉ linesOf output := by
  intro isLine
  obtain ⟨characters, isPart, rfl⟩ := List.mem_map.1 isLine
  rw [String.toList_ofList] at hasBreak
  exact Text.not_mem_of_mem_splitOn (List.dropLast_subset _ isPart) hasBreak

/-- Lines without a line feed of their own are read back. -/
theorem linesOf_unlines {lines : List String} (noBreaks : ∀ line ∈ lines, '\n' ∉ line.toList) :
    linesOf (unlines lines) = lines := by
  unfold linesOf
  rw [toList_unlines, List.splitOn_intercalate]
  · simp [Function.comp_def]
  · intro characters isPart
    rcases List.mem_append.1 isPart with isLine | isEnd
    · obtain ⟨line, isWritten, rfl⟩ := List.mem_map.1 isLine
      exact noBreaks line isWritten
    · rw [List.mem_singleton.1 isEnd]
      exact List.not_mem_nil
  · simp

/-! ## Checks -/

/-- A check of a place: its arguments, with at least one worker and without further log, and the
turns that its workers take. -/
structure Check (root : FileTree) (workingDirectory place : FilePath) where
  argv : List String
  arguments : Arguments
  schedule : Schedule
  parsed : Arguments.parse argv = .ok (.check, arguments)
  placed : (root.resolve workingDirectory arguments.directory).getD workingDirectory = place
  positive : ∀ workers, arguments.workers? = some workers → 1 ≤ workers
  quiet : arguments.verbose = false

namespace Check

variable {root : FileTree} {workingDirectory place : FilePath}

def execute (parse : IgnoreParser) (check : Check root workingDirectory place) :
    Except CommandError Outcome :=
  CommandLine.execute parse check.schedule root workingDirectory check.argv

def analyze (parse : IgnoreParser) (check : Check root workingDirectory place) :
    Except RepositoryError Run := do
  let config ← (Config.load root place (overridesOf check.arguments)).mapError .config
  analyzeRepository parse check.schedule root place config

end Check

structure AnalysedCheck (parse : IgnoreParser) (root : FileTree)
    (workingDirectory place : FilePath) extends Check root workingDirectory place where
  run : Run
  analysed : toCheck.analyze parse = .ok run

namespace AnalysedCheck

variable {parse : IgnoreParser} {root : FileTree} {workingDirectory place : FilePath}

def DeclaresInOrder (check : AnalysedCheck parse root workingDirectory place) : Prop :=
  check.schedule.declaring = [] ∨ check.run.options.workers = 1 ∨ check.run.units.length < 2

/-- The units are taken one after the other in both phases. -/
def IsInOrder (check : AnalysedCheck parse root workingDirectory place) : Prop :=
  check.schedule = .inOrder ∨ check.run.options.workers = 1 ∨ check.run.units.length < 2

/-- No diagnostic has to spell a surrogate, which JSON cannot carry. -/
def HasTexts (check : AnalysedCheck parse root workingDirectory place) : Prop :=
  ∀ failure ∈ check.run.diagnostics, failure.isText = true

end AnalysedCheck

/-! ## Reports -/

/-- The ranges that a check of a run shows. -/
def shownReport (run : Run) : ReportMapping :=
  if run.options.suppressionsEnabled then run.report.asMapping else []

theorem pairwise_rules_shownReport (run : Run) :
    ((shownReport run).map Prod.fst).Pairwise fun left right => compare left right = .lt := by
  unfold shownReport
  split
  · exact pairwise_rules_groupByRule _
  · exact .nil

/-- With everything analysed, reporting analyses nothing more and shows the results as they are. -/
theorem report_check (arguments : Arguments) {run : Run} (settled : run.pending = []) :
    report .check arguments run =
      printCheck arguments run.diagnostics (shownReport run) run.changes := by
  have unchanged := Run.analyze_of_settled settled
  unfold report Run.resolveVisibility Run.suppressionReport shownReport
  simp only [unchanged, mapError_ok, bind, Except.bind]
  cases run.options.suppressionsEnabled <;> rfl

/-- What a check prints is made of the results of its run. -/
theorem execute_of_run {parse : IgnoreParser} {root : FileTree}
    {workingDirectory place : FilePath} (isDirectory : root.isDirectory place = true)
    (check : AnalysedCheck parse root workingDirectory place) (settled : check.run.pending = []) :
    check.execute parse = printCheck check.arguments check.run.diagnostics
      (shownReport check.run) check.run.changes := by
  have analysed := check.analysed
  unfold Check.analyze at analysed
  unfold Check.execute execute
  rw [check.parsed]
  simp only [check.placed]
  unfold executeAt executeIn
  rw [if_pos isDirectory]
  cases loaded : Config.load root place (overridesOf check.arguments) with
  | error error => simp [loaded, mapError_error, bind, Except.bind] at analysed
  | ok config =>
      simp only [loaded, mapError_ok, bind, Except.bind] at analysed
      simp only [analysed, mapError_ok, bind, Except.bind]
      exact report_check check.arguments settled

/-! ## The two forms of the output -/

/-- Where all lines fit, so does the document. -/
theorem integersFit_checkFields {run : Run} (fit : run.LinesFit) (arguments : Arguments) :
    (Json.object (checkFields arguments run.diagnostics (shownReport run)
      run.changes)).integersFit = true := by
  have diagnostics := Json.integersFit_array_map fun failure isFailure =>
    Failure.integersFit_document (fit.diagnostics failure isFailure)
  have changes := Json.integersFit_array_map fun change isChange =>
    Change.integersFit_toDict (fit.changes change isChange)
  have report : (reportDocument (shownReport run)).integersFit = true := by
    rw [reportDocument, Json.integersFit, Json.fieldsFit_iff, List.forall_mem_map]
    intro group isGroup
    apply Json.integersFit_array_map
    intro entry isEntry
    unfold shownReport at isGroup
    split at isGroup
    · obtain ⟨starts, ends⟩ := fit.report group isGroup entry isEntry
      exact ReportEntry.integersFit_toDict starts ends
    · contradiction
  unfold checkFields
  rw [Json.integersFit]
  cases arguments.changes <;> simp [Json.fieldsFit, diagnostics, report, changes]

/-- A check that prints JSON prints its document, if that fits and its diagnostics are texts. -/
theorem printCheck_json {arguments : Arguments} (isJson : arguments.format = .json)
    {failures : List Failure} {report : ReportMapping} {changes : List Change}
    (fits : (Json.object (checkFields arguments failures report changes)).integersFit = true)
    (areTexts : ∀ failure ∈ failures, failure.isText = true) :
    printCheck arguments failures report changes =
      .ok
        { exitCode := checkExitCode arguments failures
          output := (checkDocument arguments failures report changes).render ++ "\n"
          errorOutput := ""
          warnings := warningsOf failures } := by
  unfold printCheck printPayload
  simp only [isJson, checkPayload_eq arguments _ _ areTexts, Payload.dumps_ofJson fits]
  rfl

theorem printCheck_text {arguments : Arguments} (isText : arguments.format = .text)
    (failures : List Failure) (report : ReportMapping) (changes : List Change) :
    printCheck arguments failures report changes =
      .ok
        { exitCode := checkExitCode arguments failures
          output := unlines (Render.suppressions report ++
            if arguments.changes then Render.changes changes else [])
          errorOutput := unlines (Render.diagnostics failures)
          warnings := warningsOf failures } := by
  unfold printCheck
  simp only [isText]

/-- JSON cannot carry a diagnostic that spells a surrogate. -/
theorem printCheck_of_surrogate {arguments : Arguments} (isJson : arguments.format = .json)
    (noChanges : arguments.changes = false) {failure : Failure} (hasCodes : failure.isText = false)
    (report : ReportMapping) (changes : List Change) :
    printCheck arguments [failure] report changes = .error (.dump .surrogate) := by
  have inOrder (diagnostics suppressions : Payload) :
      Json.sortFields [("diagnostics", diagnostics), ("suppressions", suppressions)] =
        [("diagnostics", diagnostics), ("suppressions", suppressions)] := by
    simp +decide [Json.sortFields, List.mergeSort]
  have isError : (Payload.array [failure.toDict]).toJson = .error .surrogate := by
    rw [Payload.toJson_array, List.mapM_cons, failure.toJson_toDict, Payload.toJson, hasCodes]
    rfl
  unfold printCheck printPayload checkPayload Payload.dumps
  rw [isJson, noChanges]
  simp only [List.map_cons, List.map_nil, Bool.false_eq_true, if_false, List.append_nil,
    Payload.toJson_object, inOrder, List.mapM_cons, Payload.fieldJson, isError]
  rfl

theorem checkExitCode_eq (arguments : Arguments) (failures : List Failure) :
    checkExitCode arguments failures =
      if failures ≠ [] ∧ arguments.exitZero = false then 1 else 0 := by
  unfold checkExitCode
  cases failures <;> simp

end CommandLine

end Annotations
