import Annotations.Proofs.CommandLine.Check
import Annotations.Proofs.Repository

/-!
Contract: what the options of a check change, and what they leave alone.

Options override the number of workers, the tracking of suppressions and the
record of changes. None of these shows in the failures of a run that declares its
units in order, so the verdict is the same under all of them. Workers that declare
beside each other may leave a path to another unit that declares it; where each
path has one unit they change nothing. The two forms of the output are made of the
same results: the text repeats the entries of the JSON document, line by line.

Owns:
- `RepeatsDocument`, how the text of one check follows the document of another;
- `ChecksAgree`, what all checks of a place have in common, and `check_agrees`;
- runs of the command that show why it does not say more.
-/

namespace Annotations

/-- The lines of text that a document of a check stands for: its diagnostics, and its suppressions
by ascending rules with its changes after them. -/
structure Json.StandsFor (document : Json) (diagnostics results : List String) : Prop where
  diagnostics : document.diagnosticLines? = some diagnostics
  ascending : ∃ rules, document.rules? = some rules ∧
    rules.Pairwise fun left right => compare left right = .lt
  results : ∃ suppressions, document.suppressionLines? = some suppressions ∧
    results = suppressions ++ document.changeLines?.getD []

namespace CommandLine

/-! ## The run of a check -/

/-- The changes of a run in order depend on the call names and on the switch for records. -/
theorem History.changes_replay_congr {options other : RunOptions}
    (sameNames : options.catalog = other.catalog)
    (sameSwitch : options.tracksChanges = other.tracksChanges) (history : History) :
    (History.replay options history).changes = (History.replay other history).changes := by
  change (History.tableAfter options history.analysed).changes = _
  unfold History.tableAfter
  rw [sameNames, sameSwitch]
  rfl

section Place

variable {parse : IgnoreParser} {root : FileTree} {workingDirectory place : FilePath}
  {config : Config} {files : List SourceFile}

theorem isMeasured_toUnit (proper : ∀ file ∈ files, file.IsProper) :
    ∀ unit ∈ files.map SourceFile.toUnit, unit.IsMeasured := by
  intro unit isUnit
  obtain ⟨file, isFile, rfl⟩ := List.mem_map.1 isUnit
  exact SourceUnit.isMeasured_read (proper file isFile).size file.relativePath file.moduleName

/-- What the run of a check is known by: its units, which the workers declared in some order, and
that it is the replay of one batch if they took them in order. -/
structure AnalysedCheck.IsOver (check : AnalysedCheck parse root workingDirectory place)
    (options : RunOptions) (units : List SourceUnit) : Prop where
  ofUnits : analyzeUnits check.schedule options units = .ok check.run
  processed : check.run.HasProcessed options (check.schedule.declared options.workers
    ⟨SymbolTable.empty options.tracksChanges, SuppressionReport.empty⟩ units) units
  fit : check.run.LinesFit
  replayed : check.IsInOrder → check.run = History.replay options ⟨[units], []⟩

/-- Under the overrides of any check the repository is analysed. -/
theorem exists_analysedCheck (proper : root.IsProper) (isDirectory : root.isDirectory place = true)
    (loads : Config.load root place [] = .ok config)
    (found : discover parse root place config.selection = .ok files)
    (check : Check root workingDirectory place) :
    ∃ analysed : AnalysedCheck parse root workingDirectory place, analysed.toCheck = check ∧
      analysed.IsOver (config.under check.arguments).runOptions (files.map SourceFile.toUnit) := by
  obtain ⟨loaded, positive⟩ := Config.load_overridesOf loads check.positive
  obtain ⟨distinct, areProper⟩ := nodup_relativePaths_discover proper isDirectory found
  rw [← map_unitId_toUnit] at distinct
  have hasWorkers : 1 ≤ (config.under check.arguments).runOptions.workers := positive
  have sameFiles : discover parse root place (config.under check.arguments).selection = .ok files :=
    found
  obtain ⟨run, succeeded, processed⟩ := exists_analyzeUnits check.schedule hasWorkers distinct
  have analysed : check.analyze parse = .ok run := by
    unfold Check.analyze
    simp only [loaded, mapError_ok, bind, Except.bind]
    rw [analyzeRepository_of_ok sameFiles, succeeded, mapError_ok]
  refine ⟨⟨check, run, analysed⟩, rfl, succeeded, processed,
    processed.linesFit (isMeasured_toUnit areProper), ?_⟩
  intro inOrder
  unfold AnalysedCheck.IsInOrder at inOrder
  rw [processed.hasOptions, processed.hasUnits] at inOrder
  rw [analyzeUnits_eq inOrder hasWorkers distinct] at succeeded
  exact (Except.ok.inj succeeded).symm

theorem AnalysedCheck.IsOver.site?_of_declaresInOrder
    {check : AnalysedCheck parse root workingDirectory place} {options : RunOptions}
    {units : List SourceUnit} (isOver : check.IsOver options units)
    (inOrder : check.DeclaresInOrder) : check.run.table.site? = firstSite? units := by
  unfold AnalysedCheck.DeclaresInOrder at inOrder
  rw [isOver.processed.hasOptions, isOver.processed.hasUnits] at inOrder
  rw [isOver.processed.site?_eq, Schedule.declared_eq _ inOrder]
  funext path
  exact Run.site?_declareUnits _ units path

theorem AnalysedCheck.isOver (proper : root.IsProper) (isDirectory : root.isDirectory place = true)
    (loads : Config.load root place [] = .ok config)
    (found : discover parse root place config.selection = .ok files)
    (check : AnalysedCheck parse root workingDirectory place) :
    check.IsOver (config.under check.arguments).runOptions (files.map SourceFile.toUnit) := by
  obtain ⟨check, run, analysed⟩ := check
  obtain ⟨⟨_, same, isRun⟩, rfl, isOver⟩ :=
    exists_analysedCheck proper isDirectory loads found check
  obtain rfl := Except.ok.inj (analysed.symm.trans isRun)
  exact isOver

/-- The results of two checks follow from where their runs registered the paths. -/
theorem sites_eq {check other : AnalysedCheck parse root workingDirectory place}
    {options others : RunOptions} {units : List SourceUnit} (isOver : check.IsOver options units)
    (otherIsOver : other.IsOver others units)
    (agree : check.DeclaresInOrder ∧ other.DeclaresInOrder ∨ DeclaredApart check.run.units) :
    check.run.table.site? = other.run.table.site? := by
  rcases agree with ⟨inOrder, otherInOrder⟩ | apart
  · rw [isOver.site?_of_declaresInOrder inOrder, otherIsOver.site?_of_declaresInOrder otherInOrder]
  · rw [isOver.processed.hasUnits] at apart
    rw [isOver.processed.site?_of_apart apart, otherIsOver.processed.site?_of_apart apart]

end Place

/-! ## What checks have in common -/

section Comparison

variable {parse : IgnoreParser} {root : FileTree} {workingDirectory place : FilePath}

/-- Both checks show ranges or neither does, and so with changes. The changes are the same. -/
structure ShowsSame (check other : AnalysedCheck parse root workingDirectory place) : Prop where
  suppressions : check.arguments.suppressions = other.arguments.suppressions
  changes : check.arguments.changes = other.arguments.changes
  records : other.arguments.changes = true → check.run.changes = other.run.changes

/-- A text check repeats the document of a JSON check: its diagnostics on the error stream, after
what is logged, and its results where both show the same. -/
structure RepeatsDocument (text json : AnalysedCheck parse root workingDirectory place)
    (shown : Outcome) (document : Json) (diagnostics results : List String) : Prop where
  printsText : text.execute parse = .ok shown
  printsJson : json.execute parse =
    .ok ⟨checkExitCode json.arguments json.run.diagnostics, document.render ++ "\n", "",
      warningsOf json.run.diagnostics⟩
  standsFor : document.StandsFor diagnostics results
  hasChanges : document.changeLines?.isSome = true ↔ json.arguments.changes = true
  errorStream : ∀ clock, shown.errorStream clock =
    unlines (shown.warnings.map (fun warning => warning.line (clock warning)) ++ diagnostics)
  errorLines : (∀ line ∈ diagnostics, '\n' ∉ line.toList) →
    linesOf shown.errorOutput = diagnostics
  output : ShowsSame text json → shown.output = unlines results
  outputLines : ShowsSame text json → (∀ line ∈ results, '\n' ∉ line.toList) →
    linesOf shown.output = results

end Comparison

/-- All checks of a place, whatever their options and the turns of their workers, have a run and
tell what it found. The diagnostics of two of them differ only if their workers left a path to
different units. -/
structure ChecksAgree (parse : IgnoreParser) (root : FileTree)
    (workingDirectory place : FilePath) : Prop where
  analysed : ∀ check : Check root workingDirectory place, ∃ run, check.analyze parse = .ok run
  judged : ∀ check : AnalysedCheck parse root workingDirectory place,
    check.arguments.format = .text ∨ check.HasTexts →
      ∃ outcome, check.execute parse = .ok outcome ∧
        outcome.exitCode = (if check.run.diagnostics ≠ [] ∧ check.arguments.exitZero = false
          then 1 else 0) ∧
        outcome.warnings = warningsOf check.run.diagnostics
  sites : ∀ check other : AnalysedCheck parse root workingDirectory place,
    check.DeclaresInOrder ∧ other.DeclaresInOrder ∨ DeclaredApart check.run.units →
      check.run.table.site? = other.run.table.site?
  diagnostics : ∀ check other : AnalysedCheck parse root workingDirectory place,
    check.run.table.site? = other.run.table.site? → check.run.diagnostics = other.run.diagnostics
  ranges : ∀ check other : AnalysedCheck parse root workingDirectory place,
    check.arguments.suppressions = other.arguments.suppressions →
      shownReport check.run = shownReport other.run
  changes : ∀ check other : AnalysedCheck parse root workingDirectory place,
    check.IsInOrder → other.IsInOrder → check.arguments.changes = other.arguments.changes →
      check.run.changes = other.run.changes
  /-- Whatever the turns, the records differ at most in the directives that they name. -/
  changedPaths : ∀ check other : AnalysedCheck parse root workingDirectory place,
    check.run.table.site? = other.run.table.site? →
    check.arguments.changes = other.arguments.changes →
      ∀ path, path ∈ check.run.changes.map Change.path ↔ path ∈ other.run.changes.map Change.path
  shown : ∀ text json : AnalysedCheck parse root workingDirectory place,
    text.arguments.format = .text → json.arguments.format = .json → json.HasTexts →
    text.run.diagnostics = json.run.diagnostics →
      ∃ shown document diagnostics results,
        RepeatsDocument text json shown document diagnostics results

theorem checkDocument_standsFor (arguments : Arguments) (run : Run) :
    (checkDocument arguments run.diagnostics (shownReport run) run.changes).StandsFor
      (Render.diagnostics run.diagnostics)
      (Render.suppressions (shownReport run) ++
        if arguments.changes then Render.changes run.changes else []) where
  diagnostics := diagnosticLines?_checkDocument ..
  ascending := ⟨_, rules?_checkDocument _ _ _ _ (pairwise_rules_shownReport run),
    pairwise_rules_shownReport run⟩
  results := by
    refine ⟨_, suppressionLines?_checkDocument _ _ _ _ (pairwise_rules_shownReport run), ?_⟩
    rw [changeLines?_checkDocument]
    cases arguments.changes <;> rfl

section Place

variable {parse : IgnoreParser} {root : FileTree} {workingDirectory place : FilePath}
  {config : Config} {files : List SourceFile}

theorem AnalysedCheck.IsOver.exists_outcome
    {check : AnalysedCheck parse root workingDirectory place} {options : RunOptions}
    {units : List SourceUnit} (isOver : check.IsOver options units)
    (isDirectory : root.isDirectory place = true)
    (printable : check.arguments.format = .text ∨ check.HasTexts) :
    ∃ outcome, check.execute parse = .ok outcome ∧
      outcome.exitCode = checkExitCode check.arguments check.run.diagnostics ∧
      outcome.warnings = warningsOf check.run.diagnostics := by
  rw [execute_of_run isDirectory check isOver.processed.settled]
  cases format : check.arguments.format with
  | text => exact ⟨_, printCheck_text format _ _ _, rfl, rfl⟩
  | json =>
      have areTexts : check.HasTexts := by simpa [format] using printable
      have fits := integersFit_checkFields isOver.fit check.arguments
      exact ⟨_, printCheck_json format fits areTexts, rfl, rfl⟩

/-- Ranges depend on nothing that workers share. -/
theorem shownReport_eq {check other : AnalysedCheck parse root workingDirectory place}
    {options others : RunOptions} {units : List SourceUnit} (isOver : check.IsOver options units)
    (otherIsOver : other.IsOver others units)
    (sameSwitch : options.suppressionsEnabled = others.suppressionsEnabled)
    (sameTracker : options.tracker = others.tracker) :
    shownReport check.run = shownReport other.run := by
  unfold shownReport
  rw [isOver.processed.hasOptions, otherIsOver.processed.hasOptions, sameSwitch,
    isOver.processed.asMapping_eq otherIsOver.processed sameSwitch sameTracker]

theorem repeatsDocument {text json : AnalysedCheck parse root workingDirectory place}
    {options others : RunOptions} {units : List SourceUnit} (isOver : text.IsOver options units)
    (otherIsOver : json.IsOver others units) (isDirectory : root.isDirectory place = true)
    (isText : text.arguments.format = .text) (isJson : json.arguments.format = .json)
    (areTexts : json.HasTexts) (sameDiagnostics : text.run.diagnostics = json.run.diagnostics)
    (sameRanges : ShowsSame text json → shownReport text.run = shownReport json.run) :
    RepeatsDocument text json
      ⟨checkExitCode text.arguments text.run.diagnostics,
        unlines (Render.suppressions (shownReport text.run) ++
          if text.arguments.changes then Render.changes text.run.changes else []),
        unlines (Render.diagnostics text.run.diagnostics), warningsOf text.run.diagnostics⟩
      (checkDocument json.arguments json.run.diagnostics (shownReport json.run) json.run.changes)
      (Render.diagnostics json.run.diagnostics)
      (Render.suppressions (shownReport json.run) ++
        if json.arguments.changes then Render.changes json.run.changes else []) := by
  have sameResults (showsSame : ShowsSame text json) :
      (Render.suppressions (shownReport text.run) ++
          if text.arguments.changes then Render.changes text.run.changes else []) =
        Render.suppressions (shownReport json.run) ++
          if json.arguments.changes then Render.changes json.run.changes else [] := by
    rw [sameRanges showsSame, showsSame.changes]
    cases shown : json.arguments.changes with
    | true => rw [showsSame.records shown]
    | false => rfl
  have fits := integersFit_checkFields otherIsOver.fit json.arguments
  constructor
  case printsText =>
    rw [execute_of_run isDirectory text isOver.processed.settled]
    exact printCheck_text isText _ _ _
  case printsJson =>
    rw [execute_of_run isDirectory json otherIsOver.processed.settled]
    exact printCheck_json isJson fits areTexts
  case standsFor => exact checkDocument_standsFor json.arguments json.run
  case hasChanges =>
    rw [changeLines?_checkDocument]
    cases json.arguments.changes <;> simp
  case errorStream =>
    intro clock
    rw [← sameDiagnostics]
    exact (unlines_append _ _).symm
  case errorLines =>
    rw [sameDiagnostics]
    exact linesOf_unlines
  case output =>
    intro showsSame
    exact congrArg unlines (sameResults showsSame)
  case outputLines =>
    intro showsSame
    rw [sameResults showsSame]
    exact linesOf_unlines

/-- The checks of a place whose configuration can be used and whose ignore files can be read agree.
-/
theorem check_agrees (parse : IgnoreParser) (workingDirectory : FilePath) (proper : root.IsProper)
    (isDirectory : root.isDirectory place = true) (loads : Config.load root place [] = .ok config)
    (found : discover parse root place config.selection = .ok files) :
    ChecksAgree parse root workingDirectory place := by
  have isOver (check : AnalysedCheck parse root workingDirectory place) :=
    check.isOver proper isDirectory loads found
  have sameRanges (check other : AnalysedCheck parse root workingDirectory place)
      (sameSuppressions : check.arguments.suppressions = other.arguments.suppressions) :
      shownReport check.run = shownReport other.run := by
    apply shownReport_eq (isOver check) (isOver other)
    case sameSwitch => simp [Config.under, Config.runOptions, sameSuppressions]
    case sameTracker => rfl
  have sameSwitch (check other : AnalysedCheck parse root workingDirectory place)
      (sameChanges : check.arguments.changes = other.arguments.changes) :
      (config.under check.arguments).runOptions.tracksChanges =
        (config.under other.arguments).runOptions.tracksChanges := by
    simp [Config.under, Config.runOptions, sameChanges]
  constructor
  case analysed =>
    intro check
    obtain ⟨analysed, rfl, -⟩ := exists_analysedCheck proper isDirectory loads found check
    exact ⟨analysed.run, analysed.analysed⟩
  case judged =>
    intro check printable
    rw [← checkExitCode_eq]
    exact (isOver check).exists_outcome isDirectory printable
  case sites =>
    intro check other agree
    exact sites_eq (isOver check) (isOver other) agree
  case diagnostics =>
    intro check other sameSites
    exact (isOver check).processed.diagnostics_eq (isOver other).processed rfl sameSites
  case ranges => exact sameRanges
  case changes =>
    intro check other inOrder otherInOrder sameChanges
    rw [(isOver check).replayed inOrder, (isOver other).replayed otherInOrder]
    have sameNames : (config.under check.arguments).runOptions.catalog =
        (config.under other.arguments).runOptions.catalog := rfl
    exact History.changes_replay_congr sameNames (sameSwitch check other sameChanges) _
  case changedPaths =>
    intro check other sameSites sameChanges
    exact (isOver check).processed.mem_paths_changes_iff (isOver other).processed rfl
      (sameSwitch check other sameChanges) sameSites
  case shown =>
    intro text json isText isJson areTexts sameDiagnostics
    exact ⟨_, _, _, _, repeatsDocument (isOver text) (isOver json) isDirectory isText isJson
      areTexts sameDiagnostics fun showsSame => sameRanges text json showsSame.suppressions⟩

end Place

/-! ## Checks of one module -/

section OneModule

def Check.atRoot (root : FileTree) (schedule : Schedule) (argv : List String)
    (arguments : Arguments) (parsed : Arguments.parse argv = .ok (.check, arguments))
    (noDirectory : arguments.directories = [])
    (positive : ∀ workers, arguments.workers? = some workers → 1 ≤ workers)
    (quiet : arguments.verbose = false) : Check root [] [] where
  argv := argv
  arguments := arguments
  schedule := schedule
  parsed := parsed
  placed := by
    have noNames : FileTree.namesOf "." = [] := by decide +kernel
    rw [Arguments.directory, noDirectory]
    simp [FileTree.resolve, FileTree.follow, noNames]
  positive := positive
  quiet := quiet

private def treeOf (upper lower : String) : FileTree :=
  oneModule (asciiOctets upper) (asciiOctets lower)

private def filesOf (upper lower : String) : List SourceFile :=
  [⟨["m.py"], asciiOctets upper⟩, ⟨["src", "m.py"], asciiOctets lower⟩]

private theorem isDirectory_treeOf (upper lower : String) :
    (treeOf upper lower).isDirectory [] = true := by
  simp [FileTree.isDirectory, FileTree.entry?, FileTree.follow, FileTree.at?, treeOf, oneModule]

private theorem load_treeOf (upper lower : String) :
    Config.load (treeOf upper lower) [] [] = .ok Config.standard := by
  have absent : Config.settingsIn (treeOf upper lower) [] = .ok [] := by
    simp [Config.settingsIn, FileTree.octets?, FileTree.entry?, FileTree.follow, FileTree.at?,
      FileTree.child?, treeOf, oneModule, Config.fileName, List.lookup_cons]
  rw [Config.load, absent]
  rfl

private theorem discover_treeOf (upper lower : String) :
    discover IgnoreFile.parser (treeOf upper lower) [] Config.standard.selection =
      .ok (filesOf upper lower) :=
  discover_oneModule _ _ _

/-- The run of a check of the tree, if it comes to these results. -/
private theorem exists_run_treeOf {upper lower : String} (proper : (treeOf upper lower).IsProper)
    (check : Check (treeOf upper lower) [] []) (failure? : Option Failure) (change? : Option Change)
    (evaluated : (analyzeUnits check.schedule (Config.standard.under check.arguments).runOptions
        ((filesOf upper lower).map SourceFile.toUnit)).map
          (fun run => (run.unitReports.flatMap UnitReport.diagnostics, run.table.log?.getD [])) =
      .ok (failure?.toList, change?.toList)) :
    ∃ run, check.analyze IgnoreFile.parser = .ok run ∧
      run.options = (Config.standard.under check.arguments).runOptions ∧
      run.units = (filesOf upper lower).map SourceFile.toUnit ∧ run.pending = [] ∧
      run.diagnostics = failure?.toList ∧ run.changes = change?.toList := by
  obtain ⟨⟨_, run, analysed⟩, rfl, isOver⟩ := exists_analysedCheck proper
    (isDirectory_treeOf upper lower) (load_treeOf upper lower) (discover_treeOf upper lower) check
  rw [isOver.ofUnits] at evaluated
  obtain ⟨sameFailures, sameLog⟩ := Prod.mk.inj (Except.ok.inj evaluated)
  refine ⟨run, analysed, isOver.processed.hasOptions, isOver.processed.hasUnits,
    isOver.processed.settled, ?_, ?_⟩
  · have permuted := run.diagnostics_perm
    rw [sameFailures] at permuted
    cases failure? with
    | none => exact List.perm_nil.1 permuted
    | some failure => exact List.perm_singleton.1 permuted
  · rw [Run.changes, SymbolTable.changes, sameLog]
    cases change? <;> simp

/-- What a check of the tree prints, if it shows no ranges and its run comes to these results. -/
private theorem execute_treeOf {upper lower : String} (proper : (treeOf upper lower).IsProper)
    (check : Check (treeOf upper lower) [] []) (failure? : Option Failure) (change? : Option Change)
    (noRanges : check.arguments.suppressions = false)
    (evaluated : (analyzeUnits check.schedule (Config.standard.under check.arguments).runOptions
        ((filesOf upper lower).map SourceFile.toUnit)).map
          (fun run => (run.unitReports.flatMap UnitReport.diagnostics, run.table.log?.getD [])) =
      .ok (failure?.toList, change?.toList)) :
    check.execute IgnoreFile.parser =
      printCheck check.arguments failure?.toList [] change?.toList := by
  obtain ⟨run, analysed, hasOptions, -, settled, diagnostics, changes⟩ :=
    exists_run_treeOf proper check failure? change? evaluated
  have disabled : (Config.standard.under check.arguments).runOptions.suppressionsEnabled =
      false := by
    simp [Config.under, Config.runOptions, Config.standard, noRanges]
  have report : shownReport run = [] := by
    rw [shownReport, hasOptions, disabled]
    rfl
  rw [execute_of_run (isDirectory_treeOf upper lower) ⟨check, run, analysed⟩ settled, diagnostics,
    changes, report]

end OneModule

private def failing : FileTree :=
  treeOf "private('run')  # annotate: disable=A\n" ""

private def unresolved : Failure :=
  ⟨"private", ["m"], "m.py", 1, [.unresolvedSymbol "private" ⟨["m"], "run", .instanceMethod⟩]⟩

private def textCheck : Check failing [] [] :=
  .atRoot failing .inOrder ["check", "--suppressions"]
    { Arguments.standard with suppressions := true } (by decide +kernel) rfl
    (by simp [Arguments.standard]) rfl

private def jsonCheck : Check failing [] [] :=
  .atRoot failing ⟨[1, 0], [0, 1, 1]⟩
    ["check", "--format=json", "--workers", "2", "--suppressions"]
    { Arguments.standard with format := .json, workers? := some 2, suppressions := true }
    (by decide +kernel) rfl (by simp) rfl

/-- Two checks of a tree, with other forms of the output, other numbers of workers and other turns.
-/
theorem check_agrees_on_one_module :
    ∃ (shown : Outcome) (document : Json) (diagnostics results : List String),
      execute IgnoreFile.parser .inOrder failing [] ["check", "--suppressions"] = .ok shown ∧
      execute IgnoreFile.parser ⟨[1, 0], [0, 1, 1]⟩ failing []
          ["check", "--format=json", "--workers", "2", "--suppressions"] =
        .ok ⟨1, document.render ++ "\n", "", shown.warnings⟩ ∧
      document.StandsFor diagnostics results ∧ shown.exitCode = 1 ∧
      (∀ clock, shown.errorStream clock =
        unlines (shown.warnings.map (fun warning => warning.line (clock warning)) ++ diagnostics)) ∧
      shown.output = unlines results := by
  have proper : failing.IsProper := isProper_oneModule (by decide) (by decide)
  have agree := check_agrees IgnoreFile.parser [] proper (isDirectory_treeOf _ _) (load_treeOf _ _)
    (discover_treeOf _ _)
  obtain ⟨textRun, textAnalysed, -, textUnits, -, textFailed, -⟩ :=
    exists_run_treeOf proper textCheck (some unresolved) none (by decide +kernel)
  obtain ⟨jsonRun, jsonAnalysed, -, -, -, jsonFailed, -⟩ :=
    exists_run_treeOf proper jsonCheck (some unresolved) none (by decide +kernel)
  have apart : DeclaredApart textRun.units := by
    have nothing : ∀ unit ∈ textRun.units, unit.declarations = [] := by
      rw [textUnits]
      decide +kernel
    rintro first isFirst - - path ⟨_, isSame, declaration, isDeclaration, -⟩
    rw [List.mem_singleton.1 isSame, nothing first isFirst] at isDeclaration
    contradiction
  have areTexts : ∀ failure ∈ jsonRun.diagnostics, failure.isText = true := by
    rw [jsonFailed]
    decide +kernel
  have sameDiagnostics := agree.diagnostics ⟨textCheck, textRun, textAnalysed⟩
    ⟨jsonCheck, jsonRun, jsonAnalysed⟩ (agree.sites _ _ (Or.inr apart))
  obtain ⟨outcome, judged, exitCode, logged⟩ :=
    agree.judged ⟨textCheck, textRun, textAnalysed⟩ (Or.inl rfl)
  obtain ⟨shown, document, diagnostics, results, repeats⟩ :=
    agree.shown ⟨textCheck, textRun, textAnalysed⟩ ⟨jsonCheck, jsonRun, jsonAnalysed⟩ rfl rfl
      areTexts sameDiagnostics
  obtain rfl := Except.ok.inj (repeats.printsText.symm.trans judged)
  have failed : checkExitCode jsonCheck.arguments jsonRun.diagnostics = 1 := by
    rw [jsonFailed]
    rfl
  have sameWarnings : warningsOf jsonRun.diagnostics = shown.warnings := by
    rw [logged]
    exact congrArg warningsOf sameDiagnostics.symm
  refine ⟨shown, document, diagnostics, results, repeats.printsText, ?_, repeats.standsFor, ?_,
    repeats.errorStream, repeats.output ⟨rfl, rfl, nofun⟩⟩
  · exact repeats.printsJson.trans (by rw [failed, sameWarnings])
  · rw [exitCode]
    exact if_pos ⟨by simp [textFailed], rfl⟩

/-! ## Why checks agree in no more -/

private def declaredTwice : FileTree :=
  treeOf "private_constant('A')\nA = 1\n" "A = 1\n"

private def appliedTwice : FileTree :=
  treeOf "A = 1\nprivate_constant('A')\n" "private_constant('A')\n"

private def brokenLine : FileTree :=
  treeOf "private(f(\n    1))\n" ""

private def surrogate : FileTree :=
  treeOf "private('\\ud800')\n" ""

private def quotesLineFeed : Failure :=
  ⟨"private", ["m"], "m.py", 1,
    [.invalidArgument "private" ⟨.expression, "f(\n    1)", none⟩ false]⟩

/-- Of two files that declare a symbol either may register it, and with it goes the verdict on a
directive above one of the declarations. Of two directives that make a symbol private either may be
recorded. A diagnostic that quotes a line feed is no line of the error stream, and a warning stands
before the first diagnostic. -/
theorem checks_differ :
    (∃ inOrder beside,
      execute IgnoreFile.parser .inOrder declaredTwice [] ["check", "--workers", "1"] =
        .ok inOrder ∧
      execute IgnoreFile.parser ⟨[0, 1, 1], []⟩ declaredTwice [] ["check", "--workers", "2"] =
        .ok beside ∧
      inOrder.exitCode = 1 ∧ beside.exitCode = 0) ∧
    (∃ inOrder beside,
      execute IgnoreFile.parser .inOrder appliedTwice [] ["check", "--changes", "--workers", "1"] =
        .ok inOrder ∧
      execute IgnoreFile.parser ⟨[], [0, 1, 1, 1, 1]⟩ appliedTwice []
          ["check", "--changes", "--workers", "2"] = .ok beside ∧
      inOrder.output = "m.py:2: m.A public -> private\n" ∧
      beside.output = "src/m.py:1: m.A public -> private\n") ∧
    (∃ shown document lines,
      execute IgnoreFile.parser .inOrder brokenLine [] ["check"] = .ok shown ∧
      execute IgnoreFile.parser .inOrder brokenLine [] ["check", "--format", "json"] =
        .ok ⟨1, Json.render document ++ "\n", "", shown.warnings⟩ ∧
      document.diagnosticLines? = some lines ∧ shown.warnings ≠ [] ∧
      ∃ line ∈ lines, ∀ clock, line ∉ linesOf (shown.errorStream clock)) ∧
    execute IgnoreFile.parser .inOrder surrogate [] ["check", "--exit-zero", "--format", "json"] =
      .error (.dump .surrogate) := by
  refine ⟨?verdict, ?records, ?lines, ?surrogate⟩
  case verdict =>
    have proper : declaredTwice.IsProper := isProper_oneModule (by decide) (by decide)
    have first := execute_treeOf proper
      (.atRoot _ .inOrder ["check", "--workers", "1"]
        { Arguments.standard with workers? := some 1 } (by decide +kernel) rfl (by simp) rfl)
      (some ⟨"private_constant", ["m"], "m.py", 1,
        [.unresolvedSymbol "private_constant" ⟨["m"], "A", .constant⟩]⟩)
      none rfl (by decide +kernel)
    have second := execute_treeOf proper
      (.atRoot _ ⟨[0, 1, 1], []⟩ ["check", "--workers", "2"]
        { Arguments.standard with workers? := some 2 } (by decide +kernel) rfl (by simp) rfl)
      none none rfl (by decide +kernel)
    exact ⟨_, _, first.trans (printCheck_text rfl _ _ _), second.trans (printCheck_text rfl _ _ _),
      rfl, rfl⟩
  case records =>
    have proper : appliedTwice.IsProper := isProper_oneModule (by decide) (by decide)
    have first := execute_treeOf proper
      (.atRoot _ .inOrder ["check", "--changes", "--workers", "1"]
        { Arguments.standard with workers? := some 1, changes := true } (by decide +kernel) rfl
        (by simp) rfl)
      none (some ⟨⟨["m"], "A", .constant⟩, .isPublic, .isPrivate, "m.py", 2⟩) rfl
      (by decide +kernel)
    have second := execute_treeOf proper
      (.atRoot _ ⟨[], [0, 1, 1, 1, 1]⟩ ["check", "--changes", "--workers", "2"]
        { Arguments.standard with workers? := some 2, changes := true } (by decide +kernel) rfl
        (by simp) rfl)
      none (some ⟨⟨["m"], "A", .constant⟩, .isPublic, .isPrivate, "src/m.py", 1⟩) rfl
      (by decide +kernel)
    exact ⟨_, _, first.trans (printCheck_text rfl _ _ _), second.trans (printCheck_text rfl _ _ _),
      by decide +kernel, by decide +kernel⟩
  case lines =>
    have proper : brokenLine.IsProper := isProper_oneModule (by decide) (by decide)
    have shown := execute_treeOf proper
      (.atRoot _ .inOrder ["check"] Arguments.standard (by decide +kernel) rfl
        (by simp [Arguments.standard]) rfl)
      (some quotesLineFeed) none rfl (by decide +kernel)
    have printed := execute_treeOf proper
      (.atRoot _ .inOrder ["check", "--format", "json"] { Arguments.standard with format := .json }
        (by decide +kernel) rfl (by simp [Arguments.standard]) rfl)
      (some quotesLineFeed) none rfl (by decide +kernel)
    refine ⟨_, _, _, shown.trans (printCheck_text rfl _ _ _),
      printed.trans (printCheck_json rfl rfl (by decide +kernel)),
      diagnosticLines?_checkDocument .., by decide, Render.diagnosticLine quotesLineFeed,
      List.mem_singleton.2 rfl, fun clock => not_mem_linesOf (by decide +kernel) _⟩
  case surrogate =>
    have proper : surrogate.IsProper := isProper_oneModule (by decide) (by decide)
    have printed := execute_treeOf proper
      (.atRoot _ .inOrder ["check", "--exit-zero", "--format", "json"]
        { Arguments.standard with format := .json, exitZero := true } (by decide +kernel) rfl
        (by simp [Arguments.standard]) rfl)
      (some ⟨"private", ["m"], "m.py", 1,
        [.unresolvedCodes "private" ["m"] [0xD800] .instanceMethod]⟩) none rfl (by decide +kernel)
    exact printed.trans (printCheck_of_surrogate rfl rfl rfl [] [])

end CommandLine

end Annotations
