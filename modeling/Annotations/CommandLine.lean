import Annotations.CommandLine.Arguments
import Annotations.Payload
import Annotations.Render
import Annotations.Repository

/-!
Contract: the command, from its arguments to what it prints.

`check` reports directives that failed and suppressed lines; it fails if a
directive did. `symbols` lists the declared symbols with their visibility.

Owns:

- `CommandLine.execute`, over a snapshot of the files.

Of the log there are the warnings. The option that asks for more of it is read, but
what it adds is left out.

Does not own:

- reading the files and printing, see `Annotations.Main`.
-/

namespace Annotations.CommandLine

/-- What a command prints and logs, and the code it ends with. -/
structure Outcome where
  exitCode : Nat
  output : String
  errorOutput : String
  warnings : List Warning
deriving DecidableEq, Repr

inductive CommandError where
  | usage
  | repository (error : RepositoryError)
  | dump (error : DumpError)
deriving DecidableEq, Repr

def CommandError.message : CommandError → String
  | .usage => "usage: annotate (check | symbols) [options] [directory]"
  | .repository error => s!"error: {error.message}"
  | .dump error => s!"error: {error.message}"

def unlines (lines : List String) : String :=
  String.join (lines.map (· ++ "\n"))

/-- The error stream: what is logged, at the times that a clock gives, comes before what is printed,
as nothing is printed until everything is analysed. -/
def Outcome.errorStream (clock : Warning → String) (outcome : Outcome) : String :=
  unlines (outcome.warnings.map fun warning => warning.line (clock warning)) ++ outcome.errorOutput

/-- The settings that the arguments put over the configuration file. -/
def overridesOf (arguments : Arguments) : Table :=
  (arguments.workers?.map fun workers => ("workers", Setting.integer workers)).toList ++
    (if arguments.suppressions then
      [("suppressions", .table [("enabled", .boolean true)])] else []) ++
    (if arguments.changes then
      [("visibility", .table [("track_changes", .boolean true)])] else [])

def absolutePath (place : FilePath) : String :=
  "/" ++ "/".intercalate place

/-- What is printed for a configuration that cannot be used. A file that is not UTF-8 breaks the
command off. -/
def configReport? (place : FilePath) : ConfigError → Option String
  | .notUtf8 => none
  | .invalidToml => some s!"error: Invalid TOML in {absolutePath (place ++ [Config.fileName])}\n"
  | .invalid faults =>
      let noun := if faults.length = 1 then "error" else "errors"
      some
        (s!"error: Invalid config in {absolutePath (place ++ [Config.fileName])}: " ++
          s!"{faults.length} validation {noun} for AnnotateConfig\n")

def checkPayload (arguments : Arguments) (failures : List Failure) (report : ReportMapping)
    (changes : List Change) : Payload :=
  let recorded :=
    if arguments.changes then
      [("changes", Payload.array (changes.map fun change => Payload.ofJson change.toDict))]
    else []
  .object
    ([("diagnostics", .array (failures.map Failure.toDict)),
      ("suppressions", Payload.ofReport report)] ++ recorded)

def printPayload (exitCode : Nat) (payload : Payload) (warnings : List Warning) :
    Except CommandError Outcome :=
  (payload.dumps.mapError CommandError.dump).map fun text =>
    ⟨exitCode, text ++ "\n", "", warnings⟩

/-- The code that a check ends with: one if some directive failed, unless that is not to count. -/
def checkExitCode (arguments : Arguments) (failures : List Failure) : Nat :=
  if !failures.isEmpty && !arguments.exitZero then 1 else 0

def printCheck (arguments : Arguments) (failures : List Failure) (report : ReportMapping)
    (changes : List Change) : Except CommandError Outcome :=
  let exitCode := checkExitCode arguments failures
  match arguments.format with
  | .json =>
      printPayload exitCode (checkPayload arguments failures report changes) (warningsOf failures)
  | .text =>
      let recorded := if arguments.changes then Render.changes changes else []
      .ok
        { exitCode := exitCode
          output := unlines (Render.suppressions report ++ recorded)
          errorOutput := unlines (Render.diagnostics failures)
          warnings := warningsOf failures }

def printSymbols (arguments : Arguments) (symbols : List Symbol) : Except CommandError Outcome :=
  match arguments.format with
  | .json =>
      printPayload 0 (.array (symbols.map fun symbol => Payload.ofJson symbol.toDict)) []
  | .text => .ok ⟨0, unlines (Render.symbols symbols), "", []⟩

def report (subcommand : Subcommand) (arguments : Arguments) (run : Run) :
    Except CommandError Outcome :=
  match subcommand with
  | .symbols => printSymbols arguments run.symbols
  | .check => do
      let ofRun (error : RunError) : CommandError := .repository (.run error)
      let (failures, run) ← run.resolveVisibility.mapError ofRun
      let (mapping, run) ← run.suppressionReport.mapError ofRun
      printCheck arguments failures mapping run.changes

section

variable (parse : IgnoreParser) (schedule : Schedule) (root : FileTree)

def executeIn (place : FilePath) (subcommand : Subcommand) (arguments : Arguments) :
    Except CommandError Outcome :=
  match Config.load root place (overridesOf arguments) with
  | .error error =>
      match configReport? place error with
      | some text => .ok ⟨2, "", text, []⟩
      | none => .error (.repository (.config error))
  | .ok config => do
      let run ←
        (analyzeRepository parse schedule root place config).mapError CommandError.repository
      report subcommand arguments run

/-- Execute a subcommand at a place, which has to be a directory. -/
def executeAt (place : FilePath) (subcommand : Subcommand) (arguments : Arguments) :
    Except CommandError Outcome :=
  if root.isDirectory place then executeIn parse schedule root place subcommand arguments
  else .ok ⟨2, "", s!"error: not a directory: {absolutePath place}\n", []⟩

def execute (workingDirectory : FilePath) (arguments : List String) :
    Except CommandError Outcome :=
  match Arguments.parse arguments with
  | .error _ => .error .usage
  | .ok (subcommand, arguments) =>
      let place := (root.resolve workingDirectory arguments.directory).getD workingDirectory
      executeAt parse schedule root place subcommand arguments

end

/-- The analysis may read the contents of a file of this name. -/
def readsContents (name : String) : Bool :=
  name == Config.fileName || name == ignoreFileName || Glob.accepts "*.py" name

end Annotations.CommandLine
