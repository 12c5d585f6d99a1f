import Annotations.Config.Load
import Annotations.Run.Pool
import Annotations.Source.Reader

/-!
Contract: the analysis of a whole repository.

Owns:

- `collectUnits`, every selected source file as a unit;
- `analyzeRepository`, a run that has analysed them.

The reader of ignore files and the schedule of the workers are parameters.
-/

namespace Annotations

inductive RepositoryError where
  | config (error : ConfigError)
  | ignoreFile (error : IgnoreError)
  | run (error : RunError)
deriving DecidableEq, Repr

def RepositoryError.message : RepositoryError → String
  | .config .notUtf8 => "the configuration file is not UTF-8"
  | .config .invalidToml => "the configuration file is not TOML"
  | .config (.invalid _) => "the configuration file has settings that are not valid"
  | .ignoreFile .notUtf8 => "an ignore file is not UTF-8"
  | .ignoreFile .exhaustedPattern => "an ignore file has a pattern that ends too early"
  | .run error => error.message

def SourceFile.toUnit (file : SourceFile) : SourceUnit :=
  SourceUnit.read file.octets file.relativePath file.moduleName

/-- Every selected source file below a place as a unit. -/
def collectUnits (parse : IgnoreParser) (root : FileTree) (base : FilePath) (config : Config) :
    Except RepositoryError (List SourceUnit) := do
  let files ← (discover parse root base config.selection).mapError RepositoryError.ignoreFile
  .ok (files.map SourceFile.toUnit)

def analyzeUnits (schedule : Schedule) (options : RunOptions) (units : List SourceUnit) :
    Except RunError Run := do
  let started ← Run.start options
  match started.addUnits units with
  | (some error, _) => .error error
  | (none, added) =>
      let (_, run) ← added.analyzeUnder schedule
      .ok run

/-- A run over the repository below a place, analysed. -/
def analyzeRepository (parse : IgnoreParser) (schedule : Schedule) (root : FileTree)
    (base : FilePath) (config : Config) : Except RepositoryError Run := do
  let units ← collectUnits parse root base config
  (analyzeUnits schedule config.runOptions units).mapError RepositoryError.run

end Annotations
