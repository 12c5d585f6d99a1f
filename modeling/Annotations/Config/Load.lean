import Annotations.Config.Validation
import Annotations.Text.Utf8
import Annotations.Toml.Document

/-!
Contract: the configuration of a repository: its configuration file, if it has
one, with overrides put over it.

Owns:

- the name of the file, and `Config.load`;
- what can go wrong, and how a command reports it.
-/

namespace Annotations

inductive ConfigError where
  /-- The file is not UTF-8. -/
  | notUtf8
  /-- The file is no TOML document. -/
  | invalidToml
  /-- The settings have faults. -/
  | invalid (faults : List Fault)
deriving DecidableEq, Repr

namespace Config

def fileName : String := "annotate.toml"

def readFile (octets : List UInt8) : Except ConfigError Table :=
  match Text.Utf8.decode? octets with
  | none => .error .notUtf8
  | some text =>
      match Toml.parse? text with
      | none => .error .invalidToml
      | some table => .ok table

def validate (table : Table) : Except ConfigError Config :=
  (ofTable table).mapError fun faults => .invalid (Fault.sort faults)

/-- The settings of the configuration file in a directory; none without such a file. -/
def settingsIn (root : FileTree) (base : FilePath) : Except ConfigError Table :=
  match root.octets? (base ++ [fileName]) with
  | some octets => readFile octets
  | none => .ok []

def load (root : FileTree) (base : FilePath) (overrides : Table) : Except ConfigError Config := do
  let table ← settingsIn root base
  validate (table.override overrides)

end Config

end Annotations
