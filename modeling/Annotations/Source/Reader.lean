import Annotations.Source.Extraction
import Annotations.Source.Statement
import Annotations.Text.Utf8

/-!
Contract: source files as source units.

Owns:

- `SourceUnit.ofTree`, what a tree of a source contributes;
- `SourceUnit.read`, from the octets of a file.
-/

namespace Annotations

open Source

/-- The namespace of a module: the nonempty parts of its dotted name. -/
def Namespace.ofModule (moduleName : String) : Namespace :=
  ((moduleName.toList.splitOn '.').filter fun part => !part.isEmpty).map String.ofList

def SourceUnit.ofTree (source : List Char) (root : Node) (unitId : UnitId) (moduleName : String) :
    SourceUnit :=
  let scope := Namespace.ofModule moduleName
  let found := walk scope false root.children
  { unitId := unitId
    lineCount := countLines source
    declarations := found.declarations
    calls := found.calls
    comments := collectComments (splitLines source) root
    scope := scope }

/-- Read the octets of a source file. Octets that are not UTF-8 read as U+FFFD. -/
def SourceUnit.read (octets : List UInt8) (unitId : UnitId) (moduleName : String) : SourceUnit :=
  let source := Text.Utf8.decodeReplacing octets
  SourceUnit.ofTree source (moduleNode source) unitId moduleName

end Annotations
