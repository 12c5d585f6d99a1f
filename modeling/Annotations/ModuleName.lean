/-!
Contract: the dotted module name of a source file.

Owns:

- `moduleName`, by relative path.
-/

namespace Annotations

def dropSuffix (name : List Char) : List Char :=
  if '.' ∈ name then ((name.reverse.dropWhile (· != '.')).drop 1).reverse else name

/-- The parts of a module name, from the nonempty parts of a path. A leading `src` directory does
not count, and `__init__` names the package around it. -/
def modulePartsOf (parts : List (List Char)) : List (List Char) :=
  let counted := if 2 ≤ parts.length ∧ parts.head? = some "src".toList then parts.drop 1 else parts
  match counted.getLast? with
  | none => []
  | some last =>
      let name := dropSuffix last
      if name = "__init__".toList then counted.dropLast else counted.dropLast ++ [name]

/-- The module name of a path whose parts are separated by slashes or backslashes. -/
def moduleName (path : String) : String :=
  let parts := (path.toList.map fun c => if c = '\\' then '/' else c).splitOn '/'
  ".".intercalate ((modulePartsOf (parts.filter fun part => !part.isEmpty)).map String.ofList)

end Annotations
