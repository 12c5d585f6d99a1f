/-!
Contract: what is declared in source units, and how it is named.

A symbol is identified by its path: the chain of names that encloses it, its own
name and its kind. Paths are ordered by their chain, then by name, then by the
label of the kind, all by code point.

Owns:

- `Kind`, `Visibility`, `Path`, `Declaration`, `Symbol` and their labels;
- the order of paths and their textual identities;
- the shape of constant names.

Does not own:

- which symbols are registered; see `Annotations.Registry`.
-/

namespace Annotations

/-- The names that enclose a symbol, outermost first. -/
abbrev Namespace := List String

/-- The identifier of a source unit, usually its relative path. -/
abbrev UnitId := String

/-- A line number. Lines are counted from one; other integers occur in data from elsewhere. -/
abbrev Line := Int

/-- The dotted text of a namespace; the empty one is `<root>`. -/
def Namespace.format (scope : Namespace) : String :=
  if scope.isEmpty then "<root>" else ".".intercalate scope

inductive Kind where
  | constant
  | instanceMethod
  | classMethod
deriving DecidableEq, Repr

def Kind.label : Kind → String
  | .constant => "constant"
  | .instanceMethod => "instance_method"
  | .classMethod => "class_method"

inductive Visibility where
  | isPublic
  | isPrivate
  | isProtected
deriving DecidableEq, Repr

def Visibility.label : Visibility → String
  | .isPublic => "public"
  | .isPrivate => "private"
  | .isProtected => "protected"

/-- The full identity of a symbol. -/
structure Path where
  scope : Namespace
  name : String
  kind : Kind
deriving DecidableEq, Repr

namespace Path

/-- Paths are compared by namespace, then name, then the label of the kind. -/
instance : Ord Path where
  compare left right :=
    (compare left.scope right.scope).then
      ((compare left.name right.name).then (compare left.kind.label right.kind.label))

def qualifiedName (path : Path) : String :=
  ".".intercalate (path.scope ++ [path.name])

def key (path : Path) : String :=
  "symkey:" ++ path.qualifiedName ++ "::" ++ path.kind.label

def describe (path : Path) : String :=
  path.qualifiedName ++ " (" ++ path.kind.label ++ ")"

def sort (paths : List Path) : List Path :=
  paths.mergeSort fun left right => (compare left right).isLE

end Path

structure Declaration where
  scope : Namespace
  name : String
  kind : Kind
  line : Line
deriving DecidableEq, Repr

def Declaration.path (declaration : Declaration) : Path :=
  ⟨declaration.scope, declaration.name, declaration.kind⟩

/-- A registered symbol: where it was first declared, and its present visibility. -/
structure Symbol where
  path : Path
  visibility : Visibility
  unitId : UnitId
  line : Line
deriving DecidableEq, Repr

/-- A capital ASCII letter, then ASCII letters, digits and underscores; one line feed may follow. -/
def isConstantName (name : String) : Bool :=
  match name.toList with
  | [] => false
  | first :: rest =>
      let tail := if rest.getLast? = some '\n' then rest.dropLast else rest
      first.isUpper && tail.all fun c => c.isAlphanum || c == '_'

end Annotations
