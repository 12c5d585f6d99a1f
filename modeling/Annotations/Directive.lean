import Annotations.SourceUnit

/-!
Contract: which calls are visibility directives, and what their arguments name.

A directive is a call whose callee is exactly one of the catalog's names. The
lists of the catalog are asked in the order constants, class methods, methods,
so a name in two lists has the shape of the first.

Owns:

- `Catalog` and the shapes it gives to calls;
- the target name of an argument;
- the causes for which an argument is not applied, and their wording.

Does not own:

- whether a target is declared; see `Annotations.Resolver`.
-/

namespace Annotations

/-- The call names recognised as directives, by what they make private. -/
structure Catalog where
  constant : List String
  method : List String
  classMethod : List String
deriving DecidableEq, Repr

/-- The names recognised when nothing is configured. -/
def Catalog.standard : Catalog :=
  { constant := ["private_constant"]
    method := ["private"]
    classMethod := ["private_class_method"] }

inductive DirectiveKind where
  | markConstantPrivate
  | markMethodPrivate
deriving DecidableEq, Repr

def DirectiveKind.label : DirectiveKind → String
  | .markConstantPrivate => "mark_constant_private"
  | .markMethodPrivate => "mark_method_private"

/-- A recognised directive: what it does, to which kind of symbol, and under which call name. -/
structure Shape where
  kind : DirectiveKind
  targetKind : Kind
  name : String
deriving DecidableEq, Repr

/-- Only directives on constants accept a bare name beside a string literal. -/
def Shape.acceptsReferences (shape : Shape) : Bool :=
  shape.kind = .markConstantPrivate

def Catalog.classify? (catalog : Catalog) (callee : String) : Option Shape :=
  if callee ∈ catalog.constant then some ⟨.markConstantPrivate, .constant, callee⟩
  else if callee ∈ catalog.classMethod then some ⟨.markMethodPrivate, .classMethod, callee⟩
  else if callee ∈ catalog.method then some ⟨.markMethodPrivate, .instanceMethod, callee⟩
  else none

def Argument.text? (argument : Argument) : Option String :=
  match argument.value with
  | some (.text value) => some value
  | _ => none

/-- The name that an argument refers to: the value of a nonempty string literal, or a constant's
name where the directive accepts references. -/
def Shape.targetName? (shape : Shape) (argument : Argument) : Option String :=
  match argument.kind with
  | .string => argument.text?.filter fun value => value != ""
  | .identifier =>
      if shape.acceptsReferences then argument.text?.filter isConstantName else none
  | _ => none

def Shape.target? (shape : Shape) (scope : Namespace) (argument : Argument) : Option Path :=
  (shape.targetName? argument).map fun name => ⟨scope, name, shape.targetKind⟩

inductive DirectiveError where
  /-- The argument names nothing without being evaluated. -/
  | invalidArgument (directive : String) (argument : Argument) (acceptsReferences : Bool)
  /-- No symbol of this path is declared before the directive. -/
  | unresolvedSymbol (directive : String) (path : Path)
  /-- The name holds a surrogate, so no symbol has it. -/
  | unresolvedCodes (directive : String) (scope : Namespace) (codes : List Nat) (kind : Kind)
deriving DecidableEq, Repr

/-- The error of an argument that targets no path. -/
def Shape.untargeted (shape : Shape) (scope : Namespace) (argument : Argument) : DirectiveError :=
  match argument.kind, argument.value with
  | .string, some (.codes codes _) => .unresolvedCodes shape.name scope codes shape.targetKind
  | _, _ => .invalidArgument shape.name argument shape.acceptsReferences

namespace DirectiveError

def label : DirectiveError → String
  | invalidArgument .. => "InvalidDirectiveArgument"
  | unresolvedSymbol .. | unresolvedCodes .. => "UnresolvedSymbol"

def expectation (acceptsReferences : Bool) : String :=
  if acceptsReferences then "a string literal or a constant reference" else "a string literal"

/-- The wording of an error, with surrogates escaped. -/
def message : DirectiveError → String
  | invalidArgument directive argument acceptsReferences =>
      s!"{directive}: argument `{argument.text}` must be {expectation acceptsReferences}"
  | unresolvedSymbol directive path =>
      s!"{directive}: undefined {path.kind.label} `{path.qualifiedName}`"
  | unresolvedCodes directive scope codes kind =>
      let path : Path := ⟨scope, Text.writeCodes codes, kind⟩
      s!"{directive}: undefined {kind.label} `{path.qualifiedName}`"

/-- Nothing in the wording had to be escaped. -/
def isText : DirectiveError → Bool
  | unresolvedCodes .. => false
  | _ => true

end DirectiveError

/-- The failures of one directive: the call site, and an error for each argument not applied. -/
structure Failure where
  directive : String
  scope : Namespace
  unitId : UnitId
  line : Line
  errors : List DirectiveError
deriving DecidableEq, Repr

namespace Failure

def countText (failure : Failure) : String :=
  let noun := if failure.errors.length = 1 then "error" else "errors"
  s!"{failure.errors.length} {noun}"

/-- The wording of a failure: the call site, the number of errors, and each error. -/
def message (failure : Failure) : String :=
  let details := "; ".intercalate (failure.errors.map DirectiveError.message)
  s!"Failed to apply {failure.directive} in {failure.scope.format} ({failure.countText}): {details}"

def isText (failure : Failure) : Bool :=
  failure.errors.all DirectiveError.isText

def location (failure : Failure) : String :=
  s!"{failure.unitId}:{failure.line}"

end Failure

end Annotations
