import Annotations.Symbol
import Annotations.Text.Surrogate

/-!
Contract: what the engine needs to know about one source unit.

Owns:

- the calls, arguments and comments of a unit, as a reader of source text
  reports them;
- `SourceUnit`, which holds them together with the declarations.

Does not own:

- how source text is read; see `Annotations.Source.Extraction`.
-/

namespace Annotations

inductive ArgumentKind where
  | string
  | identifier
  | attribute
  | splat
  | keyword
  | expression
deriving DecidableEq, Repr

def ArgumentKind.label : ArgumentKind → String
  | .string => "string"
  | .identifier => "identifier"
  | .attribute => "attribute"
  | .splat => "splat"
  | .keyword => "keyword"
  | .expression => "expression"

/-- A value that is known without evaluating. Escapes in a string literal can stand for surrogates;
with one of these among its code points the value is no text. -/
inductive ArgumentValue where
  | text (value : String)
  | codes (codes : List Nat) (unwritable : codes.any Text.isSurrogate = true)
deriving DecidableEq, Repr

def ArgumentValue.ofCodes (codes : List Nat) : ArgumentValue :=
  if unwritable : codes.any Text.isSurrogate = true then .codes codes unwritable
  else .text (String.ofList (codes.map Char.ofNat))

/-- One argument of a call: its source text, and its value where there is one. -/
structure Argument where
  kind : ArgumentKind
  text : String
  value : Option ArgumentValue
deriving DecidableEq, Repr

/-- A call that stands as a statement outside all function bodies. -/
structure Call where
  scope : Namespace
  callee : String
  line : Line
  arguments : List Argument
deriving DecidableEq, Repr

/-- A comment. It is trailing when code precedes it on its line. -/
structure Comment where
  line : Line
  text : String
  trailing : Bool
deriving DecidableEq, Repr

/-- Everything the engine reads of one source unit. -/
structure SourceUnit where
  unitId : UnitId
  lineCount : Int
  declarations : List Declaration
  calls : List Call
  comments : List Comment
  scope : Namespace
deriving DecidableEq, Repr

/-- Sort by line; what stands on one line keeps its order. -/
def sortByLine {Item : Type} (lineOf : Item → Line) (items : List Item) : List Item :=
  items.mergeSort fun left right => decide (lineOf left ≤ lineOf right)

end Annotations
