import Annotations.Source.Token

/-!
Contract: syntax trees of Python source, as far as declarations, calls and
comments need them.

Owns:

- `Node`, its kinds, and the roles in which a node stands under its parent.

Does not own:

- how source becomes a tree, see `Annotations.Source.Statement`; what is
  collected from it, see `Annotations.Source.Extraction`.
-/

namespace Annotations.Source

inductive NodeKind where
  | module
  /-- The statements under a header. -/
  | block
  /-- A statement of any kind without one of its own; compound ones hold their block. -/
  | statement
  /-- A part of a compound statement with a header of its own. -/
  | clause
  | expressionStatement
  | classDefinition
  | functionDefinition
  | decoratedDefinition
  | decorator
  | assignment
  | patternList
  | tuplePattern
  | call
  | argumentList
  | string
  | identifier
  | attribute
  | listSplat
  | dictionarySplat
  | keywordArgument
  | comment
  /-- Any other expression. -/
  | expression
deriving DecidableEq, Repr

/-- The part that a node plays in its parent. -/
inductive Role where
  | name
  | body
  | definition
  | left
  | right
  | function
  | arguments
deriving DecidableEq, Repr

/-- A syntax tree. The text of a node is its exact source; statements, blocks and clauses, whose
text nobody asks for, have none. -/
structure Node where
  kind : NodeKind
  role : Option Role
  start : Position
  text : String
  children : List Node
deriving Repr

namespace Node

/-- The first child in a role. -/
def child? (node : Node) (role : Role) : Option Node :=
  node.children.find? fun child => child.role = some role

def withRole (node : Node) (role : Role) : Node :=
  { node with role := some role }

def line (node : Node) : Int :=
  node.start.row + 1

end Node

end Annotations.Source
