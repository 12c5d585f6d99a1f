import Annotations.Source.Group
import Annotations.Source.Node

/-!
Contract: expressions as nodes.

Only the shape that tells calls and arguments apart is recognised: a single
name, a single string, and an atom followed by nothing but parentheses, square
brackets and attribute names. Everything else is some other expression.

Owns:

- the node of an expression, and of each argument of a call.
-/

namespace Annotations.Source

/-- A word that is no name where an expression begins. -/
def startsOperation (word : String) : Bool :=
  word ∈ ["not", "lambda", "await", "yield", "and", "or", "in", "is", "if", "else", "for", "from"]

/-- A word that is a value and no name. -/
def isConstantWord (word : String) : Bool :=
  word ∈ ["None", "True", "False"]

def nodeAt (kind : NodeKind) (first : Group) (groups : List Group) (children : List Node) : Node :=
  ⟨kind, none, first.first.start, Group.sourceText groups, children⟩

/-- What the groups after an atom make of it. -/
inductive Trailer where
  | call (arguments : Group)
  | subscript
  | attribute
deriving Repr

/-- The last of the trailers that groups consist of, if they consist of trailers only. The result
also gives the groups before the last trailer, last first. -/
def lastTrailer? (before : List Group) (last : Option (Trailer × List Group)) :
    List Group → Option (Option (Trailer × List Group))
  | [] => some last
  | group :: rest =>
      if group.isBracket "(" then
        lastTrailer? (group :: before) (some (.call group, before)) rest
      else if group.isBracket "[" then
        lastTrailer? (group :: before) (some (.subscript, before)) rest
      else if group.isSymbol "." then
        match rest with
        | name :: rest =>
            if name.word?.isSome then
              lastTrailer? (name :: group :: before) (some (.attribute, before)) rest
            else none
        | [] => none
      else none

/-- The kind of an atom that stands alone; an operator has none. -/
def atomKind? : Group → Option NodeKind
  | .bracket .. => some .expression
  | .leaf token =>
      match token.kind with
      | .string => some .string
      | .number => some .expression
      | .word =>
          let word := String.ofList token.text
          if startsOperation word then none
          else if isConstantWord word then some .expression
          else some .identifier
      | _ => if token.isSymbol "..." then some .expression else none

/-- The atom that an expression begins with, and what follows it. Adjacent strings are one atom. -/
def takeAtom? : List Group → Option (NodeKind × List Group × List Group)
  | [] => none
  | group :: rest =>
      (atomKind? group).map fun kind =>
        if kind = .string then
          let isString (other : Group) : Bool := atomKind? other = some .string
          let further := rest.takeWhile isString
          (if further.isEmpty then .string else .expression, group :: further,
            rest.dropWhile isString)
        else (kind, [group], rest)

/-- What an expression is, and for a call the groups of its function, and its arguments. -/
inductive ExpressionShape where
  | plain (kind : NodeKind)
  | call (function : List Group) (arguments : Group)
deriving Repr

def ExpressionShape.of (groups : List Group) : ExpressionShape :=
  match takeAtom? groups with
  | none => .plain .expression
  | some (kind, atom, rest) =>
      match lastTrailer? atom.reverse none rest with
      | none => .plain .expression
      | some none => .plain kind
      | some (some (.call arguments, before)) => .call before.reverse arguments
      | some (some (.subscript, _)) => .plain .expression
      | some (some (.attribute, _)) => .plain .attribute

def argumentNode (first : Group) (rest : List Group) : Node :=
  let groups := first :: rest
  let kind : NodeKind :=
    if first.isSymbol "*" then .listSplat
    else if first.isSymbol "**" then .dictionarySplat
    else if first.word?.isSome && rest.head?.any (Group.isSymbol · "=") then .keywordArgument
    else
      match ExpressionShape.of groups with
      | .plain kind => kind
      | .call .. => .call
  nodeAt kind first groups []

def nodesOfParts (toNode : Group → List Group → Node) (parts : List (List Group)) : List Node :=
  parts.filterMap fun part =>
    match part with
    | [] => none
    | first :: rest => some (toNode first rest)

/-- The node of the bracket of a call: its arguments, or a single generator. -/
def argumentsNode (bracket : Group) : Node :=
  match bracket with
  | .bracket _ items _ =>
      if items.any (Group.isWord · "for") then nodeAt .expression bracket [bracket] []
      else
        nodeAt .argumentList bracket [bracket] (nodesOfParts argumentNode (cutAt "," items))
  | .leaf _ => nodeAt .expression bracket [bracket] []

/-- The node of an expression. A call holds its function and its arguments. -/
def expressionNode (first : Group) (rest : List Group) : Node :=
  let groups := first :: rest
  match ExpressionShape.of groups with
  | .plain kind => nodeAt kind first groups []
  | .call function arguments =>
      nodeAt .call first groups
        [(nodeAt .expression first function []).withRole .function,
          (argumentsNode arguments).withRole .arguments]

end Annotations.Source
