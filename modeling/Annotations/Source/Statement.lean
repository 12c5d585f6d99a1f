import Annotations.Source.Expression

/-!
Contract: statements and blocks as nodes.

Owns:

- simple statements: assignments with their targets, expression statements, and
  statements opened by a keyword;
- compound statements, clauses and definitions with their blocks;
- `moduleNode`, the tree of a whole source.
-/

namespace Annotations.Source

/-! ## Simple statements -/

def statementWords : List String :=
  ["import", "from", "return", "del", "raise", "pass", "break", "continue", "global", "nonlocal",
    "assert"]

/-- The words that continue an expression, so that the word before them is a name. -/
def operatorWords : List String :=
  ["and", "or", "in", "is", "if", "else", "for"]

/-- The group begins an operand, so that the word before it is no name. -/
def beginsOperand (group : Group) (rest : List Group) : Bool :=
  match group with
  | .bracket .. => group.isBracket "\x7b"
  | .leaf token =>
      match token.kind with
      | .string | .number => true
      | .word =>
          if token.isWord "not" then !rest.head?.any (Group.isWord · "in")
          else String.ofList token.text ∉ operatorWords
      | _ => group.isOneOf ["~", "..."]

/-- The groups make a simple statement of its own kind, and no expression statement. The words
`print`, `exec` and `type` open one only where they are no names. -/
def isKeywordStatement (first : Group) (rest : List Group) : Bool :=
  statementWords.any first.isWord ||
    match rest with
    | [] => false
    | second :: more =>
        (first.isWord "print" && (second.isSymbol ">>" || beginsOperand second more)) ||
          (first.isWord "exec" && beginsOperand second more) ||
          (first.isWord "type" && second.word?.any (· ∉ "not" :: operatorWords) &&
            more.any (Group.isSymbol · "="))

def augmentedOperators : List String :=
  ["+=", "-=", "*=", "/=", "//=", "%=", "@=", "&=", "|=", "^=", ">>=", "<<=", "**="]

/-- The node of a target within a pattern: only bare names are told apart. -/
def patternItem (first : Group) (rest : List Group) : Node :=
  nodeAt (if first.word?.isSome && rest.isEmpty then .identifier else .expression) first
    (first :: rest) []

def targetNode (first : Group) (rest : List Group) : Node :=
  let groups := first :: rest
  let parts := cutAt "," groups
  if parts.length > 1 then
    nodeAt .patternList first groups (nodesOfParts patternItem parts)
  else
    match first, rest with
    | .bracket opening items _, [] =>
        if opening.isSymbol "(" then
          nodeAt .tuplePattern first groups (nodesOfParts patternItem (cutAt "," items))
        else nodeAt .expression first groups []
    | _, _ => patternItem first rest

/-- The node of the right side of an assignment where it ends. -/
def valueNode (first : Group) (rest : List Group) : Node :=
  nodeAt .expression first (first :: rest) []

/-- The node of an assignment whose left side is known and which goes on with these parts between
equals signs. Each part but the last is the left side of a further assignment. -/
def assignmentNode (left : Node) : List (List Group) → Node
  | [] => ⟨.assignment, none, left.start, left.text, [left.withRole .left]⟩
  | [] :: rest => assignmentNode left rest
  | (first :: groups) :: rest =>
      let right :=
        if rest.isEmpty then valueNode first groups
        else assignmentNode (targetNode first groups) rest
      ⟨.assignment, none, left.start, left.text, [left.withRole .left, right.withRole .right]⟩

/-- A group at which an expression statement turns out to be some assignment. -/
def isAssignmentSign (group : Group) : Bool :=
  group.isSymbol ":" || group.isSymbol "=" || group.isOneOf augmentedOperators

/-- The children of an expression statement: an assignment, or the expressions between commas. -/
def expressionChildren (first : Group) (rest : List Group) : List Node :=
  let groups := first :: rest
  if first.isWord "yield" then [nodeAt .expression first groups []]
  else
    match cutFirst? isAssignmentSign 0 groups with
    | none => nodesOfParts expressionNode (cutAt "," groups)
    | some ([], _, _) => [nodeAt .expression first groups []]
    | some (target :: more, sign, after) =>
        let left := targetNode target more
        if sign.isSymbol "=" then [assignmentNode left (cutAt "=" after)]
        else if sign.isSymbol ":" then
          [assignmentNode left ((cutAt "=" after).drop 1)]
        else [nodeAt .expression first groups []]

def simpleStatement (first : Group) (rest : List Group) : Node :=
  if isKeywordStatement first rest then ⟨.statement, none, first.first.start, "", []⟩
  else ⟨.expressionStatement, none, first.first.start, "", expressionChildren first rest⟩

/-- The nodes of simple statements between semicolons. -/
def simpleStatements (groups : List Group) : List Node :=
  nodesOfParts simpleStatement (cutAt ";" groups)

/-! ## Compound statements -/

inductive Header where
  | simple
  | statement
  | clause
  | matching
  | classDefinition
  | functionDefinition
  | decorator
deriving DecidableEq, Repr

def compoundWords : List String := ["if", "for", "while", "try", "with"]

def clauseWords : List String := ["elif", "else", "except", "finally"]

/-- What a logical line opens. Under a `match` statement, `case` opens a clause. -/
def Header.of (inMatch : Bool) (line : LogicalLine) : Header :=
  if line.first.isSymbol "@" then .decorator
  else if line.first.isWord "def" then .functionDefinition
  else if line.first.isWord "class" then .classDefinition
  else if line.first.isWord "async" then
    if line.rest.head?.any (Group.isWord · "def") then .functionDefinition
    else if line.rest.head?.any fun group => compoundWords.any group.isWord then .statement
    else .simple
  else if compoundWords.any line.first.isWord then .statement
  else if clauseWords.any line.first.isWord then .clause
  else if inMatch && line.first.isWord "case" then .clause
  else if line.first.isWord "match" && line.opensBlock && line.rest.length > 1 then .matching
  else .simple

def afterHeader (line : LogicalLine) : List Group :=
  match cutFirst? (Group.isSymbol · ":") 0 line.groups with
  | some (_, _, after) => after
  | none => []

/-- The word after `def` or `class`, as the name of the definition. -/
def definitionName? (groups : List Group) : Option Node :=
  match groups.dropWhile fun group => !(group.isWord "def" || group.isWord "class") with
  | _ :: name :: _ => some ((nodeAt .identifier name [name] []).withRole .name)
  | _ => none

/-- A block that starts where its header does. -/
def blockNode (start : Position) (statements : List Node) : Node :=
  ⟨.block, some .body, ((statements.head?.map Node.start).getD start), "", statements⟩

def definitionNode (kind : NodeKind) (line : LogicalLine) (body : Node) : Node :=
  ⟨kind, none, line.first.first.start, "", (definitionName? line.groups).toList ++ [body]⟩

def decoratorNode (line : LogicalLine) : Node :=
  ⟨.decorator, none, line.first.first.start, "", nodesOfParts valueNode [line.rest]⟩

/-- Put the decorators read before a definition on it. -/
def decorate (decorators : List Node) (definition : Node) : Node :=
  match decorators with
  | [] => definition
  | first :: _ =>
      ⟨.decoratedDefinition, none, first.start, "",
        decorators ++ [definition.withRole .definition]⟩

mutual

/-- The nodes of a logical line and its block, and the decorators that await their definition, given
those that await it before. -/
def lineNodes (inMatch : Bool) (decorators : List Node) : Outline → List Node × List Node
  | .line line block =>
      let header := Header.of inMatch line
      let start := line.first.first.start
      let body :=
        blockNode start
          (simpleStatements (afterHeader line) ++ blockNodes (header == .matching) [] block)
      match header with
      | .simple => (simpleStatements line.groups, [])
      | .statement | .matching => ([⟨.statement, none, start, "", [body]⟩], [])
      | .clause => ([⟨.clause, none, start, "", [body]⟩], [])
      | .classDefinition => ([decorate decorators (definitionNode .classDefinition line body)], [])
      | .functionDefinition =>
          ([decorate decorators (definitionNode .functionDefinition line body)], [])
      | .decorator => ([], decorators ++ [decoratorNode line])

def blockNodes (inMatch : Bool) (decorators : List Node) : List Outline → List Node
  | [] => []
  | outline :: rest =>
      let (nodes, decorators) := lineNodes inMatch decorators outline
      nodes ++ blockNodes inMatch decorators rest

end

/-! ## Modules -/

def commentNode (comment : PlacedComment) : Node :=
  ⟨.comment, none, comment.start, String.ofList comment.text, []⟩

/-- The tree of a source: its statements, and then its comments. -/
def moduleNode (source : List Char) : Node :=
  let (tokens, comments) := Token.read source
  let outlines := Outline.ofLines (LogicalLine.ofGroups (Group.ofTokens tokens))
  ⟨.module, none, ⟨0, 0⟩, "", blockNodes false [] outlines ++ comments.map commentNode⟩

end Annotations.Source
