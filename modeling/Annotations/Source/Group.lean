import Annotations.Source.Token

/-!
Contract: tokens grouped by brackets, and what is found between them.

Owns:

- `Group`, a token or a bracketed sequence of groups;
- logical lines;
- the places of a line at which a statement is cut. The parameters and the colon
  of a `lambda` belong to the lambda, so nothing is cut there.
-/

namespace Annotations.Source

/-- A token, or a bracket with what it encloses. -/
inductive Group where
  | leaf (token : Token)
  | bracket (opening : Token) (items : List Group) (closing : Option Token)
deriving Repr

namespace Group

/-- A bracket opened and not closed yet, with what stands before it, last first. -/
abbrev OpenBracket := Token × List Group

def closeAll (items : List Group) : List OpenBracket → List Group
  | [] => items.reverse
  | (opening, outer) :: rest => closeAll (.bracket opening items.reverse none :: outer) rest

/-- Group tokens, given the open brackets and what stands before, last first. -/
def build (brackets : List OpenBracket) (items : List Group) : List Token → List Group
  | [] => closeAll items brackets
  | token :: rest =>
      if token.isSymbol "(" || token.isSymbol "[" || token.isSymbol "\x7b" then
        build ((token, items) :: brackets) [] rest
      else if token.isSymbol ")" || token.isSymbol "]" || token.isSymbol "\x7d" then
        match brackets with
        | (opening, outer) :: brackets =>
            build brackets (.bracket opening items.reverse (some token) :: outer) rest
        | [] => build [] (.leaf token :: items) rest
      else build brackets (.leaf token :: items) rest

def ofTokens (tokens : List Token) : List Group :=
  build [] [] tokens

def first : Group → Token
  | leaf token => token
  | bracket opening _ _ => opening

mutual

def tokens : Group → List Token
  | leaf token => [token]
  | bracket opening items closing => opening :: (tokensOfAll items ++ closing.toList)

def tokensOfAll : List Group → List Token
  | [] => []
  | group :: rest => tokens group ++ tokensOfAll rest

end

def sourceText (groups : List Group) : String :=
  String.ofList (Token.sourceText (tokensOfAll groups))

def isSymbol (group : Group) (symbol : String) : Bool :=
  match group with
  | leaf token => token.isSymbol symbol
  | bracket .. => false

def isOneOf (group : Group) (symbols : List String) : Bool :=
  symbols.any group.isSymbol

def isWord (group : Group) (word : String) : Bool :=
  match group with
  | leaf token => token.isWord word
  | bracket .. => false

def word? : Group → Option String
  | leaf token => if token.kind = .word then some (String.ofList token.text) else none
  | bracket .. => none

def isBracket (group : Group) (opening : String) : Bool :=
  match group with
  | leaf _ => false
  | bracket token _ _ => token.isSymbol opening

end Group

/-! ## Cutting -/

/-- The lambdas still without their colon after a group. -/
def lambdasAfter (lambdas : Nat) (group : Group) : Nat :=
  if group.isWord "lambda" then lambdas + 1
  else if group.isSymbol ":" then lambdas - 1
  else lambdas

/-- What stands before the first separator, the separator, and what follows it. -/
def cutFirst? (separates : Group → Bool) (lambdas : Nat) :
    List Group → Option (List Group × Group × List Group)
  | [] => none
  | group :: rest =>
      if lambdas = 0 && separates group then some ([], group, rest)
      else
        (cutFirst? separates (lambdasAfter lambdas group) rest).map fun (before, found, after) =>
          (group :: before, found, after)

/-- The parts between separators; their number is one more than that of the separators. -/
def cutAll (separates : Group → Bool) (lambdas : Nat) : List Group → List Group → List (List Group)
  | current, [] => [current.reverse]
  | current, group :: rest =>
      if lambdas = 0 && separates group then current.reverse :: cutAll separates 0 [] rest
      else cutAll separates (lambdasAfter lambdas group) (group :: current) rest

def cutAt (symbol : String) (groups : List Group) : List (List Group) :=
  cutAll (Group.isSymbol · symbol) 0 [] groups

/-! ## Logical lines -/

/-- A logical line: its margin, and its first group with what follows it. -/
structure LogicalLine where
  margin : Nat
  first : Group
  rest : List Group
deriving Repr

def LogicalLine.groups (line : LogicalLine) : List Group :=
  line.first :: line.rest

/-- The line ends with a colon, so that a block is to follow on the next lines. -/
def LogicalLine.opensBlock (line : LogicalLine) : Bool :=
  line.groups.getLast?.any (Group.isSymbol · ":")

/-- The logical lines of a source: each begins at a group with a margin. -/
def LogicalLine.ofGroups : List Group → List LogicalLine
  | [] => []
  | group :: rest =>
      match LogicalLine.ofGroups rest with
      | [] => [⟨group.first.margin.getD 0, group, []⟩]
      | line :: lines =>
          if line.first.first.margin.isSome then
            ⟨group.first.margin.getD 0, group, []⟩ :: line :: lines
          else ⟨group.first.margin.getD 0, group, line.groups⟩ :: lines

/-! ## Blocks -/

/-- A logical line, and the block of lines that its colon opens. -/
inductive Outline where
  | line (line : LogicalLine) (block : List Outline)
deriving Repr

/-- A block that is being read: the line that opened it, the level of the block around it, and the
lines read there before, last first. -/
structure OpenOutline where
  header : LogicalLine
  level : Nat
  before : List Outline

/-- A reader of blocks: the open blocks, innermost first, the level of the innermost one and its
lines, last first, and a line whose block is to follow. -/
structure OutlineReader where
  enclosing : List OpenOutline
  level : Nat
  lines : List Outline
  waiting : Option LogicalLine

namespace OutlineReader

def start : OutlineReader := ⟨[], 0, [], none⟩

/-- Open the block of the waiting line at a margin beyond the present level, or leave it empty. -/
def openWaiting (reader : OutlineReader) (margin : Nat) : OutlineReader :=
  match reader.waiting with
  | none => reader
  | some header =>
      if reader.level < margin then
        ⟨⟨header, reader.level, reader.lines⟩ :: reader.enclosing, margin, [], none⟩
      else { reader with lines := .line header [] :: reader.lines, waiting := none }

/-- Close the blocks that a margin ends. -/
def closeBeyond (margin level : Nat) (lines : List Outline) :
    List OpenOutline → List OpenOutline × Nat × List Outline
  | [] => ([], level, lines)
  | block :: enclosing =>
      if margin < level then
        closeBeyond margin block.level (.line block.header lines.reverse :: block.before) enclosing
      else (block :: enclosing, level, lines)

def step (reader : OutlineReader) (line : LogicalLine) : OutlineReader :=
  let opened := reader.openWaiting line.margin
  let (enclosing, level, lines) :=
    closeBeyond line.margin opened.level opened.lines opened.enclosing
  if line.opensBlock then ⟨enclosing, level, lines, some line⟩
  else ⟨enclosing, level, .line line [] :: lines, none⟩

def finish (lines : List Outline) : List OpenOutline → List Outline
  | [] => lines.reverse
  | block :: enclosing => finish (.line block.header lines.reverse :: block.before) enclosing

end OutlineReader

def Outline.ofLines (lines : List LogicalLine) : List Outline :=
  let reader := (lines.foldl OutlineReader.step OutlineReader.start).openWaiting 0
  OutlineReader.finish reader.lines reader.enclosing

end Annotations.Source
