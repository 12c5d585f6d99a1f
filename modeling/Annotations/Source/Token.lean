import Annotations.Source.Lexeme

/-!
Contract: lexemes with their places in the source.

Blanks, line breaks and continuations separate tokens and are kept only as the
gap before the next one. The first token of a logical line carries its margin,
the width of the indentation before it; no token inside brackets has one. A
space widens the margin by one and a tab by eight, and a carriage return or form
feed starts it anew. Lines with nothing but blanks and comments do not count.

Owns:

- `Position`, `Token`, and `Token.read`, which gives tokens and comments apart;
- the exact source text of consecutive tokens.
-/

namespace Annotations.Source

/-- A place in the source: the line breaks before it, and the characters before it on its line. -/
structure Position where
  row : Nat
  column : Nat
deriving DecidableEq, Repr

/-- The place after a text that starts at a place. -/
def Position.after (position : Position) (text : List Char) : Position :=
  text.foldl
    (fun position c =>
      if c = '\n' then ⟨position.row + 1, 0⟩ else ⟨position.row, position.column + 1⟩)
    position

/-- A lexeme that is part of a statement. -/
structure Token where
  kind : LexemeKind
  text : List Char
  start : Position
  /-- The width of the indentation, where the token is the first of a logical line. -/
  margin : Option Nat
  /-- The separating text since the last token. -/
  gap : List Char
deriving DecidableEq, Repr

structure PlacedComment where
  text : List Char
  start : Position
deriving DecidableEq, Repr

/-- The indentation read so far on a line. -/
inductive Indentation where
  /-- Only blanks stand before. -/
  | open (width : Nat)
  /-- Nothing that follows widens it. -/
  | fixed (width : Nat)
  /-- A token of the logical line stands before. -/
  | passed
deriving DecidableEq, Repr

namespace Indentation

def afterBlank (indentation : Indentation) (c : Char) : Indentation :=
  match indentation with
  | .open width =>
      if c = ' ' then .open (width + 1)
      else if c = '\t' then .open (width + 8)
      else if c = '\r' ∨ c = '\x0c' then .open 0
      else .fixed width
  | other => other

def margin? : Indentation → Option Nat
  | .open width => some width
  | .fixed width => some width
  | .passed => none

end Indentation

/-- The reader between two lexemes. -/
structure TokenReader where
  position : Position
  indentation : Indentation
  depth : Nat
  gap : List Char
  tokens : List Token
  comments : List PlacedComment

namespace TokenReader

def start : TokenReader := ⟨⟨0, 0⟩, .open 0, 0, [], [], []⟩

def depthAfter (depth : Nat) (lexeme : Lexeme) : Nat :=
  if lexeme.kind ≠ .symbol then depth
  else
    match lexeme.text with
    | ['('] | ['['] | ['{'] => depth + 1
    | [')'] | [']'] | ['}'] => depth - 1
    | _ => depth

/-- The comments within a string: the marked characters, run by run. -/
def remarks (position : Position) :
    List Char → List Bool → Option PlacedComment → List PlacedComment
  | c :: rest, mark :: marks, current =>
      let next := position.after [c]
      match mark, current with
      | true, some remark =>
          remarks next rest marks (some { remark with text := remark.text ++ [c] })
      | true, none => remarks next rest marks (some ⟨[c], position⟩)
      | false, some remark => remark :: remarks next rest marks none
      | false, none => remarks next rest marks none
  | _, _, current => current.toList

/-- The comments within a lexeme: itself, or those in the code of a format string. -/
def commentsIn (position : Position) (lexeme : Lexeme) : List PlacedComment :=
  match lexeme.kind with
  | .comment => [⟨lexeme.text, position⟩]
  | .string =>
      match quotedOpening? lexeme.text with
      | some (flags, quote, rest) => remarks position lexeme.text (markQuoted flags quote rest) none
      | none => []
  | _ => []

def step (reader : TokenReader) (lexeme : Lexeme) : TokenReader :=
  let position := reader.position.after lexeme.text
  let gap := reader.gap ++ lexeme.text
  let comments := (commentsIn reader.position lexeme).reverse ++ reader.comments
  match lexeme.kind with
  | .blank =>
      { reader with
        position := position
        gap := gap
        indentation := lexeme.text.foldl Indentation.afterBlank reader.indentation }
  | .lineBreak =>
      { reader with
        position := position
        gap := gap
        indentation := if reader.depth = 0 then .open 0 else reader.indentation }
  | .continuation => { reader with position := position, gap := gap }
  | .comment => { reader with position := position, gap := gap, comments := comments }
  | kind =>
      let token : Token :=
        ⟨kind, lexeme.text, reader.position, reader.indentation.margin?, reader.gap⟩
      { position := position
        indentation := .passed
        depth := depthAfter reader.depth lexeme
        gap := []
        tokens := token :: reader.tokens
        comments := comments }

end TokenReader

def Token.read (source : List Char) : List Token × List PlacedComment :=
  let reader := (Lexeme.cut source).foldl TokenReader.step TokenReader.start
  (reader.tokens.reverse, reader.comments.reverse)

def Token.sourceText : List Token → List Char
  | [] => []
  | first :: rest => first.text ++ rest.flatMap fun token => token.gap ++ token.text

namespace Token

def isSymbol (token : Token) (symbol : String) : Bool :=
  token.kind == .symbol && token.text == symbol.toList

def isWord (token : Token) (word : String) : Bool :=
  token.kind == .word && token.text == word.toList

end Token

end Annotations.Source
