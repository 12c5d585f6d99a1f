/-!
Contract: where a quoted string of Python source ends, and which of its
characters stand in comments.

A string opens with flag letters and a quote, tripled or not. A format string
holds code between braces, in which further strings and comments may stand, and
after a colon a format specification that may hold code again. The scan keeps
the stack of what is open.

Owns:

- `QuoteStyle`, read off the opening of a string;
- `scanQuoted`, which marks every character of a string as comment or not; the
  number of marks is the length of the string.

Does not own:

- the value of a string; see `Annotations.Source.StringLiteral`.
-/

namespace Annotations.Source

structure QuoteStyle where
  quote : Char
  tripled : Bool
  raw : Bool
  format : Bool
deriving DecidableEq, Repr

def isQuoteFlag (c : Char) : Bool :=
  c ∈ ['f', 'F', 't', 'T', 'r', 'R', 'b', 'B', 'u', 'U']

def isQuote (c : Char) : Bool :=
  c == '"' || c == '\'' || c == '`'

/-- The style of a string with these flags, whose first quote has `rest` after it. -/
def QuoteStyle.ofOpening (flags : List Char) (quote : Char) (rest : List Char) : QuoteStyle :=
  { quote := quote
    tripled := quote != '`' && [quote, quote].isPrefixOf rest
    raw := flags.any fun c => c == 'r' || c == 'R'
    format := flags.any fun c => c == 'f' || c == 'F' || c == 't' || c == 'T' }

/-- The number of quotes after the first one of the delimiter. -/
def QuoteStyle.furtherQuotes (style : QuoteStyle) : Nat :=
  if style.tripled then 2 else 0

/-- What is open at a place inside a string. -/
inductive QuoteFrame where
  /-- The text of a string. -/
  | body (style : QuoteStyle)
  /-- Code between braces: the brackets open in it, and the word that ends here. -/
  | code (depth : Nat) (word : List Char)
  /-- A format specification. -/
  | specification
  /-- A comment within code. -/
  | remark
deriving DecidableEq, Repr

/-- The length of a named character after its backslash: `N`, a brace, a name and a brace. -/
def namedEscapeLength : List Char → Nat
  | 'N' :: '{' :: rest =>
      let name := rest.takeWhile (· != '}')
      if name.isEmpty || name.length = rest.length then 1 else name.length + 3
  | _ => 1

/-- How many characters a backslash in a string covers. -/
def escapeLength (style : QuoteStyle) (rest : List Char) : Nat :=
  match rest with
  | [] => 0
  | next :: _ =>
      if style.raw then (if next = style.quote ∨ next = '\\' then 1 else 0)
      else if style.format then
        (if next = '{' ∨ next = '}' then 0 else namedEscapeLength rest)
      else 1

/-- The effect of a character on a string's text: the open frames after it, and how many further
characters it covers. -/
def stepBody (style : QuoteStyle) (outer : List QuoteFrame) (c : Char) (rest : List Char) :
    List QuoteFrame × Nat :=
  let here := QuoteFrame.body style :: outer
  if c = style.quote ∧ (!style.tripled ∨ [c, c].isPrefixOf rest) then (outer, style.furtherQuotes)
  else if c = '\\' then (here, escapeLength style rest)
  else if style.format ∧ c = '{' then
    if rest.head? = some '{' then (here, 1) else (.code 0 [] :: here, 0)
  else if style.format ∧ c = '}' ∧ rest.head? = some '}' then (here, 1)
  else (here, 0)

def stepCode (depth : Nat) (word : List Char) (outer : List QuoteFrame) (c : Char)
    (rest : List Char) : List QuoteFrame × Nat :=
  if isQuote c then
    let flags := if word.all isQuoteFlag then word else []
    let style := QuoteStyle.ofOpening flags c rest
    (.body style :: .code depth [] :: outer, style.furtherQuotes)
  else if c = '#' then (.remark :: .code depth [] :: outer, 0)
  else if c = '(' ∨ c = '[' ∨ c = '{' then (.code (depth + 1) [] :: outer, 0)
  else if c = ')' ∨ c = ']' then (.code (depth - 1) [] :: outer, 0)
  else if c = '}' then (if depth = 0 then (outer, 0) else (.code (depth - 1) [] :: outer, 0))
  else if c = ':' ∧ depth = 0 then (.specification :: outer, 0)
  else if c.isAlphanum || c == '_' || 0x80 ≤ c.toNat then (.code depth (word ++ [c]) :: outer, 0)
  else (.code depth [] :: outer, 0)

def stepQuoted (frames : List QuoteFrame) (c : Char) (rest : List Char) : List QuoteFrame × Nat :=
  match frames with
  | [] => ([], 0)
  | .body style :: outer => stepBody style outer c rest
  | .code depth word :: outer => stepCode depth word outer c rest
  | .specification :: outer =>
      if c = '{' then (.code 0 [] :: .specification :: outer, 0)
      else if c = '}' then (outer, 0)
      else (frames, 0)
  | .remark :: outer => if c = '\n' then (outer, 0) else (frames, 0)

/-- Mark the characters up to the end of all that is open: true in comments. The next `covered`
characters belong to what came before. -/
def scanQuoted (frames : List QuoteFrame) (covered : Nat) : List Char → List Bool
  | [] => []
  | c :: rest =>
      match covered with
      | covered + 1 => false :: scanQuoted frames covered rest
      | 0 =>
          if frames.isEmpty then []
          else
            let (frames, covered) := stepQuoted frames c rest
            (frames.head? == some .remark) :: scanQuoted frames covered rest

/-- The marks of a string: of its flags, its opening quote, and all up to its end. -/
def markQuoted (flags : List Char) (quote : Char) (rest : List Char) : List Bool :=
  let style := QuoteStyle.ofOpening flags quote rest
  (flags.map fun _ => false) ++ false :: scanQuoted [.body style] style.furtherQuotes rest

/-- The flags and the quote that a text opens with, and what follows them. -/
def quotedOpening? (text : List Char) : Option (List Char × Char × List Char) :=
  match text.dropWhile isQuoteFlag with
  | c :: rest => if isQuote c then some (text.takeWhile isQuoteFlag, c, rest) else none
  | [] => none

end Annotations.Source
