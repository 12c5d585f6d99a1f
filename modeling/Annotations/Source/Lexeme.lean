import Annotations.Source.Quoted
import Annotations.Text.Blank

/-!
Contract: cutting Python source into lexemes.

Every character belongs to exactly one lexeme; blanks, line breaks, line
continuations and comments are lexemes too, so the lexemes of a text concatenate
to it. A word is a name or keyword; every character beyond ASCII that is not
blank belongs to a word.

Owns:

- `Lexeme.cut`.

Does not own:

- positions and indentation; see `Annotations.Source.Token`.
-/

namespace Annotations.Source

inductive LexemeKind where
  | blank
  | lineBreak
  | continuation
  | comment
  | word
  | number
  | string
  | symbol
deriving DecidableEq, Repr

structure Lexeme where
  kind : LexemeKind
  text : List Char
deriving DecidableEq, Repr

/-- A blank within a line; some invisible characters count as blank too. -/
def isLayoutBlank (c : Char) : Bool :=
  c != '\n' && (Text.isBlank c || c == '\uFEFF' || c == '\u2060' || c == '\u200B')

def startsWord (c : Char) : Bool :=
  c.isAlpha || c == '_' || (0x80 ≤ c.toNat && !isLayoutBlank c)

def continuesWord (c : Char) : Bool :=
  startsWord c || c.isDigit

def isDigitPart (c : Char) : Bool :=
  c.isDigit || c == '_'

def isHexPart (c : Char) : Bool :=
  isDigitPart c || ('a' ≤ c && c ≤ 'f') || ('A' ≤ c && c ≤ 'F')

def runLength (test : Char → Bool) (text : List Char) : Nat :=
  (text.takeWhile test).length

def exponentLength : List Char → Nat
  | e :: rest =>
      if e = 'e' ∨ e = 'E' then
        match rest with
        | sign :: digits =>
            if (sign = '+' ∨ sign = '-') ∧ digits.head?.any Char.isDigit then
              2 + runLength isDigitPart digits
            else if sign.isDigit then 1 + runLength isDigitPart rest
            else 0
        | [] => 0
      else 0
  | [] => 0

/-- The length of the letter that ends an imaginary or long number. -/
def numberSuffixLength : List Char → Nat
  | c :: _ => if c ∈ ['j', 'J', 'l', 'L'] then 1 else 0
  | [] => 0

def fractionLength : List Char → Nat
  | '.' :: rest => 1 + runLength isDigitPart rest
  | _ => 0

def decimalLength (text : List Char) : Nat :=
  let whole := runLength isDigitPart text
  let fraction := fractionLength (text.drop whole)
  let exponent := exponentLength (text.drop (whole + fraction))
  whole + fraction + exponent + numberSuffixLength (text.drop (whole + fraction + exponent))

/-- The number of digits after a zero and a radix letter; none unless the letter names a radix. -/
def radixDigits (radix : Char) (rest : List Char) : Nat :=
  if radix = 'x' ∨ radix = 'X' then runLength isHexPart rest
  else if radix ∈ ['o', 'O', 'b', 'B'] then runLength isDigitPart rest
  else 0

/-- The length of a number, whose first character is a digit or a point before a digit. -/
def numberLength (text : List Char) : Nat :=
  match text with
  | '0' :: radix :: rest =>
      let digits := radixDigits radix rest
      if digits = 0 then decimalLength text
      else 2 + digits + numberSuffixLength (rest.drop digits)
  | _ => decimalLength text

/-- The symbols of more than one character, longer ones first. -/
def longSymbols : List (List Char) :=
  ["**=", "//=", ">>=", "<<=", "...", "->", ":=", "==", "!=", "<=", ">=", "<>", "+=", "-=", "*=",
    "/=", "%=", "@=", "&=", "|=", "^=", "**", "//", "<<", ">>"].map String.toList

def symbolLength (text : List Char) : Nat :=
  ((longSymbols.find? fun symbol => symbol.isPrefixOf text).map List.length).getD 1

/-- The kind of the lexeme that a nonempty text starts with, and its length. -/
def lexemeAt (c : Char) (rest : List Char) : LexemeKind × Nat :=
  let text := c :: rest
  if c = '\n' then (.lineBreak, 1)
  else if isLayoutBlank c then (.blank, runLength isLayoutBlank text)
  else if c = '#' then (.comment, runLength (· != '\n') text)
  else if c = '\\' ∧ rest.head? = some '\n' then (.continuation, 2)
  else if c = '\\' ∧ ['\r', '\n'].isPrefixOf rest then (.continuation, 3)
  else
    match quotedOpening? text with
    | some (flags, quote, body) => (.string, (markQuoted flags quote body).length)
    | none =>
        if startsWord c then (.word, runLength continuesWord text)
        else if c.isDigit ∨ (c = '.' ∧ rest.head?.any Char.isDigit) then
          (.number, numberLength text)
        else (.symbol, symbolLength text)

/-- Cut a text into lexemes, each of at least one character. -/
def Lexeme.cut : List Char → List Lexeme
  | [] => []
  | c :: rest =>
      let (kind, length) := lexemeAt c rest
      ⟨kind, c :: rest.take (length - 1)⟩ :: Lexeme.cut (rest.drop (length - 1))
termination_by text => text.length
decreasing_by simp only [List.length_drop, List.length_cons]; omega

end Annotations.Source
