import Annotations.Source.Quoted
import Annotations.SourceUnit
import Annotations.Text.CharacterName

/-!
Contract: the value of a string literal.

Plain, raw and unicode strings have a value, and byte strings, format strings
and combinations of other flags have none; nor has a string with a null
character, or with a line break that its quotes do not allow. Every line break
counts as a line feed.

Owns:

- `StringLiteral.value?`.
-/

namespace Annotations.Source.StringLiteral

/-- Read every line break as a line feed: carriage return and line feed, or a carriage return. -/
def joinLineBreaks : List Char → List Char
  | '\r' :: '\n' :: rest => '\n' :: joinLineBreaks rest
  | '\r' :: rest => '\n' :: joinLineBreaks rest
  | c :: rest => c :: joinLineBreaks rest
  | [] => []

/-- A line ends without a backslash before its end. -/
def hasBareBreak : List Char → Bool
  | '\\' :: _ :: rest => hasBareBreak rest
  | c :: rest => c == '\n' || hasBareBreak rest
  | [] => false

def hexValue? (c : Char) : Option Nat :=
  if c.isDigit then some (c.toNat - '0'.toNat)
  else if 'a' ≤ c && c ≤ 'f' then some (c.toNat - 'a'.toNat + 10)
  else if 'A' ≤ c && c ≤ 'F' then some (c.toNat - 'A'.toNat + 10)
  else none

/-- The code point of exactly `count` hexadecimal digits. It may be a surrogate. -/
def hexEscape? (count : Nat) (text : List Char) : Option Nat :=
  let digits := text.take count
  if digits.length < count then none
  else
    match digits.mapM hexValue? with
    | none => none
    | some values =>
        let code := values.foldl (fun code value => 16 * code + value) 0
        if code < 0x110000 then some code else none

def simpleEscape? (c : Char) : Option Char :=
  match c with
  | '\\' => some '\\'
  | '\'' => some '\''
  | '"' => some '"'
  | 'a' => some '\x07'
  | 'b' => some '\x08'
  | 'f' => some '\x0c'
  | 'n' => some '\n'
  | 'r' => some '\r'
  | 't' => some '\t'
  | 'v' => some '\x0b'
  | _ => none

def isOctal (c : Char) : Bool :=
  '0' ≤ c && c ≤ '7'

/-- The code point of up to three octal digits, and their number. -/
def octalEscape (text : List Char) : Nat × Nat :=
  let digits := (text.take 3).takeWhile isOctal
  (digits.foldl (fun code c => 8 * code + (c.toNat - '0'.toNat)) 0, digits.length)

/-- The number of hexadecimal digits that a letter after a backslash calls for. -/
def hexLength? (c : Char) : Option Nat :=
  if c = 'x' then some 2 else if c = 'u' then some 4 else if c = 'U' then some 8 else none

/-- The character that a name in braces stands for, and how many characters the braces cover. -/
def namedEscape? (text : List Char) : Option (Char × Nat) :=
  match text with
  | '\x7b' :: rest =>
      let name := rest.takeWhile (· != '\x7d')
      if name.length < rest.length then
        (Text.characterNamed? name).map fun c => (c, name.length + 2)
      else none
  | _ => none

/-- What an escape stands for, and how many characters after the backslash it covers. An unknown
letter keeps its backslash. -/
def escape? (next : Char) (rest : List Char) : Option (List Nat × Nat) :=
  if next = '\n' then some ([], 1)
  else if next = 'N' then (namedEscape? rest).map fun (c, covered) => ([c.toNat], covered + 1)
  else
    match simpleEscape? next, hexLength? next with
    | some c, _ => some ([c.toNat], 1)
    | none, some count => (hexEscape? count rest).map fun code => ([code], count + 1)
    | none, none =>
        if isOctal next then
          let (code, count) := octalEscape (next :: rest)
          some ([code], count)
        else some (['\\'.toNat, next.toNat], 1)

def unescape? : List Char → Option (List Nat)
  | [] => some []
  | '\\' :: next :: rest =>
      match escape? next rest with
      | none => none
      | some (value, covered) => (unescape? (rest.drop (covered - 1))).map (value ++ ·)
  | c :: rest => (unescape? rest).map (c.toNat :: ·)
termination_by text => text.length
decreasing_by
  · simp only [List.length_drop, List.length_cons]; omega
  · simp only [List.length_cons]; omega

def content (style : QuoteStyle) (rest : List Char) : List Char :=
  let quotes := style.furtherQuotes
  (rest.drop quotes).take (rest.length - quotes - (quotes + 1))

def value? (literal : String) : Option ArgumentValue :=
  match quotedOpening? literal.toList with
  | some (flags, quote, rest) =>
      let style := QuoteStyle.ofOpening flags quote rest
      let text := joinLineBreaks (content style rest)
      if quote = '`' ∨ flags ∉ [[], ['r'], ['R'], ['u'], ['U']] then none
      else if text.contains '\x00' || !style.tripled && hasBareBreak text then none
      else if style.raw then some (.text (String.ofList text))
      else (unescape? text).map ArgumentValue.ofCodes
  | none => none

end Annotations.Source.StringLiteral
