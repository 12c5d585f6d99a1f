import Annotations.Setting

/-!
Contract: the values of TOML 1.0 that hold no others.

Each reader takes the text at which a value starts and gives the value and the
text after it, or nothing if no such value starts there.

Owns:

- strings of all four forms;
- booleans, numbers, dates and times.
-/

namespace Annotations.Toml

/-- A reader of something at the start of a text. -/
abbrev Reader (Result : Type) := List Char → Option (Result × List Char)

def isBlank (c : Char) : Bool :=
  c == ' ' || c == '\t'

def isBlankOrBreak (c : Char) : Bool :=
  isBlank c || c == '\n'

def isControl (c : Char) : Bool :=
  (c.toNat < 0x20 && c != '\t') || c.toNat == 0x7F

/-! ## Strings -/

def hexValue? (c : Char) : Option Nat :=
  if c.isDigit then some (c.toNat - '0'.toNat)
  else if 'a' ≤ c && c ≤ 'f' then some (c.toNat - 'a'.toNat + 10)
  else if 'A' ≤ c && c ≤ 'F' then some (c.toNat - 'A'.toNat + 10)
  else none

def numberOf (radix : Nat) (digits : List Char) : Nat :=
  digits.foldl (fun value c => radix * value + (hexValue? c).getD 0) 0

/-- The character of exactly `count` hexadecimal digits; it is no surrogate. -/
def hexCharacter? (count : Nat) (text : List Char) : Option Char :=
  let digits := text.take count
  if digits.length = count ∧ digits.all (fun c => (hexValue? c).isSome) then
    let code := numberOf 16 digits
    if code.isValidChar then some (Char.ofNat code) else none
  else none

/-- How many characters a line continuation covers after its backslash: blanks, a line feed, and all
blanks and line feeds that follow. -/
def continuationLength? (text : List Char) : Option Nat :=
  let blanks := (text.takeWhile isBlank).length
  match text.drop blanks with
  | [] => some blanks
  | '\n' :: rest => some (blanks + 1 + (rest.takeWhile isBlankOrBreak).length)
  | _ => none

/-- What the text after a backslash stands for, and how much of it. -/
def escape? (multiline : Bool) (text : List Char) : Option (List Char × Nat) :=
  match text with
  | [] => none
  | c :: rest =>
      if multiline && isBlankOrBreak c then (continuationLength? text).map fun count => ([], count)
      else
        match c with
        | 'u' => (hexCharacter? 4 rest).map fun value => ([value], 5)
        | 'U' => (hexCharacter? 8 rest).map fun value => ([value], 9)
        | 'b' => some (['\x08'], 1)
        | 't' => some (['\t'], 1)
        | 'n' => some (['\n'], 1)
        | 'f' => some (['\x0c'], 1)
        | 'r' => some (['\r'], 1)
        | '"' => some (['"'], 1)
        | '\\' => some (['\\'], 1)
        | _ => none

def prepend (characters : List Char) (found : Option (List Char × List Char)) :
    Option (List Char × List Char) :=
  found.map fun (value, rest) => (characters ++ value, rest)

/-- A string with escapes, after its opening quotes. -/
def basicString? (multiline : Bool) : Reader (List Char)
  | [] => none
  | c :: rest =>
      if c = '"' then
        if !multiline then some ([], rest)
        else if ['"', '"'].isPrefixOf rest then some ([], rest.drop 2)
        else prepend ['"'] (basicString? multiline rest)
      else if c = '\\' then
        match escape? multiline rest with
        | some (value, count) => prepend value (basicString? multiline (rest.drop count))
        | none => none
      else if isControl c && !(multiline && c == '\n') then none
      else prepend [c] (basicString? multiline rest)
termination_by text => text.length
decreasing_by
  all_goals simp only [List.length_drop, List.length_cons]; omega

/-- A string without escapes, after its opening quotes. -/
def literalString? (multiline : Bool) : Reader (List Char)
  | [] => none
  | c :: rest =>
      if c = '\'' ∧ (!multiline ∨ ['\'', '\''].isPrefixOf rest) then
        some ([], if multiline then rest.drop 2 else rest)
      else if isControl c && !(multiline && c == '\n') then none
      else prepend [c] (literalString? multiline rest)

/-- Up to two quotes right after the end of a string of several lines belong to it. -/
def withFurtherQuotes (quote : Char) (found : List Char × List Char) : List Char × List Char :=
  let further := ((found.2.take 2).takeWhile (· == quote)).length
  (found.1 ++ List.replicate further quote, found.2.drop further)

/-- Drop a line feed right after the opening quotes. -/
def dropFirstBreak : List Char → List Char
  | '\n' :: rest => rest
  | text => text

def string? : Reader String := fun text =>
  let found :=
    match text with
    | '"' :: '"' :: '"' :: rest =>
        (basicString? true (dropFirstBreak rest)).map (withFurtherQuotes '"')
    | '\'' :: '\'' :: '\'' :: rest =>
        (literalString? true (dropFirstBreak rest)).map (withFurtherQuotes '\'')
    | '"' :: rest => basicString? false rest
    | '\'' :: rest => literalString? false rest
    | _ => none
  found.map fun (value, rest) => (String.ofList value, rest)

/-! ## Numbers -/

/-- Digits after the first one, each after at most one underscore, and what follows. -/
def moreDigits (isDigit : Char → Bool) : List Char → List Char × List Char
  | '_' :: c :: rest =>
      if isDigit c then
        let (digits, after) := moreDigits isDigit rest
        (c :: digits, after)
      else ([], '_' :: c :: rest)
  | c :: rest =>
      if isDigit c then
        let (digits, after) := moreDigits isDigit rest
        (c :: digits, after)
      else ([], c :: rest)
  | [] => ([], [])

def digits? (isDigit : Char → Bool) : Reader (List Char)
  | [] => none
  | c :: rest =>
      if isDigit c then
        let (digits, after) := moreDigits isDigit rest
        some (c :: digits, after)
      else none

def radixInteger? : Reader Setting
  | '0' :: 'x' :: rest => read 16 (fun c => (hexValue? c).isSome) rest
  | '0' :: 'b' :: rest => read 2 (fun c => c == '0' || c == '1') rest
  | '0' :: 'o' :: rest => read 8 (fun c => '0' ≤ c && c ≤ '7') rest
  | _ => none
where
  /-- The digits of a radix. -/
  read (radix : Nat) (isDigit : Char → Bool) (text : List Char) : Option (Setting × List Char) :=
    (digits? isDigit text).map fun (digits, rest) => (.integer (numberOf radix digits), rest)

def sign (text : List Char) : Bool × List Char :=
  match text with
  | '-' :: rest => (true, rest)
  | '+' :: rest => (false, rest)
  | _ => (false, text)

/-- The digits before the point: a zero, or digits that do not start with one. -/
def wholeDigits? : Reader (List Char)
  | '0' :: rest => some (['0'], rest)
  | text => digits? Char.isDigit text

/-- The digits after a point, if a point and a digit come next. -/
def fraction (text : List Char) : Option (List Char) × List Char :=
  match text with
  | '.' :: rest =>
      match digits? Char.isDigit rest with
      | some (digits, after) => (some digits, after)
      | none => (none, text)
  | _ => (none, text)

/-- The exponent, if its letter, a sign or none, and a digit come next. -/
def exponent (text : List Char) : Option Int × List Char :=
  match text with
  | c :: rest =>
      if c = 'e' ∨ c = 'E' then
        let (negative, unsigned) := sign rest
        match digits? Char.isDigit unsigned with
        | some (digits, after) =>
            let value := numberOf 10 digits
            (some (if negative then -(value : Int) else value), after)
        | none => (none, text)
      else (none, text)
  | [] => (none, text)

def decimal? : Reader Setting := fun text =>
  let (negative, unsigned) := sign text
  (wholeDigits? unsigned).map fun (whole, afterWhole) =>
    let (fraction?, afterFraction) := fraction afterWhole
    let (exponent?, rest) := exponent afterFraction
    if fraction?.isNone && exponent?.isNone then
      let value := numberOf 10 whole
      (.integer (if negative then -(value : Int) else value), rest)
    else
      let digits := fraction?.getD []
      (.float
        (FloatClass.ofDecimal negative (numberOf 10 (whole ++ digits))
          (exponent?.getD 0 - digits.length)),
        rest)

def specialFloat? : Reader Setting := fun text =>
  let (_, unsigned) := sign text
  match unsigned with
  | 'i' :: 'n' :: 'f' :: rest => some (.float .notFinite, rest)
  | 'n' :: 'a' :: 'n' :: rest => some (.float .notFinite, rest)
  | _ => none

/-! ## Dates and times -/

/-- A number of exactly `count` digits within bounds. -/
def bounded? (count least greatest : Nat) : Reader Nat := fun text =>
  let digits := text.take count
  if digits.length = count ∧ digits.all Char.isDigit then
    let value := numberOf 10 digits
    if least ≤ value ∧ value ≤ greatest then some (value, text.drop count) else none
  else none

def afterCharacter? (expected : Char) : List Char → Option (List Char)
  | c :: rest => if c = expected then some rest else none
  | [] => none

def time? (text : List Char) : Option (List Char) := do
  let (_, text) ← bounded? 2 0 23 text
  let (_, text) ← bounded? 2 0 59 (← afterCharacter? ':' text)
  let (_, text) ← bounded? 2 0 59 (← afterCharacter? ':' text)
  match text with
  | '.' :: c :: rest => some (if c.isDigit then rest.dropWhile Char.isDigit else text)
  | _ => some text

/-- What follows the offset from universal time, if one comes next. -/
def afterOffset (text : List Char) : List Char :=
  match text with
  | 'Z' :: rest => rest
  | 'z' :: rest => rest
  | c :: rest =>
      if c = '+' ∨ c = '-' then
        let found : Option (List Char) := do
          let (_, text) ← bounded? 2 0 23 rest
          let (_, text) ← bounded? 2 0 59 (← afterCharacter? ':' text)
          some text
        found.getD text
      else text
  | [] => text

def daysOf (year month : Nat) : Nat :=
  if month = 2 then
    if year % 4 = 0 ∧ (year % 100 ≠ 0 ∨ year % 400 = 0) then 29 else 28
  else if month ∈ [4, 6, 9, 11] then 30
  else 31

def date? : Reader (Nat × Nat × Nat) := fun text => do
  let (year, text) ← bounded? 4 0 9999 text
  let (month, text) ← bounded? 2 1 12 (← afterCharacter? '-' text)
  let (day, text) ← bounded? 2 1 31 (← afterCharacter? '-' text)
  some ((year, month, day), text)

/-- What follows a time after a date, if a time comes next. -/
def afterTime (text : List Char) : List Char :=
  match text with
  | c :: rest =>
      if c = 'T' ∨ c = 't' ∨ c = ' ' then ((time? rest).map afterOffset).getD text else text
  | [] => text

/-! ## Scalars -/

/-- A value that holds no others. A date of no calendar is no value, whatever else it might be. -/
def scalar? : Reader Setting := fun text =>
  match date? text with
  | some ((year, month, day), rest) =>
      if 1 ≤ year ∧ day ≤ daysOf year month then some (.dateTime, afterTime rest) else none
  | none =>
      match time? text with
      | some rest => some (.dateTime, rest)
      | none =>
          (radixInteger? text).orElse fun _ => (decimal? text).orElse fun _ => specialFloat? text

def boolean? : Reader Setting := fun text =>
  match "true".toList.isPrefixOf? text with
  | some rest => some (.boolean true, rest)
  | none => ("false".toList.isPrefixOf? text).map fun rest => (.boolean false, rest)

end Annotations.Toml
