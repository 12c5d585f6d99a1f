/-!
Contract: the characters that count as blank, and trimming by them.

Three sets are in use. `isBlank` is the Unicode property White_Space together
with the four information separators U+001C to U+001F; comments, rule lists and
digit strings are trimmed by it. `isWhiteSpace` is the property alone, which
configuration values are trimmed by. `isAsciiBlank` is the six ASCII blanks,
which decide whether code precedes a comment on its line.

Owns:

- the three sets;
- `trim` and its one-sided forms, over any of them.
-/

namespace Annotations.Text

def isWhiteSpace (c : Char) : Bool :=
  let code := c.toNat
  (9 ≤ code && code ≤ 13) || code == 0x20 || code == 0x85 || code == 0xA0 || code == 0x1680 ||
    (0x2000 ≤ code && code ≤ 0x200A) || code == 0x2028 || code == 0x2029 || code == 0x202F ||
    code == 0x205F || code == 0x3000

/-- A blank: White_Space or one of the information separators U+001C to U+001F. -/
def isBlank (c : Char) : Bool :=
  isWhiteSpace c || (0x1C ≤ c.toNat && c.toNat ≤ 0x1F)

/-- A space, tab, line feed, vertical tab, form feed or carriage return. -/
def isAsciiBlank (c : Char) : Bool :=
  c.toNat == 0x20 || (9 ≤ c.toNat && c.toNat ≤ 13)

def trimRight (drops : Char → Bool) (text : List Char) : List Char :=
  (text.reverse.dropWhile drops).reverse

/-- Drop the elements that satisfy `drops` at both ends. -/
def trim (drops : Char → Bool) (text : List Char) : List Char :=
  trimRight drops (text.dropWhile drops)

end Annotations.Text
