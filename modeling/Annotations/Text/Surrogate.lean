/-!
Contract: code points that are no characters.

Surrogates have no place in a text, and no UTF-8 form. Where a text is asked for
all the same, each is written as an escape.

Owns:

- `isSurrogate`;
- `writeCodes`, code points as a text with escapes.
-/

namespace Annotations.Text

def isSurrogate (code : Nat) : Bool :=
  0xd800 ≤ code && code < 0xe000

def writeCode (code : Nat) : List Char :=
  if isSurrogate code then '\\' :: 'u' :: Nat.toDigits 16 code else [Char.ofNat code]

def writeCodes (codes : List Nat) : String :=
  String.ofList (codes.flatMap writeCode)

end Annotations.Text
