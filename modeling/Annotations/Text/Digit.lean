import Annotations.Text.Blank

/-!
Contract: decimal digits of every script, and the integers written with them.

Owns:

- `digitValue?`, the value of a character of the category Nd;
- `readDigits?`, digits with single underscores between them;
- `readInteger?`, a signed integer with blanks around it.
-/

namespace Annotations.Text

/-- The zeros of the decimal digits of Unicode 14; the other nine follow each of them. -/
def digitZeros : Array Nat := #[
  0x30, 0x660, 0x6f0, 0x7c0, 0x966, 0x9e6, 0xa66, 0xae6, 0xb66, 0xbe6, 0xc66, 0xce6, 0xd66,
  0xde6, 0xe50, 0xed0, 0xf20, 0x1040, 0x1090, 0x17e0, 0x1810, 0x1946, 0x19d0, 0x1a80, 0x1a90,
  0x1b50, 0x1bb0, 0x1c40, 0x1c50, 0xa620, 0xa8d0, 0xa900, 0xa9d0, 0xa9f0, 0xaa50, 0xabf0, 0xff10,
  0x104a0, 0x10d30, 0x11066, 0x110f0, 0x11136, 0x111d0, 0x112f0, 0x11450, 0x114d0, 0x11650,
  0x116c0, 0x11730, 0x118e0, 0x11950, 0x11c50, 0x11d50, 0x11da0, 0x16a60, 0x16ac0, 0x16b50,
  0x1d7ce, 0x1d7d8, 0x1d7e2, 0x1d7ec, 0x1d7f6, 0x1e140, 0x1e2f0, 0x1e950, 0x1fbf0]

def digitValue? (c : Char) : Option Nat :=
  (digitZeros.find? fun least => least ≤ c.toNat && c.toNat ≤ least + 9).map (c.toNat - ·)

/-- Continue a number after a digit: more digits, each after at most one underscore. -/
def readMoreDigits? (valueOf : Char → Option Nat) (value : Nat) : List Char → Option Nat
  | [] => some value
  | '_' :: c :: rest =>
      (valueOf c).bind fun digit => readMoreDigits? valueOf (10 * value + digit) rest
  | c :: rest => (valueOf c).bind fun digit => readMoreDigits? valueOf (10 * value + digit) rest

/-- A nonempty run of digits in which single underscores may stand between two digits. -/
def readDigits? (valueOf : Char → Option Nat) : List Char → Option Nat
  | [] => none
  | c :: rest => (valueOf c).bind fun digit => readMoreDigits? valueOf digit rest

/-- Apply a leading sign, if there is one, to the number that `read` finds after it. -/
def readSigned? (read : List Char → Option Nat) : List Char → Option Int
  | '-' :: rest => (read rest).map fun value => -(value : Int)
  | '+' :: rest => (read rest).map Int.ofNat
  | text => (read text).map Int.ofNat

/-- A signed decimal integer in digits of any script, with blanks around it. -/
def readInteger? (text : List Char) : Option Int :=
  readSigned? (readDigits? digitValue?) (trim isBlank text)

end Annotations.Text
