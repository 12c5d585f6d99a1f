/-!
Contract: reading UTF-8.

A sequence of octets is cut into pieces: well-formed characters, and maximal
ill-formed subsequences (the longest run of octets that starts a character but
does not finish it, or else a single octet).

Owns:

- `pieces`, the cut;
- `decode?`, which refuses ill-formed input;
- `decodeReplacing`, which writes U+FFFD for each ill-formed piece.
-/

namespace Annotations.Text.Utf8

/-- What a leading octet announces: the number of continuation octets, the bounds of the first of
them, and the bits the leading octet contributes. -/
structure Lead where
  tails : Nat
  low : Nat
  high : Nat
  bits : Nat
deriving DecidableEq, Repr

def lead? (octet : Nat) : Option Lead :=
  if 0xC2 ≤ octet ∧ octet ≤ 0xDF then some ⟨1, 0x80, 0xBF, octet - 0xC0⟩
  else if octet = 0xE0 then some ⟨2, 0xA0, 0xBF, 0⟩
  else if octet = 0xED then some ⟨2, 0x80, 0x9F, 0xD⟩
  else if 0xE1 ≤ octet ∧ octet ≤ 0xEF then some ⟨2, 0x80, 0xBF, octet - 0xE0⟩
  else if octet = 0xF0 then some ⟨3, 0x90, 0xBF, 0⟩
  else if 0xF1 ≤ octet ∧ octet ≤ 0xF3 then some ⟨3, 0x80, 0xBF, octet - 0xF0⟩
  else if octet = 0xF4 then some ⟨3, 0x80, 0x8F, 4⟩
  else none

/-- Read the `tails` continuation octets that remain. The result is the code point, if they are all
there, and the number of octets that belong to the piece. -/
def readTails (low high value used : Nat) : Nat → List UInt8 → Option Nat × Nat
  | 0, _ => (some value, used)
  | _ + 1, [] => (none, used)
  | tails + 1, octet :: rest =>
      if low ≤ octet.toNat ∧ octet.toNat ≤ high then
        readTails 0x80 0xBF (64 * value + (octet.toNat - 0x80)) (used + 1) tails rest
      else (none, used)

/-- The first piece of `octet :: rest`, and how many octets of `rest` belong to it. -/
def firstPiece (octet : UInt8) (rest : List UInt8) : Option Char × Nat :=
  if octet.toNat < 0x80 then (some (Char.ofNat octet.toNat), 0)
  else
    match lead? octet.toNat with
    | none => (none, 0)
    | some lead =>
        let (code?, used) := readTails lead.low lead.high lead.bits 0 lead.tails rest
        (code?.map Char.ofNat, used)

def pieces : List UInt8 → List (Option Char)
  | [] => []
  | octet :: rest =>
      let (piece, used) := firstPiece octet rest
      piece :: pieces (rest.drop used)
termination_by octets => octets.length
decreasing_by simp only [List.length_drop, List.length_cons]; omega

def decode? (octets : List UInt8) : Option (List Char) :=
  (pieces octets).mapM id

/-- The characters of any octets: an ill-formed piece reads as U+FFFD. -/
def decodeReplacing (octets : List UInt8) : List Char :=
  (pieces octets).map (·.getD '\uFFFD')

end Annotations.Text.Utf8
