import Annotations.Proofs.Text.Runs

/-!
Contract: the decimal numerals of integers within a text.

A numeral is a run of digits, with a hyphen before them where the integer is
negative. It determines its integer. So an integer can be read off a text that
goes on with any other character, however long the numeral is.

Owns:

- `isDigit_of_mem_toString` and `isNumeral_of_mem_toString`, the characters of a
  numeral;
- `toString_append_inj`, reading a numeral off a text.
-/

namespace Annotations.Text

def isNumeral (c : Char) : Bool :=
  c.isDigit || c == '-'

theorem toList_toString_ofNat (size : Nat) :
    (toString (Int.ofNat size)).toList = Nat.toDigits 10 size :=
  Nat.toList_repr

theorem toList_toString_negSucc (size : Nat) :
    (toString (Int.negSucc size)).toList = '-' :: Nat.toDigits 10 (size + 1) := by
  change ("-" ++ (size + 1).repr).toList = _
  rw [String.toList_append, Nat.toList_repr]
  rfl

theorem isDigit_of_mem_toDigits {size : Nat} {c : Char} (isPart : c ∈ Nat.toDigits 10 size) :
    c.isDigit = true :=
  Nat.isDigit_of_mem_toDigits (by decide) (by decide) isPart

/-- Only the numeral of a negative integer has a hyphen. -/
theorem isDigit_of_mem_toString {value : Int} (nonneg : 0 ≤ value) :
    ∀ c ∈ (toString value).toList, c.isDigit = true := by
  cases value with
  | ofNat size =>
      rw [toList_toString_ofNat]
      exact fun _ => isDigit_of_mem_toDigits
  | negSucc size => exact absurd nonneg (Int.negSucc_not_nonneg size).1

theorem isNumeral_of_mem_toString (value : Int) :
    ∀ c ∈ (toString value).toList, isNumeral c = true := by
  intro c isPart
  unfold isNumeral
  cases value with
  | ofNat size => rw [isDigit_of_mem_toString (Int.natCast_nonneg size) c isPart, Bool.true_or]
  | negSucc size =>
      rw [toList_toString_negSucc] at isPart
      rcases List.mem_cons.1 isPart with rfl | isDigit
      · rfl
      · rw [isDigit_of_mem_toDigits isDigit, Bool.true_or]

theorem toString_ne_nil (value : Int) : (toString value).toList ≠ [] := by
  cases value with
  | ofNat size =>
      rw [toList_toString_ofNat]
      exact Nat.toDigits_ne_nil
  | negSucc size =>
      rw [toList_toString_negSucc]
      exact List.cons_ne_nil _ _

theorem toDigits_inj {size other : Nat} (same : Nat.toDigits 10 size = Nat.toDigits 10 other) :
    size = other := by
  rw [← Nat.ofDigitChars_toDigits (b := 10) (n := size) (by decide) (by decide), same,
    Nat.ofDigitChars_toDigits (by decide) (by decide)]

theorem hyphen_cons_ne_toDigits (digits : List Char) (size : Nat) :
    '-' :: digits ≠ Nat.toDigits 10 size := by
  intro same
  have isDigit : Char.isDigit '-' = true :=
    isDigit_of_mem_toDigits (same ▸ List.mem_cons_self)
  contradiction

theorem toString_inj {value other : Int}
    (same : (toString value).toList = (toString other).toList) : value = other := by
  cases value with
  | ofNat size =>
      rw [toList_toString_ofNat] at same
      cases other with
      | ofNat otherSize =>
          rw [toList_toString_ofNat] at same
          exact congrArg Int.ofNat (toDigits_inj same)
      | negSucc otherSize =>
          rw [toList_toString_negSucc] at same
          exact absurd same.symm (hyphen_cons_ne_toDigits _ size)
  | negSucc size =>
      rw [toList_toString_negSucc] at same
      cases other with
      | ofNat otherSize =>
          rw [toList_toString_ofNat] at same
          exact absurd same (hyphen_cons_ne_toDigits _ otherSize)
      | negSucc otherSize =>
          rw [toList_toString_negSucc] at same
          exact congrArg Int.negSucc (Nat.succ.inj (toDigits_inj (List.cons.inj same).2))

/-- Texts that begin with numerals agree only if the integers do, and what follows them. -/
theorem toString_append_inj {value other : Int} {rest further : List Char}
    (stops : StopsRun isNumeral rest) (otherStops : StopsRun isNumeral further)
    (same : (toString value).toList ++ rest = (toString other).toList ++ further) :
    value = other ∧ rest = further := by
  obtain ⟨sameNumeral, sameRest⟩ := append_inj_of_run (isNumeral_of_mem_toString value) stops
    (isNumeral_of_mem_toString other) otherStops same
  exact ⟨toString_inj sameNumeral, sameRest⟩

end Annotations.Text
