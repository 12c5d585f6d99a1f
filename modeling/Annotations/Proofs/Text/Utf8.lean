import Mathlib.Algebra.Group.Nat.Defs
import Mathlib.Tactic.SplitIfs
import Annotations.Text.Blank
import Annotations.Text.Utf8

/-!
Contract: where a sequence of octets may be cut without changing what it reads as.

An octet of ASCII is a piece of its own and ends the piece before it. All other
pieces are of octets beyond ASCII alone, and do not read as characters of ASCII. So
octets can be cut before any ASCII octet, and the lines of a text are the texts of
the lines.

Owns:

- `IsPiece` and `pieceInduction`, octets piece by piece;
- `any_decodeReplacing`, what a text tells about its octets;
- `exists_decodeReplacing_eq_take`, the octets of the first characters;
- `splitOn_decodeReplacing`, lines.
-/

namespace Annotations.Text.Utf8

/-! ## Continuation octets -/

section Tails

variable {low high value used tails : Nat} {octets : List UInt8}

/-- The octets that are read are beyond ASCII. What stands after them matters only as far as it
begins otherwise. -/
theorem exists_readTails (bound : 0x80 ≤ low) :
    ∃ taken rest, octets = taken ++ rest ∧
      (readTails low high value used tails octets).2 = used + taken.length ∧
      (∀ octet ∈ taken, 0x80 ≤ octet.toNat) ∧
      ∀ other : List UInt8, other = [] ∨ other.head? = rest.head? →
        readTails low high value used tails (taken ++ other) =
          readTails low high value used tails octets := by
  induction octets generalizing low high value used tails with
  | nil =>
      refine ⟨[], [], rfl, ?_, nofun, ?_⟩
      · cases tails <;> rfl
      · intro other isOther
        obtain rfl : other = [] := by simpa using isOther
        rfl
  | cons octet rest inductionHypothesis =>
      cases tails with
      | zero =>
          refine ⟨[], octet :: rest, rfl, rfl, nofun, ?_⟩
          intro other _
          cases other <;> rfl
      | succ tails =>
          by_cases continues : low ≤ octet.toNat ∧ octet.toNat ≤ high
          · obtain ⟨taken, left, rfl, size, beyond, stable⟩ :=
              @inductionHypothesis 0x80 0xBF (64 * value + (octet.toNat - 0x80)) (used + 1) tails
                (Nat.le_refl _)
            refine ⟨octet :: taken, left, rfl, ?_, ?_, ?_⟩
            · rw [readTails, if_pos continues, size, List.length_cons]
              omega
            · exact List.forall_mem_cons.2 ⟨Nat.le_trans bound continues.1, beyond⟩
            · intro other isOther
              rw [List.cons_append, readTails, readTails, if_pos continues, if_pos continues]
              exact stable other isOther
          · refine ⟨[], octet :: rest, rfl, ?_, nofun, ?_⟩
            · rw [readTails, if_neg continues]
              rfl
            · intro other isOther
              rw [readTails, if_neg continues, List.nil_append]
              cases other with
              | nil => rfl
              | cons first other =>
                  obtain rfl : first = octet := by simpa using isOther
                  rw [readTails, if_neg continues]

/-- Each continuation octet adds six bits to the code point. -/
theorem le_of_readTails_eq_some {code : Nat}
    (read : (readTails low high value used tails octets).1 = some code) :
    value * 64 ^ tails ≤ code := by
  induction octets generalizing low high value used tails with
  | nil =>
      cases tails with
      | zero =>
          obtain rfl := Option.some.inj read
          simp
      | succ tails => contradiction
  | cons octet rest inductionHypothesis =>
      cases tails with
      | zero =>
          obtain rfl := Option.some.inj read
          simp
      | succ tails =>
          rw [readTails] at read
          split at read
          · have later := inductionHypothesis read
            calc value * 64 ^ (tails + 1) = 64 * value * 64 ^ tails := by
                  rw [Nat.pow_succ, Nat.mul_comm 64 value, Nat.mul_assoc, Nat.mul_comm 64]
              _ ≤ (64 * value + (octet.toNat - 0x80)) * 64 ^ tails :=
                  Nat.mul_le_mul_right _ (Nat.le_add_right _ _)
              _ ≤ code := later
          · contradiction

/-- The first continuation octet has a bound of its own. -/
theorem le_of_readTails_succ_eq_some {code : Nat}
    (read : (readTails low high value used (tails + 1) octets).1 = some code) :
    (64 * value + (low - 0x80)) * 64 ^ tails ≤ code := by
  cases octets with
  | nil => contradiction
  | cons octet rest =>
      rw [readTails] at read
      split at read
      next continues =>
        have atLeast : 64 * value + (low - 0x80) ≤ 64 * value + (octet.toNat - 0x80) := by
          omega
        exact Nat.le_trans (Nat.mul_le_mul_right _ atLeast) (le_of_readTails_eq_some read)
      · contradiction

end Tails

/-! ## Pieces -/

/-- A character that no octet of ASCII reads as, unless it is the null character. -/
def IsBeyond (c : Char) : Prop :=
  c.toNat = 0 ∨ 0x80 ≤ c.toNat

theorem isBeyond_ofNat {code : Nat} (beyond : 0x80 ≤ code) : IsBeyond (Char.ofNat code) := by
  by_cases valid : code.isValidChar
  · rw [Char.ofNat, dif_pos valid]
    exact Or.inr beyond
  · rw [Char.ofNat, dif_neg valid]
    exact Or.inl rfl

/-- What a leading octet announces is beyond ASCII, whatever follows. -/
theorem bounds_of_lead? {octet : Nat} {lead : Lead} (announced : lead? octet = some lead) :
    0x80 ≤ lead.low ∧ ∃ tails, lead.tails = tails + 1 ∧
      0x80 ≤ (64 * lead.bits + (lead.low - 0x80)) * 64 ^ tails := by
  unfold lead? at announced
  split_ifs at announced with two
  all_goals
    obtain rfl := Option.some.inj announced
    refine ⟨by simp, _, rfl, ?_⟩
    simp only [Nat.pow_zero, Nat.reducePow]
    omega

/-- What is cut short begins as before, if anything is left of it. -/
theorem eq_nil_or_head?_eq (octets after : List UInt8) :
    octets = [] ∨ octets.head? = (octets ++ after).head? := by
  cases octets with
  | nil => exact Or.inl rfl
  | cons octet octets => exact Or.inr rfl

/-- The first piece of `octet :: (taken ++ rest)` is `octet :: taken`. -/
structure IsPiece (piece : Option Char) (octet : UInt8) (taken rest : List UInt8) : Prop where
  ascii : octet.toNat < 0x80 → taken = [] ∧ piece = some (Char.ofNat octet.toNat)
  beyond : ∀ other ∈ taken, 0x80 ≤ other.toNat
  reads : 0x80 ≤ octet.toNat → ∀ c, piece = some c → IsBeyond c
  /-- It stays the first piece where the rest is cut off, or cut short. -/
  stable : ∀ other : List UInt8, other = [] ∨ other.head? = rest.head? →
    pieces (octet :: (taken ++ other)) = piece :: pieces other

theorem pieces_cons_of_firstPiece {octet : UInt8} {taken rest : List UInt8} {piece : Option Char}
    (first : firstPiece octet (taken ++ rest) = (piece, taken.length)) :
    pieces (octet :: (taken ++ rest)) = piece :: pieces rest := by
  rw [pieces, first]
  change piece :: pieces ((taken ++ rest).drop taken.length) = _
  rw [List.drop_left]

theorem exists_isPiece (octet : UInt8) (octets : List UInt8) :
    ∃ piece taken rest, octets = taken ++ rest ∧ IsPiece piece octet taken rest := by
  by_cases isAscii : octet.toNat < 0x80
  · have alone : ∀ other : List UInt8,
        firstPiece octet other = (some (Char.ofNat octet.toNat), 0) := by
      intro other
      rw [firstPiece, if_pos isAscii]
    exact ⟨some (Char.ofNat octet.toNat), [], octets, rfl, fun _ => ⟨rfl, rfl⟩, nofun,
      fun beyond => absurd isAscii (Nat.not_lt.2 beyond),
      fun other _ => pieces_cons_of_firstPiece (alone other)⟩
  · cases announced : lead? octet.toNat with
    | none =>
        have alone : ∀ other : List UInt8, firstPiece octet other = (none, 0) := by
          intro other
          rw [firstPiece, if_neg isAscii, announced]
        exact ⟨none, [], octets, rfl, fun ascii => absurd ascii isAscii, nofun, fun _ _ => nofun,
          fun other _ => pieces_cons_of_firstPiece (alone other)⟩
    | some lead =>
        obtain ⟨bound, tails, count, isLarge⟩ := bounds_of_lead? announced
        obtain ⟨taken, rest, rfl, size, beyond, stable⟩ := @exists_readTails lead.low lead.high
          lead.bits 0 lead.tails octets bound
        have first : ∀ other : List UInt8, other = [] ∨ other.head? = rest.head? →
            firstPiece octet (taken ++ other) =
              ((readTails lead.low lead.high lead.bits 0 lead.tails (taken ++ rest)).1.map
                Char.ofNat, taken.length) := by
          intro other isOther
          rw [firstPiece, if_neg isAscii, announced]
          simp only [stable other isOther, size, Nat.zero_add]
        refine ⟨_, taken, rest, rfl, fun ascii => absurd ascii isAscii, beyond, ?_,
          fun other isOther => pieces_cons_of_firstPiece (first other isOther)⟩
        intro _ c read
        obtain ⟨code, readCode, rfl⟩ := Option.map_eq_some_iff.1 read
        rw [count] at readCode
        exact isBeyond_ofNat (Nat.le_trans isLarge (le_of_readTails_succ_eq_some readCode))

/-- Octets piece by piece. -/
@[elab_as_elim]
theorem pieceInduction {motive : List UInt8 → Prop} (empty : motive [])
    (further : ∀ piece octet taken rest, IsPiece piece octet taken rest → motive rest →
      motive (octet :: (taken ++ rest))) :
    ∀ octets, motive octets
  | [] => empty
  | octet :: octets => by
      obtain ⟨piece, taken, rest, cut, isPiece⟩ := exists_isPiece octet octets
      rw [cut]
      exact further piece octet taken rest isPiece (pieceInduction empty further rest)
termination_by octets => octets.length
decreasing_by
  rw [cut, List.length_cons, List.length_append]
  omega

/-! ## Texts of octets -/

theorem decodeReplacing_cons {piece : Option Char} {octet : UInt8} {taken rest : List UInt8}
    (isPiece : IsPiece piece octet taken rest) {other : List UInt8}
    (isOther : other = [] ∨ other.head? = rest.head?) :
    decodeReplacing (octet :: (taken ++ other)) =
      piece.getD '\uFFFD' :: decodeReplacing other := by
  rw [decodeReplacing, isPiece.stable other isOther, List.map_cons]
  rfl

/-- An octet of ASCII reads as itself, between what stands before it and after it. -/
theorem decodeReplacing_append_ascii {ascii : UInt8} (isAscii : ascii.toNat < 0x80)
    (octets after : List UInt8) :
    decodeReplacing (octets ++ ascii :: after) =
      decodeReplacing octets ++ Char.ofNat ascii.toNat :: decodeReplacing after := by
  induction whole : octets ++ ascii :: after using pieceInduction generalizing octets with
  | empty => simp at whole
  | further piece octet taken rest isPiece inductionHypothesis =>
      rw [decodeReplacing_cons isPiece (Or.inr rfl)]
      cases octets with
      | nil =>
          obtain ⟨rfl, sameRest⟩ := List.cons.inj whole
          obtain ⟨rfl, rfl⟩ := isPiece.ascii isAscii
          rw [sameRest]
          simp [decodeReplacing, pieces]
      | cons first octets =>
          obtain ⟨rfl, sameRest⟩ := List.cons.inj whole
          -- The piece ends before the octet of ASCII, for it has none after its first octet.
          have within : ∃ other, octets = taken ++ other ∧ rest = other ++ ascii :: after := by
            rcases List.append_eq_append_iff.1 sameRest with inTaken | inOctets
            · obtain ⟨inside, rfl, isRest⟩ := inTaken
              cases inside with
              | nil => exact ⟨[], by simp, by simpa using isRest.symm⟩
              | cons other inside =>
                  obtain ⟨rfl, -⟩ := List.cons.inj isRest
                  have isBeyond := isPiece.beyond ascii (by simp)
                  omega
            · obtain ⟨other, rfl, rfl⟩ := inOctets
              exact ⟨other, rfl, rfl⟩
          obtain ⟨other, rfl, rfl⟩ := within
          rw [inductionHypothesis other rfl,
            decodeReplacing_cons isPiece (eq_nil_or_head?_eq other _), List.cons_append]

/-- The first characters of a text are the text of the first octets. -/
theorem exists_decodeReplacing_eq_take (octets : List UInt8) (count : Nat) :
    ∃ before, before <+: octets ∧ decodeReplacing before = (decodeReplacing octets).take count := by
  induction octets using pieceInduction generalizing count with
  | empty => exact ⟨[], List.nil_prefix, by simp [decodeReplacing, pieces]⟩
  | further piece octet taken rest isPiece inductionHypothesis =>
      cases count with
      | zero => exact ⟨[], List.nil_prefix, by simp [decodeReplacing, pieces]⟩
      | succ count =>
          obtain ⟨before, ⟨left, rfl⟩, read⟩ := inductionHypothesis count
          refine ⟨octet :: (taken ++ before), ⟨left, by simp⟩, ?_⟩
          rw [decodeReplacing_cons isPiece (eq_nil_or_head?_eq before left),
            decodeReplacing_cons isPiece (Or.inr rfl), read, List.take_succ_cons]

/-- A property of characters and one of octets that agree on ASCII, and are settled beyond it. -/
structure AgreesOnAscii (settled : Bool) (p : Char → Bool) (q : UInt8 → Bool) : Prop where
  ascii : ∀ code < 0x80, p (Char.ofNat code) = q (UInt8.ofNat code)
  character : ∀ c : Char, IsBeyond c → p c = settled
  octet : ∀ code < 0x100, 0x80 ≤ code → q (UInt8.ofNat code) = settled

/-- A text has a character with the property exactly if there is an octet with it. -/
theorem any_decodeReplacing {settled : Bool} {p : Char → Bool} {q : UInt8 → Bool}
    (agrees : AgreesOnAscii settled p q) (octets : List UInt8) :
    (decodeReplacing octets).any p = octets.any q := by
  have atBeyond : ∀ octet : UInt8, 0x80 ≤ octet.toNat → q octet = settled := by
    intro octet isBeyond
    have atCode := agrees.octet octet.toNat octet.toNat_lt isBeyond
    rwa [UInt8.ofNat_toNat] at atCode
  induction octets using pieceInduction with
  | empty => simp [decodeReplacing, pieces]
  | further piece octet taken rest isPiece inductionHypothesis =>
      rw [decodeReplacing_cons isPiece (Or.inr rfl), List.any_cons, inductionHypothesis,
        List.any_cons, List.any_append]
      by_cases isAscii : octet.toNat < 0x80
      · obtain ⟨rfl, rfl⟩ := isPiece.ascii isAscii
        rw [Option.getD_some, agrees.ascii octet.toNat isAscii, UInt8.ofNat_toNat]
        rfl
      · have isBeyond := Nat.le_of_not_lt isAscii
        have read : p (piece.getD '\uFFFD') = settled := by
          apply agrees.character
          cases piece with
          | none => exact Or.inr (by decide)
          | some c => exact isPiece.reads isBeyond c rfl
        rw [read, atBeyond octet isBeyond]
        cases settled with
        | true => rfl
        | false =>
            have noneTaken : taken.any q = false := by
              rw [List.any_eq_false]
              intro other isTaken
              rw [atBeyond other (isPiece.beyond other isTaken)]
              exact Bool.false_ne_true
            rw [noneTaken]
            rfl

theorem agreesOnAscii_newline : AgreesOnAscii false (· == '\n') (· == 10) where
  ascii := by decide
  character := by
    intro c isBeyond
    rw [beq_eq_false_iff_ne]
    intro isNewline
    subst isNewline
    exact absurd isBeyond (by unfold IsBeyond; decide)
  octet := by decide +kernel

/-- The lines of a text are the texts of the lines. -/
theorem splitOn_decodeReplacing (octets : List UInt8) :
    (decodeReplacing octets).splitOn '\n' = (octets.splitOn 10).map decodeReplacing := by
  by_cases hasLine : (10 : UInt8) ∈ octets
  · obtain ⟨before, after, cut⟩ := List.append_of_mem hasLine
    have first := splitOn_decodeReplacing before
    have later := splitOn_decodeReplacing after
    rw [cut, decodeReplacing_append_ascii (by decide), List.splitOn_append_cons_self,
      List.map_append, ← first, ← later]
    exact List.splitOn_append_cons_self _ _
  · have noLine : '\n' ∉ decodeReplacing octets := by
      have same := any_decodeReplacing agreesOnAscii_newline octets
      rw [List.any_beq', List.any_beq'] at same
      simpa [hasLine] using same
    rw [List.splitOn_eq_singleton noLine, List.splitOn_eq_singleton hasLine]
    rfl
termination_by octets.length
decreasing_by
  · rw [cut, List.length_append, List.length_cons]
    omega
  · rw [cut, List.length_append, List.length_cons]
    omega

end Annotations.Text.Utf8
