import Mathlib.Data.List.TakeWhile
import Annotations.Text.Blank
import Annotations.Text.Run
import Annotations.Text.Word

/-!
Contract: cutting a text at the end of a run of characters.

Owns:

- `takeWhile_run` and `dropWhile_run`, which cut a text exactly where a run ends;
- `append_inj_of_run` and `append_cons_inj_of_not_mem`, texts that are cut alike;
- `mem_afterRun_iff`, the cuts that a search tries;
- `isPrefixOf?_eq_some_iff`, cutting off a fixed text;
- `splitOn_intercalate_names` and `not_mem_of_mem_splitOn`, names between separators;
- `isWord_of_isBlank`, that no blank is a word character.
-/

namespace Annotations.Text

/-! ## Cutting -/

section Cutting

variable {p : Char → Bool} {run rest text : List Char}

/-- A text does not go on with a character of a class. -/
def StopsRun (p : Char → Bool) (text : List Char) : Prop :=
  ∀ c ∈ text.head?, p c = false

theorem stopsRun_nil : StopsRun p [] := by
  intro c isHead
  contradiction

theorem stopsRun_cons {c : Char} (stops : p c = false) (rest : List Char) :
    StopsRun p (c :: rest) := by
  intro head isHead
  obtain rfl := Option.some.inj isHead
  exact stops

theorem stopsRun_dropWhile (text : List Char) : StopsRun p (text.dropWhile p) := by
  intro c isHead
  have stopped := List.head?_dropWhile_not p text
  rw [Option.mem_def.1 isHead] at stopped
  exact stopped

theorem takeWhile_run (isRun : ∀ c ∈ run, p c = true) (stops : StopsRun p rest) :
    (run ++ rest).takeWhile p = run := by
  rw [List.takeWhile_append_of_pos isRun]
  cases rest with
  | nil => simp
  | cons c rest => simp [stops c rfl]

theorem dropWhile_run (isRun : ∀ c ∈ run, p c = true) (stops : StopsRun p rest) :
    (run ++ rest).dropWhile p = rest := by
  rw [List.dropWhile_append_of_pos isRun]
  cases rest with
  | nil => rfl
  | cons c rest => simp [stops c rfl]

/-- Texts that begin with whole runs agree only if the runs do, and what follows them. -/
theorem append_inj_of_run {other further : List Char} (isRun : ∀ c ∈ run, p c = true)
    (stops : StopsRun p rest) (isOtherRun : ∀ c ∈ other, p c = true)
    (otherStops : StopsRun p further) (same : run ++ rest = other ++ further) :
    run = other ∧ rest = further := by
  have sameRun : run = other := by
    rw [← takeWhile_run isRun stops, same, takeWhile_run isOtherRun otherStops]
  subst sameRun
  exact ⟨rfl, List.append_cancel_left same⟩

/-- Texts with the same last separator agree only if they do before it and after it. -/
theorem append_cons_inj_of_not_mem {separator : Char} {left right other further : List Char}
    (isLast : separator ∉ right) (isOtherLast : separator ∉ further)
    (same : left ++ separator :: right = other ++ separator :: further) :
    left = other ∧ right = further := by
  have apart : ∀ {text : List Char}, separator ∉ text →
      ∀ c ∈ text.reverse, (c != separator) = true := by
    intro text absent c isPart
    rw [bne_iff_ne]
    exact ne_of_mem_of_not_mem (List.mem_reverse.1 isPart) absent
  have stops : ∀ text : List Char, StopsRun (· != separator) (separator :: text) :=
    fun text => stopsRun_cons (p := (· != separator)) (bne_self_eq_false separator) text
  -- Read from the end, what follows the separator is a run.
  have reversed := congrArg List.reverse same
  simp only [List.reverse_append, List.reverse_cons, List.append_assoc, List.singleton_append]
    at reversed
  obtain ⟨sameRight, sameRest⟩ :=
    append_inj_of_run (apart isLast) (stops _) (apart isOtherLast) (stops _) reversed
  exact ⟨List.reverse_inj.1 (List.cons.inj sameRest).2, List.reverse_inj.1 sameRight⟩

theorem forall_mem_takeWhile (text : List Char) : ∀ c ∈ text.takeWhile p, p c = true :=
  fun _ isTaken => List.mem_takeWhile_imp isTaken

/-- What a run of skipped characters leaves is found by the search, however long the run. -/
theorem mem_afterRun_iff :
    rest ∈ afterRun p text ↔ ∃ run, text = run ++ rest ∧ ∀ c ∈ run, p c = true := by
  induction text with
  | nil =>
      simp only [afterRun, List.mem_singleton]
      constructor
      · intro same
        subst same
        exact ⟨[], rfl, by simp⟩
      · intro cut
        obtain ⟨run, split, -⟩ := cut
        exact (List.append_eq_nil_iff.1 split.symm).2
  | cons c text inductionHypothesis =>
      rw [afterRun, List.mem_cons]
      constructor
      · intro isCut
        rcases isCut with rfl | later
        · exact ⟨[], rfl, by simp⟩
        · split at later
          next skipped =>
            obtain ⟨run, rfl, isRun⟩ := inductionHypothesis.1 later
            exact ⟨c :: run, rfl, List.forall_mem_cons.2 ⟨skipped, isRun⟩⟩
          next => contradiction
      · intro cut
        obtain ⟨run, split, isRun⟩ := cut
        cases run with
        | nil => exact Or.inl split.symm
        | cons first run =>
            obtain ⟨rfl, rfl⟩ := List.cons.inj split
            obtain ⟨skipped, isRun⟩ := List.forall_mem_cons.1 isRun
            rw [if_pos skipped]
            exact Or.inr (inductionHypothesis.2 ⟨run, rfl, isRun⟩)

end Cutting

theorem isPrefixOf?_eq_some_iff {word text rest : List Char} :
    word.isPrefixOf? text = some rest ↔ text = word ++ rest := by
  induction word generalizing text with
  | nil =>
      change some text = some rest ↔ text = rest
      rw [Option.some.injEq]
  | cons c word inductionHypothesis =>
      cases text with
      | nil => exact ⟨nofun, nofun⟩
      | cons first text =>
          change (if c == first then word.isPrefixOf? text else none) = some rest ↔ _
          rw [List.cons_append, List.cons.injEq]
          by_cases same : c = first
          · simp [same, inductionHypothesis]
          · simp [same, Ne.symm same]

/-! ## Separators -/

/-- No part of a text between separators has a separator. -/
theorem not_mem_of_mem_splitOn {separator : Char} {text part : List Char}
    (isPart : part ∈ text.splitOn separator) : separator ∉ part := by
  induction text generalizing part with
  | nil =>
      obtain rfl := List.mem_singleton.1 isPart
      exact List.not_mem_nil
  | cons c text inductionHypothesis =>
      rw [List.splitOn_cons_eq_if_modifyHead] at isPart
      split at isPart
      · rcases List.mem_cons.1 isPart with rfl | later
        · exact List.not_mem_nil
        · exact inductionHypothesis later
      next isOther =>
        cases parts : text.splitOn separator with
        | nil => exact absurd parts (List.splitOn_ne_nil _ _)
        | cons first others =>
            rw [parts] at isPart inductionHypothesis
            rcases List.mem_cons.1 isPart with rfl | later
            · have apart : separator ≠ c := fun same => isOther (beq_iff_eq.2 same.symm)
              exact List.not_mem_cons_of_ne_of_not_mem apart
                (inductionHypothesis List.mem_cons_self)
            · exact inductionHypothesis (List.mem_cons_of_mem _ later)

/-- Names without separators are read off again between separators. -/
theorem splitOn_intercalate_names {joint : String} {separator : Char}
    (isJoint : joint.toList = [separator]) {names : List String} (nonempty : names ≠ [])
    (apart : ∀ name ∈ names, separator ∉ name.toList) :
    (joint.intercalate names).toList.splitOn separator = names.map String.toList := by
  rw [String.toList_intercalate, isJoint]
  refine List.splitOn_intercalate separator ?_ (by simpa using nonempty)
  intro characters isPart
  obtain ⟨name, isName, rfl⟩ := List.mem_map.1 isPart
  exact apart name isName

/-! ## Disjoint classes -/

private def blankCodes : List Nat :=
  [9, 10, 11, 12, 13, 0x1C, 0x1D, 0x1E, 0x1F, 0x20, 0x85, 0xA0, 0x1680, 0x2000, 0x2001, 0x2002,
    0x2003, 0x2004, 0x2005, 0x2006, 0x2007, 0x2008, 0x2009, 0x200A, 0x2028, 0x2029, 0x202F, 0x205F,
    0x3000]

private theorem mem_blankCodes {c : Char} (blank : isBlank c = true) : c.toNat ∈ blankCodes := by
  simp only [isBlank, isWhiteSpace, Bool.or_eq_true, Bool.and_eq_true, decide_eq_true_eq,
    beq_iff_eq] at blank
  simp only [blankCodes, List.mem_cons, List.not_mem_nil, or_false]
  grind

private theorem isWord_blankCodes : ∀ code ∈ blankCodes, isWord (Char.ofNat code) = false := by
  -- As a list the table is searched in one pass.
  simp only [isWord, isAlphanumeric, CodeRanges.contains, ← Array.any_toList]
  decide +kernel

/-- No blank is a word character. -/
theorem isWord_of_isBlank {c : Char} (blank : isBlank c = true) : isWord c = false := by
  have notWord := isWord_blankCodes _ (mem_blankCodes blank)
  rwa [Char.ofNat_toNat] at notWord

end Annotations.Text
