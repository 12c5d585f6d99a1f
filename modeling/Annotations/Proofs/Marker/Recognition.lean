import Mathlib.Data.List.Induction
import Mathlib.Data.List.Perm.Basic
import Annotations.Proofs.Marker.Grammar

/-!
Contract: which comments carry markers, and which.

A tag may itself be made of `#` and blanks, so a comment can have several places
for it. Let the tag stand in two places of one comment. What follows its earlier
place is then what follows the later one, behind a gap that permutes the
characters between the places; these are `#` and blanks. As a colon is expected
next, the gap holds no `#`, and blanks before the colon do not matter. So all
places give the same reading, and it does not matter which one the search finds
first.

Owns:

- `Written.unique`, that a comment is written in one way only as far as its
  action and rule ids go;
- `ofComment_iff_written`, the markers of any comment.
-/

namespace Annotations.Marker

open Annotations.Text

/-! ## The places of a tag -/

def Lead (text : List Char) : Prop :=
  ∀ c ∈ text, c = '#' ∨ isBlank c = true

/-- If a tag stands in two places, what follows the first place is what follows the second, behind a
permutation of the text between the places. -/
theorem exists_shifted_gap {tag gap rest later : List Char}
    (overlap : tag ++ rest = gap ++ (tag ++ later)) :
    ∃ shifted, rest = shifted ++ later ∧ shifted.Perm gap := by
  rw [← List.append_assoc] at overlap
  rcases List.append_eq_append_iff.1 overlap with
    ⟨shifted, split, rfl⟩ | ⟨excess, split, rfl⟩
  · refine ⟨shifted, rfl, ?_⟩
    rw [← List.perm_append_left_iff tag, ← split]
    exact List.perm_append_comm
  · -- The tag is no longer than itself behind a gap.
    have lengths := congrArg List.length split
    simp only [List.length_append] at lengths
    have noGap : gap = [] := List.length_eq_zero_iff.1 (by omega)
    have noExcess : excess = [] := List.length_eq_zero_iff.1 (by omega)
    subst noGap noExcess
    exact ⟨[], rfl, List.Perm.nil⟩

/-- `#` and blanks that stand before a colon are blanks. -/
theorem blanks_of_assignment {lead rest : List Char} {action : MarkerAction} {rules : List String}
    (isLead : Lead lead) (assignment : Assignment (lead ++ rest) action rules) : Blanks lead := by
  obtain ⟨beforeColon, beforeAction, beforeEquals, beforeRules, list, split, blankColon, -⟩ :=
    assignment
  obtain ⟨blanks, isBlanks, splitLead⟩ := split_blanks lead
  cases following : lead.dropWhile isBlank with
  | nil =>
      rw [splitLead, following, List.append_nil]
      exact isBlanks
  | cons c tail =>
      have notBlank : isBlank c = false := stopsRun_dropWhile lead c (by rw [following]; rfl)
      have isHash : c = '#' := by
        have isMember : c ∈ lead := by
          rw [splitLead, following]
          simp
        rcases isLead c isMember with hash | blank
        · exact hash
        · rw [notBlank] at blank
          contradiction
      subst isHash
      -- After its blanks the text goes on with `#`, and with a colon.
      have atHash : (lead ++ rest).dropWhile isBlank = '#' :: (tail ++ rest) := by
        rw [splitLead, following, List.append_assoc, List.cons_append]
        exact dropWhile_run isBlanks (stopsRun_cons notBlank _)
      rw [split, dropWhile_run blankColon (stopsRun_cons (by decide) _)] at atHash
      exact absurd (List.cons.inj atHash).1 (by decide)

theorem readAssignment?_blanks {blanks : List Char} (isBlanks : Blanks blanks) (rest : List Char) :
    readAssignment? (blanks ++ rest) = readAssignment? rest := by
  unfold readAssignment?
  rw [List.dropWhile_append_of_pos isBlanks]

/-- A later place of the tag gives the reading of an earlier one. -/
theorem assignment_of_gap {tag gap rest later : List Char} {action other : MarkerAction}
    {rules others : List String} (isLead : Lead gap)
    (overlap : tag ++ rest = gap ++ (tag ++ later)) (first : Assignment rest action rules)
    (second : Assignment later other others) : (action, rules) = (other, others) := by
  obtain ⟨shifted, rfl, permuted⟩ := exists_shifted_gap overlap
  have shiftedLead : Lead shifted := fun c isMember => isLead c (permuted.mem_iff.1 isMember)
  have isBlanks := blanks_of_assignment shiftedLead first
  have readFirst := readAssignment?_eq_some_iff.2 first
  rw [readAssignment?_blanks isBlanks, readAssignment?_eq_some_iff.2 second] at readFirst
  exact (Option.some.inj readFirst).symm

theorem Written.exists_lead {tag text : List Char} {action : MarkerAction} {rules : List String}
    (written : Written tag text action rules) :
    ∃ lead rest, text = lead ++ (tag ++ rest) ∧ Lead lead ∧ Assignment rest action rules := by
  obtain ⟨hashes, blanks, rest, rfl, -, onlyHashes, isBlanks, assignment⟩ := written
  refine ⟨hashes ++ blanks, rest, (List.append_assoc ..).symm, ?_, assignment⟩
  intro c isMember
  rcases List.mem_append.1 isMember with inHashes | inBlanks
  · exact Or.inl (onlyHashes c inHashes)
  · exact Or.inr (isBlanks c inBlanks)

/-- All splits of a comment give one action and one list of rule ids. -/
theorem Written.unique {tag text : List Char} {action other : MarkerAction}
    {rules others : List String} (first : Written tag text action rules)
    (second : Written tag text other others) : (action, rules) = (other, others) := by
  obtain ⟨lead, rest, split, isLead, ofRest⟩ := first.exists_lead
  obtain ⟨further, later, splitOther, isFurther, ofLater⟩ := second.exists_lead
  rw [split] at splitOther
  rcases List.append_eq_append_iff.1 splitOther with
    ⟨gap, rfl, overlap⟩ | ⟨gap, rfl, overlap⟩
  · have gapLead : Lead gap := fun c isMember => isFurther c (List.mem_append_right lead isMember)
    exact assignment_of_gap gapLead overlap ofRest ofLater
  · have gapLead : Lead gap := fun c isMember => isLead c (List.mem_append_right further isMember)
    exact (assignment_of_gap gapLead overlap ofLater ofRest).symm

/-! ## The search for the tag -/

/-- Reading finds the tag where the grammar allows it. -/
theorem read?_sound {tag text : List Char} {action : MarkerAction} {rules : List String}
    (read : read? tag text = some (action, rules)) : Written tag text action rules := by
  unfold read? at read
  split at read
  next rest =>
    obtain ⟨candidate, isCandidate, readCandidate⟩ := List.exists_of_findSome?_eq_some read
    obtain ⟨afterHashes, isAfterHashes, isAfterBlanks⟩ := List.mem_flatMap.1 isCandidate
    obtain ⟨hashes, rfl, areHashes⟩ := mem_afterRun_iff.1 isAfterHashes
    obtain ⟨blanks, rfl, isBlanks⟩ := mem_afterRun_iff.1 isAfterBlanks
    obtain ⟨following, cutTag, readFollowing⟩ := Option.bind_eq_some_iff.1 readCandidate
    refine ⟨'#' :: hashes, blanks, following, ?_, List.cons_ne_nil _ _, ?_, isBlanks,
      readAssignment?_eq_some_iff.1 readFollowing⟩
    · rw [isPrefixOf?_eq_some_iff.1 cutTag]
      rfl
    · intro c isMember
      rcases List.mem_cons.1 isMember with rfl | isHash
      · rfl
      · exact beq_iff_eq.1 (areHashes c isHash)
  next => contradiction

/-- Reading succeeds on every comment that the grammar allows. -/
theorem read?_complete {tag text : List Char} {action : MarkerAction} {rules : List String}
    (written : Written tag text action rules) : read? tag text = some (action, rules) := by
  have found : (read? tag text).isSome := by
    obtain ⟨hashes, blanks, rest, rfl, someHash, onlyHashes, isBlanks, assignment⟩ := written
    cases hashes with
    | nil => contradiction
    | cons c hashes =>
        obtain ⟨rfl, areHashes⟩ := List.forall_mem_cons.1 onlyHashes
        have isCandidate : tag ++ rest ∈ (afterRun (· == '#')
            (hashes ++ (blanks ++ (tag ++ rest)))).flatMap (afterRun isBlank) := by
          refine List.mem_flatMap.2 ⟨blanks ++ (tag ++ rest), ?_, ?_⟩
          · exact mem_afterRun_iff.2
              ⟨hashes, rfl, fun c isHash => beq_iff_eq.2 (areHashes c isHash)⟩
          · exact mem_afterRun_iff.2 ⟨blanks, rfl, isBlanks⟩
        change (List.findSome? _ _).isSome
        rw [List.findSome?_isSome_iff]
        refine ⟨tag ++ rest, isCandidate, ?_⟩
        rw [isPrefixOf?_eq_some_iff.2 rfl, Option.bind_some,
          readAssignment?_eq_some_iff.2 assignment]
        rfl
  obtain ⟨⟨other, others⟩, read⟩ := Option.isSome_iff_exists.1 found
  rw [read, written.unique (read?_sound read)]

/-- Marker comments are read exactly by the grammar. -/
theorem read?_eq_some_iff {tag text : List Char} {action : MarkerAction} {rules : List String} :
    read? tag text = some (action, rules) ↔ Written tag text action rules :=
  ⟨read?_sound, read?_complete⟩

/-! ## The markers of a comment -/

/-- The distinct members of a list, each where it occurs first. -/
inductive FirstOccurrences : List String → List String → Prop where
  | nil : FirstOccurrences [] []
  | fresh {rules distinct : List String} {rule : String} (isNew : rule ∉ rules)
      (earlier : FirstOccurrences rules distinct) :
      FirstOccurrences (rules ++ [rule]) (distinct ++ [rule])
  | repeated {rules distinct : List String} {rule : String} (isOld : rule ∈ rules)
      (earlier : FirstOccurrences rules distinct) :
      FirstOccurrences (rules ++ [rule]) distinct

theorem eraseDups_append_singleton (rules : List String) (rule : String) :
    (rules ++ [rule]).eraseDups =
      if rule ∈ rules then rules.eraseDups else rules.eraseDups ++ [rule] := by
  rw [List.eraseDups_append]
  by_cases isOld : rule ∈ rules
  · have dropped : [rule].removeAll rules = [] := by simp [List.removeAll, isOld]
    rw [dropped, if_pos isOld, List.eraseDups_nil, List.append_nil]
  · have kept : [rule].removeAll rules = [rule] := by simp [List.removeAll, isOld]
    rw [kept, if_neg isOld, List.eraseDups_cons, List.filter_nil, List.eraseDups_nil]

theorem firstOccurrences_iff {rules distinct : List String} :
    FirstOccurrences rules distinct ↔ distinct = rules.eraseDups := by
  constructor
  · intro occurrences
    induction occurrences with
    | nil => rfl
    | fresh isNew _ inductionHypothesis =>
        rw [eraseDups_append_singleton, if_neg isNew, inductionHypothesis]
    | repeated isOld _ inductionHypothesis =>
        rw [eraseDups_append_singleton, if_pos isOld, inductionHypothesis]
  · intro isErased
    subst isErased
    induction rules using List.reverseRecOn with
    | nil => exact .nil
    | append_singleton rules rule inductionHypothesis =>
        rw [eraseDups_append_singleton]
        by_cases isOld : rule ∈ rules
        · rw [if_pos isOld]
          exact .repeated isOld inductionHypothesis
        · rw [if_neg isOld]
          exact .fresh isOld inductionHypothesis

theorem RuleList.ne_nil {ids : List Char} {rules : List String} (list : RuleList ids rules) :
    rules ≠ [] := by
  cases list with
  | single _ => exact List.cons_ne_nil _ _
  | more _ _ _ _ => exact List.cons_ne_nil _ _

theorem Written.ne_nil {tag text : List Char} {action : MarkerAction} {rules : List String}
    (written : Written tag text action rules) : rules ≠ [] := by
  obtain ⟨hashes, blanks, rest, -, -, -, -, assignment⟩ := written
  obtain ⟨-, -, -, -, text, -, -, -, -, -, listed⟩ := assignment
  obtain ⟨ids, -, -, -, list, -⟩ := listed
  exact list.ne_nil

theorem ofComment_of_written {tag : String} {comment : Comment} {action : MarkerAction}
    {rules : List String}
    (written : Written tag.toList (trim isBlank comment.text.toList) action rules) :
    ofComment tag comment =
      rules.eraseDups.map fun rule => ⟨rule, action, comment.line, comment.trailing⟩ := by
  unfold ofComment
  rw [read?_eq_some_iff.2 written]

/-- A comment carries markers exactly if its trimmed text is written by the grammar. All ways to
split it give one action and one list of rule ids, and there is one marker for each distinct id. -/
theorem ofComment_iff_written (tag : String) (comment : Comment) :
    (ofComment tag comment ≠ [] ↔
        ∃ action rules, Written tag.toList (trim isBlank comment.text.toList) action rules) ∧
      ∀ action rules, Written tag.toList (trim isBlank comment.text.toList) action rules →
        (∀ other others, Written tag.toList (trim isBlank comment.text.toList) other others →
          other = action ∧ others = rules) ∧
        ∃ distinct, FirstOccurrences rules distinct ∧
          ofComment tag comment =
            distinct.map fun rule => ⟨rule, action, comment.line, comment.trailing⟩ := by
  refine ⟨⟨?_, ?_⟩, ?_⟩
  · intro marked
    cases read : read? tag.toList (trim isBlank comment.text.toList) with
    | none =>
        rw [ofComment, read] at marked
        contradiction
    | some result => exact ⟨result.1, result.2, read?_sound read⟩
  · rintro ⟨action, rules, written⟩ unmarked
    obtain ⟨rule, isRule⟩ := List.exists_mem_of_ne_nil rules written.ne_nil
    rw [ofComment_of_written written, List.map_eq_nil_iff] at unmarked
    have isDistinct := List.mem_eraseDups.2 isRule
    rw [unmarked] at isDistinct
    contradiction
  · intro action rules written
    refine ⟨?_, rules.eraseDups, firstOccurrences_iff.2 rfl, ofComment_of_written written⟩
    intro other others writtenOther
    exact Prod.mk.inj (writtenOther.unique written)

/-- A comment under the tag `#`: its first `#` opens it, and the second is the tag. -/
private def hashed : Comment := ⟨3, " ##: enable=A, B # A ", true⟩

/-- A tag may look like the opening of a comment. -/
theorem hash_is_a_tag :
    Written "#".toList (trim isBlank hashed.text.toList) .enable ["A", "B"] ∧
      ofComment "#" hashed = [⟨"A", .enable, 3, true⟩, ⟨"B", .enable, 3, true⟩] := by
  have ids : RuleList (['A'] ++ [] ++ ',' :: ([' '] ++ ['B'])) ["A", "B"] :=
    .more (by decide) (by decide) (by decide) (.single (by decide))
  have listed : Listed "A, B # A".toList ["A", "B"] :=
    ⟨"A, B".toList, [' '], "# A".toList, by decide, ids, by decide,
      Or.inr ⟨" A".toList, by decide, by decide⟩⟩
  have written : Written "#".toList (trim isBlank hashed.text.toList) .enable ["A", "B"] := by
    refine ⟨['#'], [], ": enable=A, B # A".toList, by decide, by decide, by simp, by decide, ?_⟩
    exact ⟨[], [' '], [], [], _, by decide, by decide, by decide, by decide, by decide, listed⟩
  obtain ⟨-, distinct, occurrences, marked⟩ :=
    (ofComment_iff_written "#" hashed).2 .enable ["A", "B"] written
  refine ⟨written, ?_⟩
  rw [marked, firstOccurrences_iff.1 occurrences]
  decide

end Annotations.Marker
