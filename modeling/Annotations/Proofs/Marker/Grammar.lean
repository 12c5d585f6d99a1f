import Annotations.Marker
import Annotations.Proofs.Text.Runs

/-!
Contract: the grammar of marker comments, and the readers of its parts.

The grammar says how a trimmed marker comment can be split, with no order of
reading. What follows the tag can be split in one way only, since every part
ends where its successor begins; there the readers decide the grammar exactly.

Owns:

- `RuleList`, `Assignment` and `Written`, the grammar;
- `readRules?_eq_some_iff` and `readAssignment?_eq_some_iff`, that what follows
  the tag is read exactly by the grammar.

Does not own:

- where the tag stands; see `Annotations.Proofs.Marker.Recognition`.
-/

namespace Annotations.Marker

open Annotations.Text

/-! ## The grammar -/

def Blanks (text : List Char) : Prop :=
  ∀ c ∈ text, isBlank c = true

instance (text : List Char) : Decidable (Blanks text) :=
  decidable_of_iff (text.all isBlank = true) List.all_eq_true

/-- A rule id: a nonempty run of word characters, dots, slashes and hyphens. -/
def IsRule (text : List Char) : Prop :=
  text ≠ [] ∧ ∀ c ∈ text, isWord c = true ∨ c = '.' ∨ c = '/' ∨ c = '-'

/-- What may follow the rule ids: nothing, or `#` and a remark without line feeds. -/
def IsRemark (text : List Char) : Prop :=
  text = [] ∨ ∃ remark, text = '#' :: remark ∧ '\n' ∉ remark

/-- One or more rule ids, separated by commas with blanks around them. -/
inductive RuleList : List Char → List String → Prop where
  | single {rule : List Char} (isRule : IsRule rule) : RuleList rule [String.ofList rule]
  | more {rule before after others : List Char} {rules : List String} (isRule : IsRule rule)
      (blankBefore : Blanks before) (blankAfter : Blanks after) (rest : RuleList others rules) :
      RuleList (rule ++ before ++ ',' :: (after ++ others)) (String.ofList rule :: rules)

/-- What follows the rule ids: blanks, and perhaps a remark. -/
def Listed (text : List Char) (rules : List String) : Prop :=
  ∃ ids blanks remark, text = ids ++ (blanks ++ remark) ∧ RuleList ids rules ∧ Blanks blanks ∧
    IsRemark remark

/-- What follows the tag: a colon, an action, an equals sign and rule ids, with blanks between. -/
def Assignment (text : List Char) (action : MarkerAction) (rules : List String) : Prop :=
  ∃ beforeColon beforeAction beforeEquals beforeRules list,
    text = beforeColon ++ ':' :: (beforeAction ++ (action.label.toList ++
      (beforeEquals ++ '=' :: (beforeRules ++ list)))) ∧
      Blanks beforeColon ∧ Blanks beforeAction ∧ Blanks beforeEquals ∧ Blanks beforeRules ∧
      Listed list rules

/-- A marker comment under a tag: one or more `#`, blanks, the tag and what follows it. -/
def Written (tag text : List Char) (action : MarkerAction) (rules : List String) : Prop :=
  ∃ hashes blanks rest, text = hashes ++ (blanks ++ (tag ++ rest)) ∧ hashes ≠ [] ∧
    (∀ c ∈ hashes, c = '#') ∧ Blanks blanks ∧ Assignment rest action rules

/-! ## Characters between the parts -/

theorem isRuleChar_iff {c : Char} :
    isRuleChar c = true ↔ isWord c = true ∨ c = '.' ∨ c = '/' ∨ c = '-' := by
  simp [isRuleChar, or_assoc]

theorem isRuleChar_of_isBlank {c : Char} (blank : isBlank c = true) : isRuleChar c = false := by
  rw [isRuleChar, isWord_of_isBlank blank]
  have notSpecial : ∀ special : Char, isBlank special = false → (c == special) = false := by
    intro special notBlank
    apply beq_false_of_ne
    intro same
    subst same
    rw [blank] at notBlank
    contradiction
  rw [notSpecial '.' (by decide), notSpecial '/' (by decide), notSpecial '-' (by decide)]
  rfl

theorem isRule_iff {text : List Char} :
    IsRule text ↔ text ≠ [] ∧ ∀ c ∈ text, isRuleChar c = true := by
  simp only [IsRule, isRuleChar_iff]

instance (text : List Char) : Decidable (IsRule text) :=
  decidable_of_iff (text ≠ [] ∧ text.all isRuleChar = true) (by rw [isRule_iff, List.all_eq_true])

/-- Blanks before a character that is neither blank nor part of a rule id end a rule id. -/
theorem stopsRun_isRuleChar {blanks rest : List Char} (isBlanks : Blanks blanks)
    (stops : StopsRun isRuleChar rest) : StopsRun isRuleChar (blanks ++ rest) := by
  cases blanks with
  | nil => exact stops
  | cons c blanks => exact stopsRun_cons (isRuleChar_of_isBlank (isBlanks c (by simp))) _

theorem IsRemark.stopsRun {remark : List Char} (isRemark : IsRemark remark) :
    StopsRun isRuleChar remark ∧ StopsRun isBlank remark := by
  rcases isRemark with rfl | ⟨rest, rfl, -⟩
  · exact ⟨stopsRun_nil, stopsRun_nil⟩
  · exact ⟨stopsRun_cons (by decide) rest, stopsRun_cons (by decide) rest⟩

/-- A rule list begins with no blank. -/
theorem RuleList.stopsRun {ids : List Char} {rules : List String} (list : RuleList ids rules)
    (rest : List Char) : StopsRun isBlank (ids ++ rest) := by
  have ofRule : ∀ (rule following : List Char), IsRule rule →
      StopsRun isBlank (rule ++ following) := by
    intro rule following isRule
    obtain ⟨nonempty, ruleChars⟩ := isRule_iff.1 isRule
    cases rule with
    | nil => contradiction
    | cons c rule =>
        apply stopsRun_cons
        by_contra blank
        have notRuleChar := isRuleChar_of_isBlank (Bool.not_eq_false _ ▸ blank)
        rw [ruleChars c (by simp)] at notRuleChar
        contradiction
  cases list with
  | single isRule => exact ofRule _ _ isRule
  | more isRule _ _ _ =>
      rw [List.append_assoc, List.append_assoc]
      exact ofRule _ _ isRule

/-! ## Reading rule ids -/

/-- Reading rule ids, without the measure that shows it to end. -/
theorem readRules?_eq (text : List Char) :
    readRules? text =
      if (text.takeWhile isRuleChar).isEmpty then none
      else
        match (text.dropWhile isRuleChar).dropWhile isBlank with
        | [] => some [String.ofList (text.takeWhile isRuleChar)]
        | ',' :: rest =>
            (readRules? (rest.dropWhile isBlank)).map
              (String.ofList (text.takeWhile isRuleChar) :: ·)
        | '#' :: remark =>
            if '\n' ∈ remark then none else some [String.ofList (text.takeWhile isRuleChar)]
        | _ => none := by
  rw [readRules?]
  congr 1
  split
  next following => simp only [following]
  next following => simp only [following]
  next following => simp only [following]
  next notEnd notComma notRemark =>
    split
    next following => exact (notEnd following).elim
    next following => exact (notComma _ following).elim
    next following => exact (notRemark _ following).elim
    next => rfl

/-- A first rule id and the blanks after it are cut off. -/
theorem cut_run {rule blanks rest : List Char} (isRule : IsRule rule) (isBlanks : Blanks blanks)
    (stopsRule : StopsRun isRuleChar rest) (stopsBlank : StopsRun isBlank rest) :
    (rule ++ (blanks ++ rest)).takeWhile isRuleChar = rule ∧
      ((rule ++ (blanks ++ rest)).dropWhile isRuleChar).dropWhile isBlank = rest := by
  obtain ⟨-, ruleChars⟩ := isRule_iff.1 isRule
  have stops := stopsRun_isRuleChar isBlanks stopsRule
  refine ⟨takeWhile_run ruleChars stops, ?_⟩
  rw [dropWhile_run ruleChars stops, dropWhile_run isBlanks stopsBlank]

theorem readRules?_remark {rule blanks remark : List Char} (isRule : IsRule rule)
    (isBlanks : Blanks blanks) (isRemark : IsRemark remark) :
    readRules? (rule ++ (blanks ++ remark)) = some [String.ofList rule] := by
  obtain ⟨cutRule, cutBlanks⟩ :=
    cut_run isRule isBlanks isRemark.stopsRun.1 isRemark.stopsRun.2
  rw [readRules?_eq, cutRule, cutBlanks, List.isEmpty_eq_false_iff.2 isRule.1]
  rcases isRemark with rfl | ⟨rest, rfl, noLineFeed⟩
  · rfl
  · simp only [if_neg noLineFeed]
    rfl

theorem readRules?_comma {rule before after others : List Char} (isRule : IsRule rule)
    (blankBefore : Blanks before) (blankAfter : Blanks after) (stops : StopsRun isBlank others) :
    readRules? (rule ++ (before ++ ',' :: (after ++ others))) =
      (readRules? others).map (String.ofList rule :: ·) := by
  obtain ⟨cutRule, cutBlanks⟩ := cut_run isRule blankBefore
    (stopsRun_cons (by decide) (after ++ others)) (stopsRun_cons (c := ',') (by decide) _)
  rw [readRules?_eq, cutRule, cutBlanks, List.isEmpty_eq_false_iff.2 isRule.1]
  simp only [dropWhile_run blankAfter stops]
  rfl

/-- A rule list is read as it was written. -/
theorem readRules?_complete {ids blanks remark : List Char} {rules : List String}
    (list : RuleList ids rules) (isBlanks : Blanks blanks) (isRemark : IsRemark remark) :
    readRules? (ids ++ (blanks ++ remark)) = some rules := by
  induction list with
  | single isRule => exact readRules?_remark isRule isBlanks isRemark
  | more isRule blankBefore blankAfter rest inductionHypothesis =>
      simp only [List.append_assoc, List.cons_append]
      rw [readRules?_comma isRule blankBefore blankAfter (rest.stopsRun _), inductionHypothesis]
      rfl

theorem split_run (text : List Char) :
    ∃ blanks, Blanks blanks ∧ text = text.takeWhile isRuleChar ++ (blanks ++
      (text.dropWhile isRuleChar).dropWhile isBlank) := by
  refine ⟨(text.dropWhile isRuleChar).takeWhile isBlank, forall_mem_takeWhile _, ?_⟩
  rw [List.takeWhile_append_dropWhile, List.takeWhile_append_dropWhile]

/-- Rule ids that are read stand in the text as a list of them. -/
theorem readRules?_sound {text : List Char} {rules : List String}
    (read : readRules? text = some rules) : Listed text rules := by
  have isRule : ∀ text : List Char, ¬ (text.takeWhile isRuleChar).isEmpty = true →
      IsRule (text.takeWhile isRuleChar) := by
    intro text nonempty
    exact isRule_iff.2 ⟨fun empty => nonempty (List.isEmpty_iff.2 empty), forall_mem_takeWhile text⟩
  fun_induction readRules? text generalizing rules
  case case1 => contradiction
  case case2 text rule nonempty following =>
    obtain rfl := Option.some.inj read
    obtain ⟨blanks, isBlanks, split⟩ := split_run text
    rw [following] at split
    exact ⟨_, blanks, [], split, .single (isRule text nonempty), isBlanks, Or.inl rfl⟩
  case case3 text rule nonempty others following inductionHypothesis =>
    obtain ⟨rest, readRest, rfl⟩ := Option.map_eq_some_iff.1 read
    obtain ⟨ids, blanks, remark, splitRest, list, isBlanks, isRemark⟩ :=
      inductionHypothesis readRest
    obtain ⟨before, blankBefore, split⟩ := split_run text
    have splitOthers : others =
        others.takeWhile isBlank ++ (ids ++ (blanks ++ remark)) := by
      rw [← splitRest, List.takeWhile_append_dropWhile]
    rw [following, splitOthers] at split
    refine ⟨_, blanks, remark, ?_, .more (isRule text nonempty) blankBefore
      (forall_mem_takeWhile others) list, isBlanks, isRemark⟩
    simpa using split
  case case4 => contradiction
  case case5 text rule nonempty remark following noLineFeed =>
    obtain rfl := Option.some.inj read
    obtain ⟨blanks, isBlanks, split⟩ := split_run text
    rw [following] at split
    exact ⟨_, blanks, '#' :: remark, split, .single (isRule text nonempty), isBlanks,
      Or.inr ⟨remark, rfl, noLineFeed⟩⟩
  case case6 => contradiction

/-- Rule ids are read exactly from what the grammar lists. -/
theorem readRules?_eq_some_iff {text : List Char} {rules : List String} :
    readRules? text = some rules ↔ Listed text rules := by
  constructor
  · exact readRules?_sound
  · intro listed
    obtain ⟨ids, blanks, remark, rfl, list, isBlanks, isRemark⟩ := listed
    exact readRules?_complete list isBlanks isRemark

/-! ## Reading what follows the tag -/

theorem readAction?_eq_some_iff {text rest : List Char} {action : MarkerAction} :
    readAction? text = some (action, rest) ↔ text = action.label.toList ++ rest := by
  unfold readAction?
  constructor
  · intro read
    split at read
    next found =>
      obtain ⟨rfl, rfl⟩ := Prod.mk.inj (Option.some.inj read)
      exact isPrefixOf?_eq_some_iff.1 found
    next =>
      obtain ⟨_, found, same⟩ := Option.map_eq_some_iff.1 read
      obtain ⟨rfl, rfl⟩ := Prod.mk.inj same
      exact isPrefixOf?_eq_some_iff.1 found
  · intro split
    subst split
    cases action <;> rfl

theorem split_blanks (text : List Char) :
    ∃ blanks, Blanks blanks ∧ text = blanks ++ text.dropWhile isBlank := by
  refine ⟨text.takeWhile isBlank, forall_mem_takeWhile text, ?_⟩
  rw [List.takeWhile_append_dropWhile]

theorem stopsRun_label (action : MarkerAction) (rest : List Char) :
    StopsRun isBlank (action.label.toList ++ rest) := by
  cases action with
  | disable => exact stopsRun_cons (by decide) _
  | enable => exact stopsRun_cons (by decide) _

theorem Listed.stopsRun {text : List Char} {rules : List String} (listed : Listed text rules) :
    StopsRun isBlank text := by
  obtain ⟨ids, blanks, remark, rfl, list, -, -⟩ := listed
  exact list.stopsRun _

theorem readAssignment?_sound {text : List Char} {action : MarkerAction} {rules : List String}
    (read : readAssignment? text = some (action, rules)) : Assignment text action rules := by
  unfold readAssignment? at read
  split at read
  next afterColon colon =>
    split at read
    next _ afterAction foundAction =>
      split at read
      next afterEquals equals =>
        obtain ⟨_, readRules, same⟩ := Option.map_eq_some_iff.1 read
        obtain ⟨rfl, rfl⟩ := Prod.mk.inj same
        obtain ⟨beforeColon, blankColon, splitColon⟩ := split_blanks text
        obtain ⟨beforeAction, blankAction, splitAction⟩ := split_blanks afterColon
        obtain ⟨beforeEquals, blankEquals, splitEquals⟩ := split_blanks afterAction
        obtain ⟨beforeRules, blankRules, splitRules⟩ := split_blanks afterEquals
        rw [colon] at splitColon
        rw [readAction?_eq_some_iff.1 foundAction] at splitAction
        rw [equals] at splitEquals
        refine ⟨beforeColon, beforeAction, beforeEquals, beforeRules, _, ?_, blankColon,
          blankAction, blankEquals, blankRules, readRules?_eq_some_iff.1 readRules⟩
        rw [← splitRules, ← splitEquals, ← splitAction, ← splitColon]
      next => contradiction
    next => contradiction
  next => contradiction

theorem readAssignment?_complete {text : List Char} {action : MarkerAction} {rules : List String}
    (assignment : Assignment text action rules) :
    readAssignment? text = some (action, rules) := by
  obtain ⟨beforeColon, beforeAction, beforeEquals, beforeRules, list, rfl, blankColon, blankAction,
    blankEquals, blankRules, listed⟩ := assignment
  have atColon := dropWhile_run blankColon (stopsRun_cons (c := ':') (by decide) (beforeAction ++
    (action.label.toList ++ (beforeEquals ++ '=' :: (beforeRules ++ list)))))
  have atAction := dropWhile_run blankAction (stopsRun_label action (beforeEquals ++
    '=' :: (beforeRules ++ list)))
  have atEquals := dropWhile_run blankEquals
    (stopsRun_cons (c := '=') (by decide) (beforeRules ++ list))
  have atRules := dropWhile_run blankRules listed.stopsRun
  have readAction : readAction? (action.label.toList ++ (beforeEquals ++
      '=' :: (beforeRules ++ list))) =
        some (action, beforeEquals ++ '=' :: (beforeRules ++ list)) :=
    readAction?_eq_some_iff.2 rfl
  have readRules := readRules?_eq_some_iff.2 listed
  simp only [readAssignment?, atColon, atAction, readAction, atEquals, atRules, readRules]
  rfl

/-- What follows the tag is read exactly by the grammar. -/
theorem readAssignment?_eq_some_iff {text : List Char} {action : MarkerAction}
    {rules : List String} :
    readAssignment? text = some (action, rules) ↔ Assignment text action rules :=
  ⟨readAssignment?_sound, readAssignment?_complete⟩

end Annotations.Marker
