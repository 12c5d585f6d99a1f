import Annotations.Render
import Annotations.Proofs.Marker.Recognition
import Annotations.Proofs.Sorting
import Annotations.Proofs.Text.Numeral

/-!
Contract: what the lines of a suppression report tell.

A line names a rule, a unit and a range. The identifier of a unit is an arbitrary
text, which may look like any part of a line, and yet each part can be found. A
rule id has no blanks, so the first blank after it ends it. A range in words has
no comma, so the last comma of the line ends the identifier.

Owns:

- `DisabledRange.describe_inj`, that proper ranges differ in words;
- `Render.suppressionLine_inj` and `Render.suppressions_unambiguous`, that entries
  differ in their lines.
-/

namespace Annotations

open Text

/-! ## Ranges in words -/

namespace DisabledRange

theorem toList_describe_of_eq {range : DisabledRange} (single : range.startLine = range.endLine) :
    range.describe.toList = "line ".toList ++ (toString range.startLine).toList := by
  unfold describe
  rw [if_pos single]
  exact String.toList_append

theorem toList_describe_of_ne {range : DisabledRange} (several : range.startLine ≠ range.endLine) :
    range.describe.toList =
      "lines ".toList ++
        ((toString range.startLine).toList ++ '-' :: (toString range.endLine).toList) := by
  unfold describe
  rw [if_neg several]
  simp [toString]

theorem comma_not_mem_describe (range : DisabledRange) : ',' ∉ range.describe.toList := by
  have notNumeral : ∀ line : Line, ',' ∉ (toString line).toList := by
    intro line isPart
    have isNumeral := isNumeral_of_mem_toString line ',' isPart
    contradiction
  by_cases single : range.startLine = range.endLine
  · rw [toList_describe_of_eq single, List.mem_append, not_or]
    exact ⟨by decide, notNumeral range.startLine⟩
  · rw [toList_describe_of_ne single]
    simp only [List.mem_append, List.mem_cons, not_or]
    exact ⟨by decide, notNumeral range.startLine, by decide, notNumeral range.endLine⟩

/-- Two proper ranges in the same words are one range. -/
theorem describe_inj {range other : DisabledRange} (valid : range.IsValid)
    (otherValid : other.IsValid) (same : range.describe.toList = other.describe.toList) :
    range = other := by
  have startNonneg : 0 ≤ range.startLine := Int.le_trans (by decide) valid.1
  have otherNonneg : 0 ≤ other.startLine := Int.le_trans (by decide) otherValid.1
  have byLines : range.startLine = other.startLine → range.endLine = other.endLine →
      range = other := congrArg₂ DisabledRange.mk
  by_cases single : range.startLine = range.endLine
  · rw [toList_describe_of_eq single] at same
    by_cases otherSingle : other.startLine = other.endLine
    · rw [toList_describe_of_eq otherSingle] at same
      have sameStart := toString_inj (List.append_cancel_left same)
      exact byLines sameStart (single ▸ otherSingle ▸ sameStart)
    · rw [toList_describe_of_ne otherSingle] at same
      simp at same
  · rw [toList_describe_of_ne single] at same
    by_cases otherSingle : other.startLine = other.endLine
    · rw [toList_describe_of_eq otherSingle] at same
      simp at same
    · rw [toList_describe_of_ne otherSingle] at same
      -- A proper range starts with a numeral that has no hyphen, so the first hyphen separates.
      obtain ⟨sameStart, sameRest⟩ := append_inj_of_run (isDigit_of_mem_toString startNonneg)
        (stopsRun_cons (by decide) _) (isDigit_of_mem_toString otherNonneg)
        (stopsRun_cons (by decide) _) (List.append_cancel_left same)
      exact byLines (toString_inj sameStart) (toString_inj (List.cons.inj sameRest).2)

end DisabledRange

/-! ## Rule ids -/

def IsUnbroken (rule : String) : Prop :=
  ∀ c ∈ rule.toList, isBlank c = false

instance (rule : String) : Decidable (IsUnbroken rule) :=
  List.decidableBAll (fun c => isBlank c = false) rule.toList

namespace Marker

theorem IsRule.isUnbroken {rule : List Char} (isRule : IsRule rule) :
    IsUnbroken (String.ofList rule) := by
  intro c isPart
  rw [String.toList_ofList] at isPart
  rw [← Bool.not_eq_true]
  intro blank
  have notRuleChar := isRuleChar_of_isBlank blank
  rw [(isRule_iff.1 isRule).2 c isPart] at notRuleChar
  contradiction

theorem RuleList.isUnbroken {ids : List Char} {rules : List String} (list : RuleList ids rules) :
    ∀ rule ∈ rules, IsUnbroken rule := by
  induction list with
  | single isRule => simpa using isRule.isUnbroken
  | more isRule _ _ _ inductionHypothesis =>
      exact List.forall_mem_cons.2 ⟨isRule.isUnbroken, inductionHypothesis⟩

/-- The rule ids that comments are read for have no blanks. -/
theorem isUnbroken_of_mem_ofComment {tag : String} {comment : Comment} {marker : Marker}
    (isMarker : marker ∈ ofComment tag comment) : IsUnbroken marker.rule := by
  unfold ofComment at isMarker
  split at isMarker
  next action rules read =>
    obtain ⟨rule, isRule, rfl⟩ := List.mem_map.1 isMarker
    obtain ⟨_, _, _, -, -, -, -, assignment⟩ := read?_sound read
    obtain ⟨_, _, _, _, _, -, -, -, -, -, listed⟩ := assignment
    obtain ⟨_, _, _, -, list, -⟩ := listed
    exact list.isUnbroken rule (List.mem_eraseDups.1 isRule)
  · contradiction

end Marker

/-! ## Lines -/

namespace Render

theorem toList_suppressionLine (rule : String) (entry : ReportEntry) :
    (suppressionLine rule entry).toList =
      "rule ".toList ++ (rule.toList ++ (" disabled in unit ".toList ++
        (entry.unitId.toList ++ ',' :: ' ' :: entry.range.describe.toList))) := by
  simp [suppressionLine, toString]

/-- Two entries with the same line are one entry of one rule. -/
theorem suppressionLine_inj {rule other : String} {entry otherEntry : ReportEntry}
    (unbroken : IsUnbroken rule) (otherUnbroken : IsUnbroken other)
    (valid : entry.range.IsValid) (otherValid : otherEntry.range.IsValid)
    (same : suppressionLine rule entry = suppressionLine other otherEntry) :
    rule = other ∧ entry = otherEntry := by
  have characters := congrArg String.toList same
  rw [toList_suppressionLine, toList_suppressionLine] at characters
  have noBlank : ∀ {id : String}, IsUnbroken id → ∀ c ∈ id.toList, (!isBlank c) = true := by
    intro id isUnbroken c isPart
    rw [isUnbroken c isPart]
    rfl
  have stops : ∀ rest : List Char,
      StopsRun (fun c => !isBlank c) (" disabled in unit ".toList ++ rest) :=
    fun rest => stopsRun_cons (by decide) _
  obtain ⟨sameRule, afterRule⟩ := append_inj_of_run (noBlank unbroken) (stops _)
    (noBlank otherUnbroken) (stops _) (List.append_cancel_left characters)
  have noComma : ∀ range : DisabledRange, ',' ∉ ' ' :: range.describe.toList := by
    intro range
    simp [range.comma_not_mem_describe]
  obtain ⟨sameUnit, sameRange⟩ := append_cons_inj_of_not_mem (noComma entry.range)
    (noComma otherEntry.range) (List.append_cancel_left afterRule)
  have sameWords := DisabledRange.describe_inj valid otherValid (List.cons.inj sameRange).2
  exact ⟨String.toList_injective sameRule,
    congrArg₂ ReportEntry.mk (String.toList_injective sameUnit) sameWords⟩

theorem suppressions_eq_map (mapping : ReportMapping) :
    suppressions mapping =
      (unfiled mapping).map fun filed => suppressionLine filed.1 filed.2 := by
  simp [suppressions, unfiled, List.map_flatMap, Function.comp_def]

/-- The rules of a report have no blanks, and its ranges are proper. -/
def IsReadable (mapping : ReportMapping) : Prop :=
  ∀ filed ∈ unfiled mapping, IsUnbroken filed.1 ∧ filed.2.range.IsValid

instance (mapping : ReportMapping) : Decidable (IsReadable mapping) :=
  List.decidableBAll
    (fun filed : String × ReportEntry => IsUnbroken filed.1 ∧ filed.2.range.IsValid)
    (unfiled mapping)

/-- The line of a report tells its entry. The rule ids that comments are read for have no blanks.
Where that holds of two reports, and their ranges are proper, a line of both stands in both for one
entry of one rule, whatever text identifies its unit. -/
theorem suppressions_unambiguous :
    (∀ (tag : String) (comment : Comment), ∀ marker ∈ Marker.ofComment tag comment,
      IsUnbroken marker.rule) ∧
    ∀ left right : ReportMapping, IsReadable left → IsReadable right →
      ∀ (i j : Nat) (line : String),
        (suppressions left)[i]? = some line → (suppressions right)[j]? = some line →
          ∃ (rule : String) (entry : ReportEntry),
            (unfiled left)[i]? = some (rule, entry) ∧ (unfiled right)[j]? = some (rule, entry) := by
  constructor
  · intro tag comment marker isMarker
    exact Marker.isUnbroken_of_mem_ofComment isMarker
  · intro left right readable otherReadable i j line shown otherShown
    rw [suppressions_eq_map, List.getElem?_map, Option.map_eq_some_iff] at shown otherShown
    obtain ⟨filed, isFiled, isLine⟩ := shown
    obtain ⟨other, isOther, isOtherLine⟩ := otherShown
    obtain ⟨unbroken, valid⟩ := readable filed (List.mem_of_getElem? isFiled)
    obtain ⟨otherUnbroken, otherValid⟩ := otherReadable other (List.mem_of_getElem? isOther)
    have same : filed = other := by
      obtain ⟨sameRule, sameEntry⟩ := suppressionLine_inj unbroken otherUnbroken valid otherValid
        (isLine.trans isOtherLine.symm)
      exact Prod.ext sameRule sameEntry
    exact ⟨filed.1, filed.2, isFiled, same ▸ isOther⟩

/-- A unit whose identifier looks like the end of a line, in the reports of two runs. -/
theorem suppressions_unambiguous_of_imitation :
    let entry : ReportEntry := ⟨"b disabled in unit c, lines 1-2", ⟨3, 3⟩⟩
    let left : ReportMapping := [("E1", [⟨"b", ⟨1, 2⟩⟩]), ("E2", [entry])]
    let right : ReportMapping := [("E2", [entry])]
    IsReadable left ∧ IsReadable right ∧
      (suppressions left)[1]? =
        some "rule E2 disabled in unit b disabled in unit c, lines 1-2, line 3" ∧
      (suppressions left)[1]? = (suppressions right)[0]? ∧
      ∃ (rule : String) (entry : ReportEntry),
        (unfiled left)[1]? = some (rule, entry) ∧ (unfiled right)[0]? = some (rule, entry) := by
  intro entry left right
  have readable : IsReadable left := by decide
  have otherReadable : IsReadable right := by decide
  have shown : (suppressions left)[1]? =
      some "rule E2 disabled in unit b disabled in unit c, lines 1-2, line 3" := by decide +kernel
  have otherShown : (suppressions right)[0]? =
      some "rule E2 disabled in unit b disabled in unit c, lines 1-2, line 3" := by decide +kernel
  exact ⟨readable, otherReadable, shown, shown.trans otherShown.symm,
    suppressions_unambiguous.2 left right readable otherReadable 1 0 _ shown otherShown⟩

end Render

end Annotations
