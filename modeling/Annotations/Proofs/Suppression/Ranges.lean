import Annotations.Proofs.Order
import Annotations.Proofs.Suppression.Fold

/-!
Contract: the ranges that tracking gives a rule, as a list.

The recursion `ruleRanges` gives its ranges from top to bottom: each starts on a
line of a marker and, the last one apart, ends on a line of the next marker that
counts. So whatever relates the lines of markers, in the order in which they are
read, relates the end of each range to the start of the ranges after it. Since
the markers are read by line, sorting the ranges of a rule changes nothing.

Owns:
- the bounds of the ranges of a rule, and the order they stand in;
- `rangesOf`, the list that a rule has in the result of tracking, and
  `tabulates_rangesOf`, that these lists make up the result;
- `exists_areApart`, that ranges do not even touch where comments share no line.

Does not own: which lines the ranges cover; see
`Annotations.Proofs.Suppression.Coverage`.
-/

namespace Annotations.Suppressions

/-! ## Where ranges start and end -/

theorem closedBy_eq_some_iff {opened : Option Line} {marker : Marker} {range : DisabledRange} :
    closedBy opened marker = some range ↔
      marker.action = .enable ∧ opened = some range.startLine ∧ marker.line = range.endLine := by
  unfold closedBy
  cases range
  cases action : marker.action <;> simp

theorem openedAfter_eq_some_iff {opened : Option Line} {marker : Marker} {start : Line} :
    openedAfter opened marker = some start ↔
      marker.action = .disable ∧ (opened = some start ∨ opened = none ∧ marker.line = start) := by
  unfold openedAfter
  cases opened <;> cases action : marker.action <;> simp

/-- A range starts on the line that opened the rule before, or on that of a marker. -/
theorem start_of_mem_ruleRanges {endLine : Line} {opened : Option Line} {markers : List Marker}
    {range : DisabledRange} (isRange : range ∈ ruleRanges endLine opened markers) :
    opened = some range.startLine ∨ ∃ marker ∈ markers, marker.line = range.startLine := by
  induction markers generalizing opened with
  | nil =>
      cases opened with
      | none => contradiction
      | some start =>
          obtain rfl := List.mem_singleton.1 isRange
          exact Or.inl rfl
  | cons marker rest inductionHypothesis =>
      rw [ruleRanges_cons, List.mem_append, Option.mem_toList] at isRange
      rcases isRange with closed | later
      · exact Or.inl (closedBy_eq_some_iff.1 closed).2.1
      · rcases inductionHypothesis later with isOpen | ⟨other, isOther, here⟩
        · rcases (openedAfter_eq_some_iff.1 isOpen).2 with wasOpen | ⟨-, here⟩
          · exact Or.inl wasOpen
          · exact Or.inr ⟨marker, by simp, here⟩
        · exact Or.inr ⟨other, List.mem_cons_of_mem marker isOther, here⟩

/-- Ranges are proper if what is open was opened above all markers, which stand on lines and are
read in their order. -/
theorem isValid_of_mem_ruleRanges {endLine : Line} {opened : Option Line} {markers : List Marker}
    (sorted : markers.Pairwise fun left right => left.line ≤ right.line)
    (openedBefore : ∀ start, opened = some start →
      1 ≤ start ∧ ∀ marker ∈ markers, start ≤ marker.line)
    (areLines : ∀ marker ∈ markers, 1 ≤ marker.line) {range : DisabledRange}
    (isRange : range ∈ ruleRanges endLine opened markers) : range.IsValid := by
  induction markers generalizing opened with
  | nil =>
      cases opened with
      | none => contradiction
      | some start =>
          obtain rfl := List.mem_singleton.1 isRange
          exact ⟨(openedBefore start rfl).1, Int.le_max_left start endLine⟩
  | cons marker rest inductionHypothesis =>
      rw [List.pairwise_cons] at sorted
      rw [List.forall_mem_cons] at areLines
      rw [ruleRanges_cons, List.mem_append, Option.mem_toList] at isRange
      rcases isRange with closed | later
      · obtain ⟨-, wasOpen, here⟩ := closedBy_eq_some_iff.1 closed
        obtain ⟨isLine, above⟩ := openedBefore range.startLine wasOpen
        exact ⟨isLine, here ▸ above marker (by simp)⟩
      · refine inductionHypothesis sorted.2 ?_ areLines.2 later
        intro start isOpen
        rcases (openedAfter_eq_some_iff.1 isOpen).2 with wasOpen | ⟨-, rfl⟩
        · exact ⟨(openedBefore start wasOpen).1, fun other isOther =>
            (openedBefore start wasOpen).2 other (List.mem_cons_of_mem marker isOther)⟩
        · exact ⟨areLines.1, sorted.1⟩

/-- No range ends below the last of the lines it can be made of. -/
theorem end_le_of_mem_ruleRanges {endLine lastLine : Line} {opened : Option Line}
    {markers : List Marker} (openedInside : ∀ start, opened = some start → start ≤ lastLine)
    (inside : ∀ marker ∈ markers, marker.line ≤ lastLine) (endInside : endLine ≤ lastLine)
    {range : DisabledRange} (isRange : range ∈ ruleRanges endLine opened markers) :
    range.endLine ≤ lastLine := by
  induction markers generalizing opened with
  | nil =>
      cases opened with
      | none => contradiction
      | some start =>
          obtain rfl := List.mem_singleton.1 isRange
          exact Int.max_le.2 ⟨openedInside start rfl, endInside⟩
  | cons marker rest inductionHypothesis =>
      rw [List.forall_mem_cons] at inside
      rw [ruleRanges_cons, List.mem_append, Option.mem_toList] at isRange
      rcases isRange with closed | later
      · exact (closedBy_eq_some_iff.1 closed).2.2 ▸ inside.1
      · refine inductionHypothesis ?_ inside.2 later
        intro start isOpen
        rcases (openedAfter_eq_some_iff.1 isOpen).2 with wasOpen | ⟨-, rfl⟩
        · exact openedInside start wasOpen
        · exact inside.1

/-- What relates the lines of markers in reading order relates the end of a range to the start of
each range after it. -/
theorem pairwise_ruleRanges {related : Line → Line → Prop} {endLine : Line} {opened : Option Line}
    {markers : List Marker}
    (inOrder : markers.Pairwise fun left right => related left.line right.line) :
    (ruleRanges endLine opened markers).Pairwise fun left right =>
      related left.endLine right.startLine := by
  induction markers generalizing opened with
  | nil => cases opened <;> simp [ruleRanges]
  | cons marker rest inductionHypothesis =>
      rw [List.pairwise_cons] at inOrder
      rw [ruleRanges_cons, List.pairwise_append]
      refine ⟨by cases closedBy opened marker <;> simp, inductionHypothesis inOrder.2, ?_⟩
      intro range isClosed later isLater
      obtain ⟨closes, -, here⟩ := closedBy_eq_some_iff.1 (Option.mem_toList.1 isClosed)
      rcases start_of_mem_ruleRanges isLater with isOpen | ⟨other, isOther, start⟩
      · -- A marker that closes a range leaves nothing open.
        have opens := (openedAfter_eq_some_iff.1 isOpen).1
        rw [closes] at opens
        contradiction
      · rw [← here, ← start]
        exact inOrder.1 other isOther

/-! ## The result of tracking -/

/-- Proper ranges each of which ends before the next ones start stand in ascending order. -/
theorem mergeSort_eq_of_separated {ranges : List DisabledRange}
    (valid : ∀ range ∈ ranges, range.IsValid)
    (separated : ranges.Pairwise fun left right => left.endLine ≤ right.startLine) :
    (ranges.mergeSort fun left right => (compare left right).isLE) = ranges := by
  apply List.mergeSort_of_pairwise
  refine separated.imp_of_mem ?_
  intro left right isLeft isRight (apart : left.endLine ≤ right.startLine)
  have ascending : left.startLine ≤ right.startLine := Int.le_trans (valid left isLeft).2 apart
  have endsLater : left.endLine ≤ right.endLine := Int.le_trans apart (valid right isRight).2
  show ((compare left.startLine right.startLine).then
    (compare left.endLine right.endLine)).isLE = true
  rcases Int.lt_or_eq_of_le ascending with below | same
  · rw [Int.compare_eq_lt.2 below]
    rfl
  · rw [Int.compare_eq_eq.2 same]
    exact Int.isLE_compare.2 endsLater

theorem pairwise_markersOf (rule : String) (markers : List Marker) :
    (markersOf rule (sortByLine Marker.line markers)).Pairwise
      fun left right => left.line ≤ right.line :=
  (pairwise_sortByLine Marker.line markers).filter _

theorem isValid_of_mem_rule {rule : String} {markers : List Marker} {endLine : Line}
    {range : DisabledRange} (isRange : range ∈ ruleRanges endLine none
      (markersOf rule (sortByLine Marker.line markers))) : range.IsValid :=
  isValid_of_mem_ruleRanges (pairwise_markersOf rule markers) (by simp)
    (fun _ isMarker => (mem_markersOf_iff.1 isMarker).2.2) isRange

/-- The ranges of a rule, as its own markers leave them in line order. -/
def rangesOf (markers : List Marker) (lastLine : Line) (rule : String) : List DisabledRange :=
  ruleRanges (max lastLine 1) none (markersOf rule (sortByLine Marker.line markers))

/-- Tracking lists each rule with the ranges of its own markers, in their order. -/
theorem tabulates_rangesOf (markers : List Marker) (lastLine : Line) :
    Tabulates (rangesOf markers lastLine)
      (groupByRule ((finalProgress markers).filed lastLine)) := by
  have sorted : ∀ rule, ((under rule ((finalProgress markers).filed lastLine)).mergeSort
      fun left right => (compare left right).isLE) = rangesOf markers lastLine rule := by
    intro rule
    have atEnd : under rule ((finalProgress markers).filed lastLine) =
        rangesOf markers lastLine rule :=
      under_filed_foldl rule lastLine (sortByLine Marker.line markers) ⟨[], []⟩ List.nodup_nil
    rw [atEnd]
    exact mergeSort_eq_of_separated (fun _ isRange => isValid_of_mem_rule isRange)
      (pairwise_ruleRanges (pairwise_markersOf rule markers))
  exact funext sorted ▸ tabulates_groupByRule ((finalProgress markers).filed lastLine)

/-- Tracking depends on the ranges of each rule alone. -/
theorem track_eq_of_rangesOf_eq {left right : List Marker} {lastLine : Line}
    (same : rangesOf left lastLine = rangesOf right lastLine) :
    track left lastLine = track right lastLine := by
  rw [track_eq, track_eq]
  exact congrArg _ ((tabulates_rangesOf left lastLine).unique
    (same ▸ tabulates_rangesOf right lastLine))

/-- In the result of tracking a rule has the ranges of its own markers, in their order. -/
theorem eq_ruleRanges_of_mem {markers : List Marker} {lastLine : Line}
    {entry : String × List DisabledRange}
    (isEntry : entry ∈ groupByRule ((finalProgress markers).filed lastLine)) :
    entry.2 = ruleRanges (max lastLine 1) none
      (markersOf entry.1 (sortByLine Marker.line markers)) :=
  (((tabulates_rangesOf markers lastLine).mem_iff entry).1 isEntry).1

/-- All ranges of the result of tracking are proper. -/
theorem isValid_of_mem_track {markers : List Marker} {lastLine : Line}
    {entry : String × List DisabledRange}
    (isEntry : entry ∈ groupByRule ((finalProgress markers).filed lastLine)) :
    ∀ range ∈ entry.2, range.IsValid := by
  rw [eq_ruleRanges_of_mem isEntry]
  exact fun _ isRange => isValid_of_mem_rule isRange

/-! ## Comments on lines of their own -/

/-- Each rule of a map has ranges. They are proper, end by the last line, and share no line. -/
structure AreApart (ranges : SuppressionMap) (lastLine : Line) : Prop where
  rules : (ranges.map Prod.fst).Nodup
  nonempty : ∀ entry ∈ ranges, entry.2 ≠ []
  proper : ∀ entry ∈ ranges, ∀ range ∈ entry.2, range.IsValid ∧ range.endLine ≤ lastLine
  apart : ∀ entry ∈ ranges, entry.2.Pairwise fun left right => left.endLine < right.startLine

theorem line_of_mem_ofComment {tag : String} {comment : Comment} {marker : Marker}
    (isMarker : marker ∈ Marker.ofComment tag comment) : marker.line = comment.line := by
  unfold Marker.ofComment at isMarker
  split at isMarker
  · obtain ⟨rule, -, rfl⟩ := List.mem_map.1 isMarker
    rfl
  · contradiction

theorem pairwise_ofComment (tag : String) (comment : Comment) :
    (Marker.ofComment tag comment).Pairwise fun left right => left.rule ≠ right.rule := by
  unfold Marker.ofComment
  split
  · exact List.pairwise_map.2 (nodup_eraseDups _)
  · exact List.Pairwise.nil

/-- Where no two comments share a line, no two markers share both their line and their rule. -/
theorem pairwise_markers (tracker : Tracker) {comments : List Comment}
    (ascending : comments.Pairwise fun left right => left.line < right.line) :
    (tracker.markers comments).Pairwise fun left right =>
      left.line ≤ right.line ∧ (left.rule = right.rule → left.line < right.line) := by
  have inOrder : sortByLine Comment.line comments = comments :=
    sortByLine_of_pairwise Comment.line (ascending.imp Int.le_of_lt)
  unfold Tracker.markers
  rw [inOrder]
  refine List.Pairwise.filter _ (List.pairwise_flatMap.2 ⟨?_, ?_⟩)
  · intro comment _
    refine (pairwise_ofComment tracker.tag comment).imp_of_mem ?_
    intro left right isLeft isRight otherRule
    have sameLine := (line_of_mem_ofComment isLeft).trans (line_of_mem_ofComment isRight).symm
    exact ⟨Int.le_of_eq sameLine, fun sameRule => absurd sameRule otherRule⟩
  · refine ascending.imp ?_
    intro first second below left isLeft right isRight
    rw [line_of_mem_ofComment isLeft, line_of_mem_ofComment isRight]
    exact ⟨Int.le_of_lt below, fun _ => below⟩

/-- A unit whose comments stand on lines of their own inside it has ranges inside it that lie
apart. -/
theorem exists_areApart (tracker : Tracker) {unit : SourceUnit} (hasLine : 1 ≤ unit.lineCount)
    (inside : ∀ comment ∈ unit.comments, comment.line ≤ unit.lineCount)
    (ascending : unit.comments.Pairwise fun left right => left.line < right.line) :
    ∃ ranges, tracker.processUnit unit = .ok ranges ∧ AreApart ranges unit.lineCount := by
  refine ⟨_, track_eq _ _, nodup_rules_groupByRule _, fun _ => ne_nil_of_mem_groupByRule, ?_, ?_⟩
  · intro entry isEntry range isRange
    refine ⟨isValid_of_mem_track isEntry range isRange, ?_⟩
    rw [eq_ruleRanges_of_mem isEntry, Int.max_eq_left hasLine] at isRange
    refine end_le_of_mem_ruleRanges (by simp) ?_ (Int.le_refl _) isRange
    intro marker isMarker
    have isFound := (List.mem_filter.1 (mem_markersOf_iff.1 isMarker).1).1
    obtain ⟨comment, isComment, ofComment⟩ := List.mem_flatMap.1 isFound
    rw [line_of_mem_ofComment ofComment]
    exact inside comment ((mem_sortByLine Comment.line).1 isComment)
  · intro entry isEntry
    have markersApart := pairwise_markers tracker ascending
    have inOrder : sortByLine Marker.line (tracker.markers unit.comments) =
        tracker.markers unit.comments := by
      apply List.mergeSort_of_pairwise
      exact markersApart.imp fun both => decide_eq_true both.1
    rw [eq_ruleRanges_of_mem isEntry, inOrder]
    apply pairwise_ruleRanges
    refine (markersApart.filter _).imp_of_mem ?_
    intro left right isLeft isRight both
    have leftRule : left.rule = entry.1 := by simp_all
    have rightRule : right.rule = entry.1 := by simp_all
    exact both.2 (leftRule.trans rightRule.symm)

end Annotations.Suppressions
