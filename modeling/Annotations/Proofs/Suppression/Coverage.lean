import Annotations.Proofs.Suppression.Fold

/-!
Contract: the lines over which a rule is disabled.

The recursion `ruleRanges` remembers the line that opened a rule. What that
memory means for a line further down is `ActiveBefore`: the last marker on an
earlier line decides, and without one the rule is disabled if it was opened by
then. A range ends on the line of the marker that closes it, so a marker on the
line itself can extend what is covered, but never shorten it.

Owns:

- `track_covers_iff`, which lines of a unit the ranges of a rule cover.
-/

namespace Annotations.Suppressions

/-- The rule is disabled where a line begins: the last of the markers on earlier lines disables it
or, without such a marker, it was opened no later than that line. -/
def ActiveBefore (line : Line) (opened : Option Line) (markers : List Marker) : Prop :=
  match (markers.filter fun marker => decide (marker.line < line)).getLast? with
  | some marker => marker.action = .disable
  | none => ∃ start, opened = some start ∧ start ≤ line

/-- Where all markers stand on the line or below it, none of them matters. -/
theorem activeBefore_of_below {line : Line} {opened : Option Line} {markers : List Marker}
    (below : ∀ marker ∈ markers, line ≤ marker.line) :
    ActiveBefore line opened markers ↔ ∃ start, opened = some start ∧ start ≤ line := by
  have noneEarlier : markers.filter (fun marker => decide (marker.line < line)) = [] := by
    rw [List.filter_eq_nil_iff]
    intro marker isMarker
    rw [decide_eq_true_eq]
    exact Int.not_lt.2 (below marker isMarker)
  unfold ActiveBefore
  rw [noneEarlier]
  rfl

/-- A marker on an earlier line matters through what it leaves open. -/
theorem activeBefore_cons_of_earlier {line : Line} {opened : Option Line} {marker : Marker}
    {rest : List Marker} (earlier : marker.line < line)
    (openedBefore : ∀ start, opened = some start → start ≤ marker.line) :
    ActiveBefore line opened (marker :: rest) ↔
      ActiveBefore line (openedAfter opened marker) rest := by
  unfold ActiveBefore
  rw [List.filter_cons_of_pos (by simpa using earlier), List.getLast?_cons]
  cases (rest.filter fun later => decide (later.line < line)).getLast? with
  | some last => rfl
  | none =>
      -- No later marker decides, so this one does: what it leaves open starts in time.
      change marker.action = .disable ↔ ∃ start, openedAfter opened marker = some start ∧ _
      unfold openedAfter
      cases marker.action with
      | enable => simp
      | disable =>
          cases opened with
          | none =>
              have inTime : marker.line ≤ line := Int.le_of_lt earlier
              simp [inTime]
          | some start =>
              have inTime : start ≤ line :=
                Int.le_trans (openedBefore start rfl) (Int.le_of_lt earlier)
              simp [inTime]

theorem openedAfter_le {opened : Option Line} {marker : Marker} {line : Line}
    (openedBefore : ∀ start, opened = some start → start ≤ marker.line)
    (ascending : marker.line ≤ line) :
    ∀ start, openedAfter opened marker = some start → start ≤ line := by
  intro start isOpen
  unfold openedAfter at isOpen
  cases action : marker.action with
  | enable => simp [action] at isOpen
  | disable =>
      cases opened with
      | none =>
          have isMarker : marker.line = start := by simpa [action] using isOpen
          exact isMarker ▸ ascending
      | some first =>
          have isFirst : first = start := by simpa [action] using isOpen
          exact isFirst ▸ Int.le_trans (openedBefore first rfl) ascending

def Covers (ranges : List DisabledRange) (line : Line) : Prop :=
  ∃ range ∈ ranges, range.startLine ≤ line ∧ line ≤ range.endLine

/-- One marker closes at most one range, from the line that opened the rule to its own. -/
theorem covers_ruleRanges_cons {endLine line : Line} {opened : Option Line} {marker : Marker}
    {rest : List Marker} :
    Covers (ruleRanges endLine opened (marker :: rest)) line ↔
      (marker.action = .enable ∧
        ∃ start, opened = some start ∧ start ≤ line ∧ line ≤ marker.line) ∨
      Covers (ruleRanges endLine (openedAfter opened marker) rest) line := by
  unfold openedAfter
  cases opened with
  | none => cases action : marker.action <;> simp [ruleRanges, action]
  | some start => cases action : marker.action <;> simp [ruleRanges, action, Covers]

/-- A marker on the line or below it closes a range over the line, or leaves one open, exactly if it
disables the rule on the line itself or the rule was opened by then. -/
theorem covered_by_marker_iff {line : Line} {opened : Option Line} {marker : Marker}
    (onOrBelow : line ≤ marker.line)
    (openedBefore : ∀ start, opened = some start → start ≤ marker.line) :
    ((marker.action = .enable ∧
        ∃ start, opened = some start ∧ start ≤ line ∧ line ≤ marker.line) ∨
      ∃ start, openedAfter opened marker = some start ∧ start ≤ line) ↔
    (marker.action = .disable ∧ marker.line = line) ∨
      ∃ start, opened = some start ∧ start ≤ line := by
  unfold openedAfter
  cases opened with
  | none =>
      cases action : marker.action with
      | enable => simp
      | disable =>
          have startsHere : marker.line ≤ line ↔ marker.line = line :=
            ⟨fun atMost => Int.le_antisymm atMost onOrBelow, Int.le_of_eq⟩
          simp [startsHere]
  | some start =>
      have startBefore := openedBefore start rfl
      cases action : marker.action with
      | enable => simp [onOrBelow]
      | disable =>
          have inTime : marker.line = line → start ≤ line := fun here => here ▸ startBefore
          simpa using inTime

/-- The lines up to the end of the unit that a rule's ranges cover, from any point of its recursion
on. The induction is on the markers that are left; what was read before is the line that opened the
rule. -/
theorem covers_ruleRanges_iff {endLine line : Line} (inUnit : line ≤ endLine)
    {opened : Option Line} {markers : List Marker}
    (sorted : markers.Pairwise fun left right => left.line ≤ right.line)
    (openedBefore : ∀ start, opened = some start → ∀ marker ∈ markers, start ≤ marker.line) :
    Covers (ruleRanges endLine opened markers) line ↔
      (∃ marker ∈ markers, marker.action = .disable ∧ marker.line = line) ∨
        ActiveBefore line opened markers := by
  induction markers generalizing opened with
  | nil =>
      rw [activeBefore_of_below (by simp)]
      cases opened with
      | none => simp [ruleRanges, Covers]
      | some start =>
          have beforeEnd : line ≤ max start endLine :=
            Int.le_trans inUnit (Int.le_max_right start endLine)
          simp [ruleRanges, Covers, beforeEnd]
  | cons marker rest inductionHypothesis =>
      obtain ⟨ascending, sortedRest⟩ := List.pairwise_cons.1 sorted
      have openedFirst : ∀ start, opened = some start → start ≤ marker.line :=
        fun start isOpen => openedBefore start isOpen marker (by simp)
      have openedRest : ∀ start, openedAfter opened marker = some start →
          ∀ later ∈ rest, start ≤ later.line :=
        fun start isOpen later isLater =>
          openedAfter_le openedFirst (ascending later isLater) start isOpen
      rw [covers_ruleRanges_cons, inductionHypothesis sortedRest openedRest]
      by_cases earlier : marker.line < line
      · rw [activeBefore_cons_of_earlier earlier openedFirst]
        have notClosedHere : ¬ line ≤ marker.line := Int.not_le.2 earlier
        have notHere : marker.line ≠ line := Int.ne_of_lt earlier
        simp [notClosedHere, notHere]
      · have onOrBelow : line ≤ marker.line := Int.not_lt.1 earlier
        have below : ∀ later ∈ marker :: rest, line ≤ later.line := by
          intro later isLater
          rcases List.mem_cons.1 isLater with rfl | inRest
          · exact onOrBelow
          · exact Int.le_trans onOrBelow (ascending later inRest)
        have belowRest : ∀ later ∈ rest, line ≤ later.line :=
          fun later isLater => below later (List.mem_cons_of_mem marker isLater)
        rw [activeBefore_of_below below, activeBefore_of_below belowRest, or_left_comm,
          covered_by_marker_iff onOrBelow openedFirst, or_left_comm, ← or_assoc]
        simp only [List.mem_cons, exists_eq_or_imp]

/-- Before any range is open, a rule is disabled where a line begins if the last of its markers
above that line disables it. -/
theorem activeBefore_none_iff {rule : String} {line : Line} {markers : List Marker} :
    ActiveBefore line none (markersOf rule markers) ↔
      ∃ marker, (markers.filter fun marker =>
          decide (marker.rule = rule ∧ 1 ≤ marker.line ∧ marker.line < line)).getLast? =
            some marker ∧
        marker.action = .disable := by
  have sameMarkers : ((markersOf rule markers).filter fun marker => decide (marker.line < line)) =
      markers.filter fun marker =>
        decide (marker.rule = rule ∧ 1 ≤ marker.line ∧ marker.line < line) := by
    unfold markersOf
    rw [List.filter_filter]
    apply List.filter_congr
    intro marker _
    simp only [Bool.decide_and, beq_eq_decide]
    rw [Bool.and_comm, Bool.and_assoc]
  unfold ActiveBefore
  rw [sameMarkers]
  cases (markers.filter fun marker =>
      decide (marker.rule = rule ∧ 1 ≤ marker.line ∧ marker.line < line)).getLast? with
  | none => simp
  | some marker => simp

/-- The ranges found under a rule are those of the recursion over its own markers. -/
theorem covers_lookup_iff {markers : List Marker} {lastLine line : Line} {rule : String} :
    (∃ found, (groupByRule ((finalProgress markers).filed lastLine)).lookup rule = some found ∧
        ∃ range ∈ found, range.contains line = true) ↔
      Covers (ruleRanges (max lastLine 1) none
        (markersOf rule (sortByLine Marker.line markers))) line := by
  unfold Covers
  simp only [← mem_lookup_track_iff (track_eq markers lastLine), DisabledRange.contains,
    Bool.and_eq_true, decide_eq_true_eq]
  constructor
  · intro covered
    obtain ⟨found, isFound, range, inFound, covers⟩ := covered
    exact ⟨range, ⟨found, isFound, inFound⟩, covers⟩
  · intro covered
    obtain ⟨range, ⟨found, isFound, inFound⟩, covers⟩ := covered
    exact ⟨found, isFound, range, inFound, covers⟩

theorem disables_markersOf_iff {markers : List Marker} {line : Line} {rule : String}
    (isLine : 1 ≤ line) :
    (∃ marker ∈ markersOf rule (sortByLine Marker.line markers),
        marker.action = .disable ∧ marker.line = line) ↔
      ∃ marker ∈ markers,
        marker.rule = rule ∧ marker.action = .disable ∧ marker.line = line := by
  constructor
  · intro disabled
    obtain ⟨marker, isOwn, disables, here⟩ := disabled
    obtain ⟨isMarker, ofRule, -⟩ := mem_markersOf_iff.1 isOwn
    exact ⟨marker, isMarker, ofRule, disables, here⟩
  · intro disabled
    obtain ⟨marker, isMarker, ofRule, disables, here⟩ := disabled
    exact ⟨marker, mem_markersOf_iff.2 ⟨isMarker, ofRule, here ▸ isLine⟩, disables, here⟩

/-- Tracking gives each rule ranges that cover, of the lines of the unit, exactly those on which a
marker disables the rule and those above which its last marker disables it. -/
theorem track_covers_iff (markers : List Marker) (lastLine : Line) :
    ∃ ranges, track markers lastLine = .ok ranges ∧
      ∀ rule line, 1 ≤ line → line ≤ max lastLine 1 →
        ((∃ found, ranges.lookup rule = some found ∧
            ∃ range ∈ found, range.contains line = true) ↔
          (∃ marker ∈ markers,
            marker.rule = rule ∧ marker.action = .disable ∧ marker.line = line) ∨
          ∃ marker, ((sortByLine Marker.line markers).filter fun marker =>
              decide (marker.rule = rule ∧ 1 ≤ marker.line ∧ marker.line < line)).getLast? =
                some marker ∧
            marker.action = .disable) := by
  refine ⟨_, track_eq markers lastLine, ?_⟩
  intro rule line isLine inUnit
  have sorted : (markersOf rule (sortByLine Marker.line markers)).Pairwise
      fun left right => left.line ≤ right.line :=
    (pairwise_sortByLine Marker.line markers).filter _
  rw [covers_lookup_iff, covers_ruleRanges_iff inUnit sorted (by simp),
    disables_markersOf_iff isLine, activeBefore_none_iff]

/-- An `enable` on line five still covers line five, and leaves line six free. -/
theorem enable_covers_its_own_line :
    ∃ ranges,
      track [⟨"Naming", .enable, 5, false⟩, ⟨"Naming", .disable, 2, true⟩] 9 = .ok ranges ∧
        (∃ found, ranges.lookup "Naming" = some found ∧
          ∃ range ∈ found, range.contains 5 = true) ∧
        ¬ ∃ found, ranges.lookup "Naming" = some found ∧
          ∃ range ∈ found, range.contains 6 = true := by
  obtain ⟨ranges, tracked, covers⟩ :=
    track_covers_iff [⟨"Naming", .enable, 5, false⟩, ⟨"Naming", .disable, 2, true⟩] 9
  have inOrder : sortByLine Marker.line
      [⟨"Naming", .enable, 5, false⟩, ⟨"Naming", .disable, 2, true⟩] =
        [⟨"Naming", .disable, 2, true⟩, ⟨"Naming", .enable, 5, false⟩] := by
    simp [sortByLine, List.mergeSort]
  rw [inOrder] at covers
  refine ⟨ranges, tracked, ?_, ?_⟩
  · rw [covers "Naming" 5 (by decide) (by decide)]
    exact Or.inr ⟨⟨"Naming", .disable, 2, true⟩, rfl, rfl⟩
  · rw [covers "Naming" 6 (by decide) (by decide)]
    intro disabled
    rcases disabled with ⟨marker, isMarker, -, -, here⟩ | ⟨marker, isLast, disables⟩
    · rcases List.mem_pair.1 isMarker with rfl | rfl <;> contradiction
    · obtain rfl := Option.some.inj isLast
      contradiction

end Annotations.Suppressions
