import Annotations.Proofs.Suppression.Ranges

/-!
Contract: what the ranges of a rule do not depend on.

The fold over markers treats all rules in one pass, but the result is a table of
the ranges of each rule, and these depend on the rule's own markers in line
order alone. So other rules can be left out, before the fold or after it, and so
can comments that carry no marker of a known rule. Nor does it matter in which
order comments and markers are supplied, as long as those that the sort by line
cannot tell apart keep theirs.

Owns:
- `rules_independent`, that known rules are a restriction of all rules;
- `order_of_supply`, that tracking does not see the order of what it is given.

Does not own: the tables of rules; see `Annotations.Proofs.Sorting`.
-/

namespace Annotations

namespace Suppressions

/-! ## Other rules -/

/-- Leaving out rules leaves the markers of the others. -/
theorem markersOf_filter (keep : String → Bool) (markers : List Marker) (rule : String) :
    markersOf rule (sortByLine Marker.line (markers.filter fun marker => keep marker.rule)) =
      if keep rule then markersOf rule (sortByLine Marker.line markers) else [] := by
  rw [← filter_sortByLine, markersOf, List.filter_filter]
  split
  next kept =>
    apply List.filter_congr
    intro marker _
    by_cases own : marker.rule = rule
    · simp [own, kept]
    · simp [own]
  next dropped =>
    rw [List.filter_eq_nil_iff]
    intro marker _
    by_cases own : marker.rule = rule
    · simp [own, dropped]
    · simp [own]

theorem rangesOf_filter (keep : String → Bool) (markers : List Marker) (lastLine : Line)
    (rule : String) :
    rangesOf (markers.filter fun marker => keep marker.rule) lastLine rule =
      if keep rule then rangesOf markers lastLine rule else [] := by
  unfold rangesOf
  rw [markersOf_filter]
  split <;> rfl

/-- Leaving out rules before the fold or after it is the same. -/
theorem track_filter (keep : String → Bool) (markers : List Marker) (lastLine : Line) :
    ∃ ranges, track markers lastLine = .ok ranges ∧
      track (markers.filter fun marker => keep marker.rule) lastLine =
        .ok (ranges.filter fun entry => keep entry.1) := by
  refine ⟨_, track_eq markers lastLine, ?_⟩
  have kept := (tabulates_rangesOf markers lastLine).filter keep
  have before := tabulates_rangesOf (markers.filter fun marker => keep marker.rule) lastLine
  rw [funext (rangesOf_filter keep markers lastLine)] at before
  rw [track_eq, before.unique kept]

end Suppressions

/-! ## Comments of no known rule -/

def Comment.carries (tag : String) (rules : List String) (comment : Comment) : Bool :=
  (Marker.ofComment tag comment).any fun marker => rules.contains marker.rule

/-- Items that contribute nothing can be dropped. -/
private theorem flatMap_filter_of_nil {Item Value : Type} {keep : Item → Bool}
    {valuesOf : Item → List Value} (dropped : ∀ item, keep item = false → valuesOf item = []) :
    ∀ items : List Item, (items.filter keep).flatMap valuesOf = items.flatMap valuesOf
  | [] => rfl
  | item :: rest => by
      rw [List.filter_cons, List.flatMap_cons, ← flatMap_filter_of_nil dropped rest]
      cases kept : keep item with
      | true => rfl
      | false =>
          rw [dropped item kept]
          rfl

namespace Tracker

theorem accepts_of_known (tag : String) {rules : List String} (known : rules ≠ []) :
    accepts ⟨tag, rules⟩ = fun marker => rules.contains marker.rule := by
  funext marker
  rw [accepts, List.isEmpty_eq_false_iff.2 known, Bool.false_or]

/-- Known rules are a restriction of all rules. -/
theorem markers_eq_filter {tag : String} {rules : List String} (known : rules ≠ [])
    (comments : List Comment) :
    markers ⟨tag, rules⟩ comments =
      (markers ⟨tag, []⟩ comments).filter fun marker => rules.contains marker.rule := by
  have acceptsAll : accepts ⟨tag, []⟩ = fun _ => true := rfl
  unfold markers
  rw [acceptsAll, accepts_of_known tag known, List.filter_true]

/-- Only the comments that carry a marker of a known rule are read. -/
theorem markers_filter {tag : String} {rules : List String} (known : rules ≠ [])
    (comments : List Comment) :
    markers ⟨tag, rules⟩ (comments.filter (Comment.carries tag rules)) =
      markers ⟨tag, rules⟩ comments := by
  have silent : ∀ comment : Comment, comment.carries tag rules = false →
      (Marker.ofComment tag comment).filter (fun marker => rules.contains marker.rule) = [] := by
    intro comment carriesNone
    rw [List.filter_eq_nil_iff]
    exact List.any_eq_false.1 carriesNone
  unfold markers
  rw [accepts_of_known tag known, ← filter_sortByLine, List.filter_flatMap, List.filter_flatMap,
    flatMap_filter_of_nil silent]

theorem processUnit_eq_of_markers {tracker : Tracker} {unit : SourceUnit} {comments : List Comment}
    (same : tracker.markers comments = tracker.markers unit.comments) :
    tracker.processUnit { unit with comments := comments } = tracker.processUnit unit := by
  unfold processUnit suppressions
  rw [same]

end Tracker

namespace Suppressions

/-- A rule has the ranges it has without the markers of all other rules. So reading a unit under
known rules gives what reading it under all rules gives for these, and comments that carry no marker
of a known rule can be added and removed. -/
theorem rules_independent :
    (∀ markers lastLine rule, ∃ ranges, track markers lastLine = .ok ranges ∧
        track (markers.filter fun marker => marker.rule = rule) lastLine =
          .ok (ranges.filter fun entry => entry.1 = rule)) ∧
      (∀ tag rules unit, rules ≠ [] → ∃ ranges,
        Tracker.processUnit ⟨tag, []⟩ unit = .ok ranges ∧
          Tracker.processUnit ⟨tag, rules⟩ unit =
            .ok (ranges.filter fun entry => rules.contains entry.1)) ∧
      ∀ tag rules (unit : SourceUnit) comments, rules ≠ [] →
        comments.filter (Comment.carries tag rules) =
          unit.comments.filter (Comment.carries tag rules) →
        Tracker.processUnit ⟨tag, rules⟩ { unit with comments := comments } =
          Tracker.processUnit ⟨tag, rules⟩ unit := by
  refine ⟨?_, ?_, ?_⟩
  · intro markers lastLine rule
    exact track_filter (fun other => other = rule) markers lastLine
  · intro tag rules unit known
    unfold Tracker.processUnit Tracker.suppressions
    rw [Tracker.markers_eq_filter known]
    exact track_filter rules.contains _ unit.lineCount
  · intro tag rules unit comments known sameCarrying
    apply Tracker.processUnit_eq_of_markers
    rw [← Tracker.markers_filter known, sameCarrying, Tracker.markers_filter known]

private def ofTwoRules : List Comment :=
  [⟨1, "# annotate: disable=name,size", false⟩, ⟨3, "# annotate: enable=size", false⟩,
    ⟨4, "# annotate: enable=name", false⟩]

private def markersOfTwoRules : List Marker :=
  [⟨"name", .disable, 1, false⟩, ⟨"size", .disable, 1, false⟩, ⟨"size", .enable, 3, false⟩,
    ⟨"name", .enable, 4, false⟩]

private def rangesOfTwoRules : SuppressionMap := [("name", [⟨1, 4⟩]), ("size", [⟨1, 3⟩])]

private def ofComments (comments : List Comment) : SourceUnit := ⟨"m", 4, [], [], comments, []⟩

private theorem track_markersOfTwoRules : track markersOfTwoRules 4 = .ok rangesOfTwoRules := by
  have filed : (finalProgress markersOfTwoRules).filed 4 =
      [("size", ⟨1, 3⟩), ("name", ⟨1, 4⟩)] := by
    rw [finalProgress, sortByLine_of_pairwise Marker.line (by decide)]
    decide
  have rules : compare "size" "name" = .gt := by decide
  rw [track_eq, filed]
  simp [rangesOfTwoRules, groupByRule, List.eraseDups_cons, List.mergeSort, rules]

private theorem processUnit_ofTwoRules :
    Tracker.processUnit ⟨"annotate", []⟩ (ofComments ofTwoRules) = .ok rangesOfTwoRules := by
  have markers : Tracker.markers ⟨"annotate", []⟩ ofTwoRules = markersOfTwoRules := by
    rw [Tracker.markers, sortByLine_of_pairwise Comment.line (by decide)]
    decide +kernel
  rw [← track_markersOfTwoRules, ← markers]
  rfl

/-- The end of the other rule left out, and a remark added. -/
private def ofOneRule : List Comment :=
  [⟨1, "# annotate: disable=name,size", false⟩, ⟨2, "# name and size", true⟩,
    ⟨4, "# annotate: enable=name", false⟩]

/-- What is said of one rule is read the same with and without the end of the other one. -/
theorem end_of_other_rule :
    ["name"] ≠ [] ∧
      ofOneRule.filter (Comment.carries "annotate" ["name"]) =
        ofTwoRules.filter (Comment.carries "annotate" ["name"]) ∧
      Tracker.processUnit ⟨"annotate", ["name"]⟩ (ofComments ofTwoRules) =
        .ok [("name", [⟨1, 4⟩])] ∧
      Tracker.processUnit ⟨"annotate", ["name"]⟩ (ofComments ofOneRule) =
        .ok [("name", [⟨1, 4⟩])] := by
  have known : ["name"] ≠ [] := by decide
  have sameCarrying : ofOneRule.filter (Comment.carries "annotate" ["name"]) =
      ofTwoRules.filter (Comment.carries "annotate" ["name"]) := by decide +kernel
  obtain ⟨-, restricted, otherComments⟩ := rules_independent
  obtain ⟨ranges, read, ofKnown⟩ := restricted "annotate" ["name"] (ofComments ofTwoRules) known
  obtain rfl := Except.ok.inj (read.symm.trans processUnit_ofTwoRules)
  have same := otherComments "annotate" ["name"] (ofComments ofTwoRules) ofOneRule known
    sameCarrying
  exact ⟨known, sameCarrying, ofKnown, same.trans ofKnown⟩

/-! ## The order of supply -/

theorem filter_line_markersOf (rule : String) (line : Line) (markers : List Marker) :
    (markersOf rule markers).filter (fun marker => marker.line = line) =
      (markers.filter fun marker => (marker.rule, marker.line) = (rule, line)).filter
        fun marker => 1 ≤ marker.line := by
  unfold markersOf
  rw [List.filter_filter, List.filter_filter]
  apply List.filter_congr
  intro marker _
  rw [Bool.eq_iff_iff]
  simp only [Bool.and_eq_true, beq_iff_eq, decide_eq_true_eq, Prod.mk.injEq]
  tauto

/-- Where the markers of each rule and line keep their order, those of a rule are only reordered
across lines, so in line order they are the same. -/
theorem rangesOf_eq_of_isReordering {left right : List Marker}
    (reordered : IsReordering (fun marker : Marker => (marker.rule, marker.line)) left right)
    (lastLine : Line) : rangesOf left lastLine = rangesOf right lastLine := by
  funext rule
  have ownReordered : IsReordering Marker.line (markersOf rule left) (markersOf rule right) := by
    refine ⟨reordered.permuted.filter _, ?_⟩
    intro line
    rw [filter_line_markersOf, filter_line_markersOf, reordered.kept (rule, line)]
  have sameOrder : markersOf rule (sortByLine Marker.line left) =
      markersOf rule (sortByLine Marker.line right) := by
    unfold markersOf
    rw [filter_sortByLine, filter_sortByLine]
    exact sortByLine_eq_of_isReordering ownReordered
  unfold rangesOf
  rw [sameOrder]

/-- Tracking gives the same ranges for comments in any order that keeps those of each line, and for
markers in any order that keeps those of each line and rule. -/
theorem order_of_supply :
    (∀ (tracker : Tracker) (unit : SourceUnit) comments,
        IsReordering Comment.line unit.comments comments →
          ∃ ranges, tracker.processUnit unit = .ok ranges ∧
            tracker.processUnit { unit with comments := comments } = .ok ranges) ∧
      ∀ left right lastLine,
        IsReordering (fun marker : Marker => (marker.rule, marker.line)) left right →
          ∃ ranges, track left lastLine = .ok ranges ∧ track right lastLine = .ok ranges := by
  constructor
  · intro tracker unit comments reordered
    have sameMarkers : tracker.markers comments = tracker.markers unit.comments := by
      unfold Tracker.markers
      rw [sortByLine_eq_of_isReordering reordered]
    exact ⟨_, track_eq _ unit.lineCount,
      (Tracker.processUnit_eq_of_markers sameMarkers).trans (track_eq _ unit.lineCount)⟩
  · intro left right lastLine reordered
    have sameRanges := rangesOf_eq_of_isReordering reordered lastLine
    exact ⟨_, track_eq left lastLine,
      (track_eq_of_rangesOf_eq sameRanges).symm.trans (track_eq left lastLine)⟩

private def swappedComments : List Comment :=
  [⟨3, "# annotate: enable=size", false⟩, ⟨1, "# annotate: disable=name,size", false⟩,
    ⟨4, "# annotate: enable=name", false⟩]

private def swappedMarkers : List Marker :=
  [⟨"size", .disable, 1, false⟩, ⟨"name", .disable, 1, false⟩, ⟨"size", .enable, 3, false⟩,
    ⟨"name", .enable, 4, false⟩]

/-- Comments are swapped across lines, and markers of two rules within one. -/
theorem swapped_supply :
    IsReordering Comment.line ofTwoRules swappedComments ∧
      Tracker.processUnit ⟨"annotate", []⟩ (ofComments swappedComments) = .ok rangesOfTwoRules ∧
      IsReordering (fun marker : Marker => (marker.rule, marker.line)) markersOfTwoRules
        swappedMarkers ∧
      track swappedMarkers 4 = .ok rangesOfTwoRules := by
  have acrossLines : IsReordering Comment.line ofTwoRules swappedComments := .swap (by decide) _
  have acrossRules : IsReordering (fun marker : Marker => (marker.rule, marker.line))
      markersOfTwoRules swappedMarkers := .swap (by decide) _
  obtain ⟨ofUnits, ofMarkers⟩ := order_of_supply
  obtain ⟨unitRanges, read, readSwapped⟩ :=
    ofUnits ⟨"annotate", []⟩ (ofComments ofTwoRules) swappedComments acrossLines
  obtain ⟨ranges, tracked, trackedSwapped⟩ :=
    ofMarkers markersOfTwoRules swappedMarkers 4 acrossRules
  obtain rfl := Except.ok.inj (read.symm.trans processUnit_ofTwoRules)
  obtain rfl := Except.ok.inj (tracked.symm.trans track_markersOfTwoRules)
  exact ⟨acrossLines, readSwapped, acrossRules, trackedSwapped⟩

end Suppressions

end Annotations
