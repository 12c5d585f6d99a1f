import Annotations.Proofs.Sorting

/-!
Contract: the fold over markers, taken apart by rule.

The fold never builds an improper range, since every range that is open starts
between line one and the line of the marker at hand. So it has a total form,
`advance`. In that form the ranges of a rule depend on the markers of that rule
alone: they are `ruleRanges` of them, a recursion whose only state is the line
that opened the rule.

Owns:

- `Suppressions.track_eq`, that tracking is never refused;
- `Suppressions.mem_lookup_track_iff`, the ranges of one rule as a recursion.

Does not own:

- which lines the ranges cover; see `Annotations.Proofs.Suppression.Coverage`.
-/

namespace Annotations.Suppressions

/-! ## The fold is never refused -/

/-- The effect of one marker, with its range built unchecked. -/
def advance (progress : Progress) (marker : Marker) : Progress :=
  if marker.line < 1 then progress
  else
    match marker.action, progress.opened.lookup marker.rule with
    | .disable, some _ => progress
    | .disable, none =>
        { progress with opened := progress.opened ++ [(marker.rule, marker.line)] }
    | .enable, none => progress
    | .enable, some start =>
        { opened := progress.opened.filter fun entry => entry.1 != marker.rule
          closed := progress.closed ++ [(marker.rule, ⟨start, marker.line⟩)] }

/-- Every open range starts at line one or below, and no later than a line. -/
def Progress.OpenedBy (progress : Progress) (line : Line) : Prop :=
  ∀ entry ∈ progress.opened, 1 ≤ entry.2 ∧ entry.2 ≤ line

private theorem mem_of_lookup {Value : Type} {entries : List (String × Value)} {key : String}
    {value : Value} (found : entries.lookup key = some value) : (key, value) ∈ entries := by
  obtain ⟨before, after, rfl, -⟩ := List.lookup_eq_some_iff.1 found
  simp

theorem step_eq_advance {progress : Progress} {marker : Marker}
    (openedBefore : progress.OpenedBy marker.line) :
    step progress marker = .ok (advance progress marker) := by
  unfold step advance
  by_cases dropped : marker.line < 1
  · rw [if_pos dropped, if_pos dropped]
  · rw [if_neg dropped, if_neg dropped]
    cases found : progress.opened.lookup marker.rule with
    | none => cases marker.action <;> rfl
    | some start =>
        cases marker.action with
        | disable => rfl
        | enable =>
            have valid : DisabledRange.IsValid ⟨start, marker.line⟩ :=
              openedBefore _ (mem_of_lookup found)
            have made : DisabledRange.make start marker.line = .ok ⟨start, marker.line⟩ :=
              if_pos valid
            simp only [made]
            rfl

/-- What is open after a marker was open before it, or was opened by it. -/
theorem open_of_advance {progress : Progress} {marker : Marker} {entry : String × Line}
    (isOpen : entry ∈ (advance progress marker).opened) :
    entry ∈ progress.opened ∨ entry = (marker.rule, marker.line) ∧ 1 ≤ marker.line := by
  unfold advance at isOpen
  split at isOpen
  · exact Or.inl isOpen
  next notDropped =>
    split at isOpen
    · exact Or.inl isOpen
    · rcases List.mem_append.1 isOpen with wasOpen | isNew
      · exact Or.inl wasOpen
      · exact Or.inr ⟨List.mem_singleton.1 isNew, Int.not_lt.1 notDropped⟩
    · exact Or.inl isOpen
    · exact Or.inl (List.mem_filter.1 isOpen).1

theorem openedBy_advance {progress : Progress} {marker : Marker} {line : Line}
    (openedBefore : progress.OpenedBy marker.line) (ascending : marker.line ≤ line) :
    (advance progress marker).OpenedBy line := by
  intro entry isOpen
  rcases open_of_advance isOpen with wasOpen | ⟨rfl, isLine⟩
  · have bounds := openedBefore entry wasOpen
    exact ⟨bounds.1, Int.le_trans bounds.2 ascending⟩
  · exact ⟨isLine, ascending⟩

theorem foldlM_eq_foldl {markers : List Marker} {progress : Progress}
    (sorted : markers.Pairwise fun left right => left.line ≤ right.line)
    (openedBefore : ∀ marker ∈ markers, progress.OpenedBy marker.line) :
    markers.foldlM step progress = .ok (markers.foldl advance progress) := by
  induction markers generalizing progress with
  | nil => rfl
  | cons marker rest inductionHypothesis =>
      obtain ⟨ascending, sortedRest⟩ := List.pairwise_cons.1 sorted
      have openedFirst := openedBefore marker (by simp)
      rw [List.foldlM_cons, step_eq_advance openedFirst, List.foldl_cons]
      exact inductionHypothesis sortedRest fun later isLater =>
        openedBy_advance openedFirst (ascending later isLater)

theorem starts_foldl {markers : List Marker} {progress : Progress}
    (starts : ∀ entry ∈ progress.opened, 1 ≤ entry.2) :
    ∀ entry ∈ (markers.foldl advance progress).opened, 1 ≤ entry.2 := by
  induction markers generalizing progress with
  | nil => exact starts
  | cons marker rest inductionHypothesis =>
      apply inductionHypothesis
      intro entry isOpen
      rcases open_of_advance isOpen with wasOpen | ⟨rfl, isLine⟩
      · exact starts entry wasOpen
      · exact isLine

def closing (lastLine : Line) (entry : String × Line) : String × DisabledRange :=
  (entry.1, ⟨entry.2, max entry.2 (max lastLine 1)⟩)

theorem closeAt_eq_closing {lastLine : Line} {entry : String × Line} (starts : 1 ≤ entry.2) :
    closeAt lastLine entry = .ok (closing lastLine entry) := by
  have valid : DisabledRange.IsValid ⟨entry.2, max entry.2 (max lastLine 1)⟩ :=
    ⟨starts, Int.le_max_left _ _⟩
  have made : DisabledRange.make entry.2 (max entry.2 (max lastLine 1)) =
      .ok ⟨entry.2, max entry.2 (max lastLine 1)⟩ := if_pos valid
  unfold closeAt
  rw [made]
  rfl

theorem mapM_closeAt {lastLine : Line} {entries : List (String × Line)}
    (starts : ∀ entry ∈ entries, 1 ≤ entry.2) :
    entries.mapM (closeAt lastLine) = .ok (entries.map (closing lastLine)) := by
  induction entries with
  | nil => rfl
  | cons entry rest inductionHypothesis =>
      rw [List.mapM_cons, closeAt_eq_closing (starts entry (by simp)),
        inductionHypothesis fun later isLater => starts later (by simp [isLater])]
      rfl

/-- All ranges of a progress, each filed under its rule; those still open are closed. -/
def Progress.filed (progress : Progress) (lastLine : Line) : List (String × DisabledRange) :=
  progress.closed ++ progress.opened.map (closing lastLine)

def finalProgress (markers : List Marker) : Progress :=
  (sortByLine Marker.line markers).foldl advance ⟨[], []⟩

/-- Tracking is never refused. Its ranges are those filed by the total fold. -/
theorem track_eq (markers : List Marker) (lastLine : Line) :
    track markers lastLine = .ok (groupByRule ((finalProgress markers).filed lastLine)) := by
  have noneOpen : ∀ line, Progress.OpenedBy ⟨[], []⟩ line := by
    intro line entry isOpen
    contradiction
  have folded : (sortByLine Marker.line markers).foldlM step ⟨[], []⟩ =
      .ok (finalProgress markers) :=
    foldlM_eq_foldl (pairwise_sortByLine Marker.line markers) fun marker _ => noneOpen marker.line
  have starts : ∀ entry ∈ (finalProgress markers).opened, 1 ≤ entry.2 :=
    starts_foldl fun entry isOpen => (noneOpen 1 entry isOpen).1
  unfold track
  rw [folded]
  simp only [bind, Except.bind]
  rw [mapM_closeAt starts]
  rfl

/-! ## One rule at a time -/

/-- The ranges that the markers of one rule leave, given the line that opened the rule, if one did.
A range still open at the end closes with `endLine`. -/
def ruleRanges (endLine : Line) : Option Line → List Marker → List DisabledRange
  | none, [] => []
  | some start, [] => [⟨start, max start endLine⟩]
  | opened, marker :: rest =>
      match marker.action, opened with
      | .disable, none => ruleRanges endLine (some marker.line) rest
      | .disable, some start => ruleRanges endLine (some start) rest
      | .enable, none => ruleRanges endLine none rest
      | .enable, some start => ⟨start, marker.line⟩ :: ruleRanges endLine none rest

def openedAfter (opened : Option Line) (marker : Marker) : Option Line :=
  match marker.action with
  | .disable => some (opened.getD marker.line)
  | .enable => none

/-- The range that a marker closes, if it does. -/
def closedBy (opened : Option Line) (marker : Marker) : Option DisabledRange :=
  match marker.action with
  | .disable => none
  | .enable => opened.map fun start => ⟨start, marker.line⟩

theorem ruleRanges_cons (endLine : Line) (opened : Option Line) (marker : Marker)
    (rest : List Marker) :
    ruleRanges endLine opened (marker :: rest) =
      (closedBy opened marker).toList ++ ruleRanges endLine (openedAfter opened marker) rest := by
  unfold closedBy openedAfter
  cases opened with
  | none => cases action : marker.action <;> simp [ruleRanges, action]
  | some start => cases action : marker.action <;> simp [ruleRanges, action]

def under {Item : Type} (rule : String) (filed : List (String × Item)) : List Item :=
  (filed.filter fun entry => entry.1 == rule).map Prod.snd

/-- The markers that decide about a rule: its own, except those above line one. -/
def markersOf (rule : String) (markers : List Marker) : List Marker :=
  markers.filter fun marker => marker.rule == rule && decide (1 ≤ marker.line)

theorem mem_markersOf_iff {rule : String} {markers : List Marker} {marker : Marker} :
    marker ∈ markersOf rule (sortByLine Marker.line markers) ↔
      marker ∈ markers ∧ marker.rule = rule ∧ 1 ≤ marker.line := by
  simp [markersOf, mem_sortByLine]

theorem lookup_filter_self {Value : Type} (entries : List (String × Value)) (key : String) :
    (entries.filter fun entry => entry.1 != key).lookup key = none := by
  rw [List.lookup_eq_none_iff]
  intro entry isKept
  have kept : entry.1 ≠ key := by simpa using (List.mem_filter.1 isKept).2
  exact bne_iff_ne.2 (Ne.symm kept)

theorem lookup_filter_other {Value : Type} (entries : List (String × Value)) {key other : String}
    (different : other ≠ key) :
    (entries.filter fun entry => entry.1 != key).lookup other = entries.lookup other := by
  induction entries with
  | nil => rfl
  | cons entry rest inductionHypothesis =>
      obtain ⟨held, value⟩ := entry
      by_cases same : held = key
      · have unlike : (other == held) = false := beq_false_of_ne (same ▸ different)
        rw [List.filter_cons_of_neg (by simp [same]), inductionHypothesis, List.lookup_cons, unlike]
      · rw [List.filter_cons_of_pos (by simp [same]), List.lookup_cons, List.lookup_cons,
          inductionHypothesis]

/-- A marker of another rule, or above line one, changes nothing about a rule. -/
theorem advance_of_not_own {rule : String} {progress : Progress} {marker : Marker}
    (notOwn : ¬ (marker.rule = rule ∧ 1 ≤ marker.line)) :
    under rule (advance progress marker).closed = under rule progress.closed ∧
      (advance progress marker).opened.lookup rule = progress.opened.lookup rule := by
  unfold advance
  split
  · exact ⟨rfl, rfl⟩
  next notDropped =>
    have otherRule : marker.rule ≠ rule := fun same => notOwn ⟨same, Int.not_lt.1 notDropped⟩
    split
    · exact ⟨rfl, rfl⟩
    · refine ⟨rfl, ?_⟩
      have unlike : (rule == marker.rule) = false := beq_false_of_ne (Ne.symm otherRule)
      simp [List.lookup_append, List.lookup_cons, unlike]
    · exact ⟨rfl, rfl⟩
    · refine ⟨?_, lookup_filter_other _ (Ne.symm otherRule)⟩
      simp [under, otherRule]

/-- A marker of a rule changes what the rule has by one step of `ruleRanges`. -/
theorem advance_of_own {progress : Progress} {marker : Marker} (isLine : 1 ≤ marker.line)
    (endLine : Line) (rest : List Marker) :
    under marker.rule (advance progress marker).closed ++
        ruleRanges endLine ((advance progress marker).opened.lookup marker.rule) rest =
      under marker.rule progress.closed ++
        ruleRanges endLine (progress.opened.lookup marker.rule) (marker :: rest) := by
  unfold advance
  rw [if_neg (Int.not_lt.2 isLine)]
  cases opened : progress.opened.lookup marker.rule with
  | none =>
      cases action : marker.action with
      | disable => simp [ruleRanges, action, opened, List.lookup_append]
      | enable => simp [ruleRanges, action, opened]
  | some start =>
      cases action : marker.action with
      | disable => simp [ruleRanges, action, opened]
      | enable =>
          simp only [ruleRanges, action, lookup_filter_self]
          simp [under]

theorem nodup_advance {progress : Progress} {marker : Marker}
    (distinct : (progress.opened.map Prod.fst).Nodup) :
    ((advance progress marker).opened.map Prod.fst).Nodup := by
  unfold advance
  split
  · exact distinct
  · split
    · exact distinct
    next notOpen =>
      rw [List.map_append, List.nodup_append]
      refine ⟨distinct, by simp, ?_⟩
      rintro rule isOpen _ isNew rfl
      obtain ⟨entry, entryOpen, rfl⟩ := List.mem_map.1 isOpen
      have unlike := List.lookup_eq_none_iff.1 notOpen entry entryOpen
      simp_all
    · exact distinct
    · exact distinct.sublist (List.filter_sublist.map Prod.fst)

/-- What is open for a rule at the end becomes its last range. -/
theorem under_closing {entries : List (String × Line)} (rule : String) (lastLine : Line)
    (distinct : (entries.map Prod.fst).Nodup) :
    under rule (entries.map (closing lastLine)) =
      ruleRanges (max lastLine 1) (entries.lookup rule) [] := by
  induction entries with
  | nil => rfl
  | cons entry rest inductionHypothesis =>
      obtain ⟨held, start⟩ := entry
      obtain ⟨absent, distinctRest⟩ := List.nodup_cons.1 distinct
      have restRanges := inductionHypothesis distinctRest
      by_cases same : held = rule
      · subst same
        have notOpen : rest.lookup held = none := by
          rw [List.lookup_eq_none_iff]
          intro other isOpen
          have isKey : other.1 ∈ rest.map Prod.fst := List.mem_map_of_mem isOpen
          exact bne_iff_ne.2 fun equal => absent (equal ▸ isKey)
        rw [notOpen] at restRanges
        rw [List.lookup_cons_self]
        simp only [under, List.map_cons, closing] at restRanges ⊢
        rw [List.filter_cons_of_pos (by simp), List.map_cons]
        exact congrArg _ restRanges
      · have unlike : (rule == held) = false := beq_false_of_ne (Ne.symm same)
        rw [List.lookup_cons, unlike, ← restRanges]
        simp [under, closing, same]

/-- The fold treats each rule on its own: what it files under a rule is what `ruleRanges` makes of
the rule's own markers. -/
theorem under_filed_foldl (rule : String) (lastLine : Line) (markers : List Marker)
    (progress : Progress) (distinct : (progress.opened.map Prod.fst).Nodup) :
    under rule ((markers.foldl advance progress).filed lastLine) =
      under rule progress.closed ++
        ruleRanges (max lastLine 1) (progress.opened.lookup rule) (markersOf rule markers) := by
  induction markers generalizing progress with
  | nil =>
      change under rule (progress.closed ++ progress.opened.map (closing lastLine)) = _
      have atEnd := under_closing rule lastLine distinct
      rw [markersOf, List.filter_nil, ← atEnd]
      simp [under]
  | cons marker rest inductionHypothesis =>
      rw [List.foldl_cons, inductionHypothesis _ (nodup_advance distinct)]
      by_cases own : marker.rule = rule ∧ 1 ≤ marker.line
      · obtain ⟨rfl, isLine⟩ := own
        have kept : markersOf marker.rule (marker :: rest) =
            marker :: markersOf marker.rule rest :=
          List.filter_cons_of_pos (by simp [isLine])
        rw [kept, advance_of_own isLine]
      · have dropped : markersOf rule (marker :: rest) = markersOf rule rest :=
          List.filter_cons_of_neg (by simpa using own)
        obtain ⟨sameClosed, sameOpened⟩ := advance_of_not_own own
        rw [dropped, sameClosed, sameOpened]

/-- The ranges found under a rule are those that the rule's own markers leave, in line order. -/
theorem mem_lookup_track_iff {markers : List Marker} {lastLine : Line} {ranges : SuppressionMap}
    (tracked : track markers lastLine = .ok ranges) {rule : String} {range : DisabledRange} :
    (∃ found, ranges.lookup rule = some found ∧ range ∈ found) ↔
      range ∈ ruleRanges (max lastLine 1) none
        (markersOf rule (sortByLine Marker.line markers)) := by
  rw [track_eq] at tracked
  obtain rfl := Except.ok.inj tracked
  have atEnd := under_filed_foldl rule lastLine (sortByLine Marker.line markers) ⟨[], []⟩
    List.nodup_nil
  rw [mem_lookup_groupByRule]
  have filedUnder : (rule, range) ∈ (finalProgress markers).filed lastLine ↔
      range ∈ under rule ((finalProgress markers).filed lastLine) := by
    simp [under]
  rw [filedUnder]
  unfold finalProgress
  rw [atEnd]
  simp [under]

end Annotations.Suppressions
