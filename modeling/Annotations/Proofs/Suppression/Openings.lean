import Mathlib.Data.List.FinRange
import Annotations.Proofs.Suppression.Ranges

/-!
Contract: the ranges of a rule, read off its markers.

A range begins with a `disable` that no other `disable` of the rule stands
directly before, and ends with the next `enable`. So the ranges can be told from
the positions of markers, without the state that the fold carries along. The
recursion `ruleRanges` is compared with them by what precedes the markers that
are left: its open line stands for a `disable`, and its absence for an `enable`.

Owns:
- `OpensAt`, `rangeFrom` and the list `openedRanges` they make;
- `track_tabulates_openings`, which gives the whole result of tracking.

Does not own: which lines the ranges cover; see
`Annotations.Proofs.Suppression.Coverage`.
-/

namespace Annotations.Suppressions

/-! ## Openings -/

/-- The marker at a position opens a range: it disables the rule, and is the rule's first marker or
follows one that enables it. -/
def OpensAt (own : List Marker) (position : Fin own.length) : Prop :=
  own[position].action = .disable ∧
    (position.val = 0 ∨ own[position.val - 1]?.map Marker.action = some .enable)

instance (own : List Marker) : DecidablePred (OpensAt own) := fun _ =>
  inferInstanceAs (Decidable (_ ∧ _))

/-- Where a range ends that starts on a line: at the first `enable` of the markers after it or,
without one, at the end of the unit, though not above its start. -/
def closingLine (lastLine start : Line) (later : List Marker) : Line :=
  match later.find? fun marker => marker.action = .enable with
  | some marker => marker.line
  | none => max start (max lastLine 1)

def rangeFrom (lastLine : Line) (own : List Marker) (position : Fin own.length) : DisabledRange :=
  ⟨own[position].line, closingLine lastLine own[position].line (own.drop (position.val + 1))⟩

/-- The ranges that the markers of one rule open, in order. -/
def openedRanges (lastLine : Line) (own : List Marker) : List DisabledRange :=
  ((List.finRange own.length).filter (OpensAt own)).map (rangeFrom lastLine own)

theorem openedRanges_ne_nil_iff {lastLine : Line} {own : List Marker} :
    openedRanges lastLine own ≠ [] ↔ ∃ position, OpensAt own position := by
  simp [openedRanges, List.filter_eq_nil_iff]

/-! ## Openings after an action -/

/-- The marker at a position opens a range, where the markers follow one of an action. -/
def OpensAfter (action : MarkerAction) (own : List Marker) (position : Fin own.length) : Prop :=
  own[position].action = .disable ∧ (action :: own.map Marker.action)[position.val]? = some .enable

instance (action : MarkerAction) (own : List Marker) : DecidablePred (OpensAfter action own) :=
  fun _ => inferInstanceAs (Decidable (_ ∧ _))

def openedRangesAfter (action : MarkerAction) (lastLine : Line) (own : List Marker) :
    List DisabledRange :=
  ((List.finRange own.length).filter (OpensAfter action own)).map (rangeFrom lastLine own)

/-- The first marker of a rule opens a range as if an `enable` stood before it. -/
theorem opensAt_iff {own : List Marker} {position : Fin own.length} :
    OpensAt own position ↔ OpensAfter .enable own position := by
  obtain ⟨position, inside⟩ := position
  unfold OpensAt OpensAfter
  cases position with
  | zero => simp
  | succ earlier => simp

theorem openedRanges_eq (lastLine : Line) (own : List Marker) :
    openedRanges lastLine own = openedRangesAfter .enable lastLine own := by
  unfold openedRanges openedRangesAfter
  simp only [opensAt_iff]

theorem opensAfter_zero_iff {action : MarkerAction} {marker : Marker} {rest : List Marker} :
    OpensAfter action (marker :: rest) (0 : Fin (rest.length + 1)) ↔
      marker.action = .disable ∧ action = .enable := by
  simp [OpensAfter]

/-- To the markers after the first, it is the one that stands before them. -/
theorem opensAfter_succ_iff {action : MarkerAction} {marker : Marker} {rest : List Marker}
    {position : Fin rest.length} :
    OpensAfter action (marker :: rest) position.succ ↔ OpensAfter marker.action rest position := by
  simp [OpensAfter]

theorem openedRangesAfter_cons (action : MarkerAction) (lastLine : Line) (marker : Marker)
    (rest : List Marker) :
    openedRangesAfter action lastLine (marker :: rest) =
      (if marker.action = .disable ∧ action = .enable then
        [⟨marker.line, closingLine lastLine marker.line rest⟩] else []) ++
        openedRangesAfter marker.action lastLine rest := by
  unfold openedRangesAfter
  change List.map _ (List.filter _ (List.finRange (rest.length + 1))) = _
  rw [List.finRange_succ, List.filter_cons, List.filter_map]
  simp only [Function.comp_def, opensAfter_succ_iff, opensAfter_zero_iff, decide_eq_true_eq]
  split
  · rw [List.map_cons, List.map_map]
    rfl
  · rw [List.map_map]
    rfl

/-! ## The recursion of a rule -/

theorem closingLine_cons_disable {lastLine start : Line} {marker : Marker} {rest : List Marker}
    (disables : marker.action = .disable) :
    closingLine lastLine start (marker :: rest) = closingLine lastLine start rest := by
  simp [closingLine, disables]

theorem closingLine_cons_enable {lastLine start : Line} {marker : Marker} {rest : List Marker}
    (enables : marker.action = .enable) :
    closingLine lastLine start (marker :: rest) = marker.line := by
  simp [closingLine, enables]

/-- What is open before the markers of a rule ends with the first range; the others are those that
the markers open, after a `disable` if something is open and after an `enable` if not. -/
theorem ruleRanges_eq (lastLine : Line) (opened : Option Line) (own : List Marker) :
    ruleRanges (max lastLine 1) opened own =
      match opened with
      | none => openedRangesAfter .enable lastLine own
      | some start =>
          ⟨start, closingLine lastLine start own⟩ :: openedRangesAfter .disable lastLine own := by
  induction own generalizing opened with
  | nil => cases opened <;> rfl
  | cons marker rest inductionHypothesis =>
      cases action : marker.action with
      | disable =>
          cases opened with
          | none => simp [ruleRanges, action, inductionHypothesis, openedRangesAfter_cons]
          | some start =>
              simp [ruleRanges, action, inductionHypothesis, openedRangesAfter_cons,
                closingLine_cons_disable action]
      | enable =>
          cases opened with
          | none => simp [ruleRanges, action, inductionHypothesis, openedRangesAfter_cons]
          | some start =>
              simp [ruleRanges, action, inductionHypothesis, openedRangesAfter_cons,
                closingLine_cons_enable action]

theorem rangesOf_eq_openedRanges (markers : List Marker) (lastLine : Line) (rule : String) :
    rangesOf markers lastLine rule =
      openedRanges lastLine (markersOf rule (sortByLine Marker.line markers)) := by
  rw [openedRanges_eq]
  exact ruleRanges_eq lastLine none _

/-! ## The result of tracking -/

/-- Tracking lists, by ascending rule, the rules that have an opening. Each has one range for each
of its openings, in their order, and a range ends no later than the next one starts. -/
theorem track_tabulates_openings (markers : List Marker) (lastLine : Line) :
    ∃ ranges, track markers lastLine = .ok ranges ∧
      Tabulates (fun rule =>
        openedRanges lastLine (markersOf rule (sortByLine Marker.line markers))) ranges ∧
      (∀ rule, rule ∈ ranges.map Prod.fst ↔
        ∃ position, OpensAt (markersOf rule (sortByLine Marker.line markers)) position) ∧
      ∀ entry ∈ ranges, entry.2.Pairwise fun earlier later =>
        earlier.endLine ≤ later.startLine := by
  have tabulates := tabulates_rangesOf markers lastLine
  refine ⟨_, track_eq markers lastLine, ?_, ?_, ?_⟩
  · exact funext (rangesOf_eq_openedRanges markers lastLine) ▸ tabulates
  · intro rule
    rw [tabulates.mem_rules_iff, rangesOf_eq_openedRanges, openedRanges_ne_nil_iff]
  · intro entry isEntry
    rw [eq_ruleRanges_of_mem isEntry]
    exact pairwise_ruleRanges (pairwise_markersOf entry.1 markers)

/-- Markers of two rules, in no order of lines. One rule is disabled again on the line of its
`enable`, and the other below the last line of the unit. -/
private def outOfOrder : List Marker :=
  [⟨"size", .disable, 9, false⟩, ⟨"name", .enable, 4, false⟩, ⟨"name", .disable, 4, false⟩,
    ⟨"name", .disable, 2, true⟩, ⟨"name", .disable, 3, false⟩]

/-- The `disable` on line three opens nothing, and the two ranges of the rule share line four. -/
theorem openings_out_of_order :
    ∃ ranges, track outOfOrder 6 = .ok ranges ∧
      ("name", [⟨2, 4⟩, ⟨4, 6⟩]) ∈ ranges ∧ ("size", [⟨9, 9⟩]) ∈ ranges ∧
      "rank" ∉ ranges.map Prod.fst ∧
      [(⟨2, 4⟩ : DisabledRange), ⟨4, 6⟩].Pairwise fun earlier later =>
        earlier.endLine ≤ later.startLine := by
  obtain ⟨ranges, tracked, tabulates, -, separated⟩ := track_tabulates_openings outOfOrder 6
  have inOrder : sortByLine Marker.line outOfOrder =
      [⟨"name", .disable, 2, true⟩, ⟨"name", .disable, 3, false⟩, ⟨"name", .enable, 4, false⟩,
        ⟨"name", .disable, 4, false⟩, ⟨"size", .disable, 9, false⟩] := by
    simp [sortByLine, outOfOrder, List.mergeSort]
  rw [inOrder] at tabulates
  have ofName : ("name", [⟨2, 4⟩, ⟨4, 6⟩]) ∈ ranges :=
    (tabulates.mem_iff _).2 ⟨by decide, by decide⟩
  have ofSize : ("size", [⟨9, 9⟩]) ∈ ranges := (tabulates.mem_iff _).2 ⟨by decide, by decide⟩
  have notRank : "rank" ∉ ranges.map Prod.fst := by
    rw [tabulates.mem_rules_iff]
    decide
  exact ⟨ranges, tracked, ofName, ofSize, notRank, separated _ ofName⟩

end Annotations.Suppressions
