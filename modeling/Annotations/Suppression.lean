import Annotations.Marker

/-!
Contract: the line ranges over which a unit's markers disable rules.

Markers take effect in line order. The first `disable` of a rule opens a range
and the next `enable` closes it, both lines included; a range still open at the
end closes with the last line of the unit. A `disable` of a rule that is already
disabled, an `enable` of one that is not, and a marker above line one change
nothing.

Owns:

- `DisabledRange` and the bounds it is built with;
- `Suppressions.track`, the fold over markers;
- `Tracker`, which reads a unit's comments under a tag and a set of known rules.

Does not own:

- ranges collected over several units; see `Annotations.Suppression.Report`.
-/

namespace Annotations

/-- Bounds that make no range: the start lies above line one or below the end. -/
structure InvalidRange where
  startLine : Line
  endLine : Line
deriving DecidableEq, Repr

def InvalidRange.message (error : InvalidRange) : String :=
  s!"Invalid disabled range [{error.startLine}, {error.endLine}]"

/-- Lines from `startLine` to `endLine`, both included. -/
structure DisabledRange where
  startLine : Line
  endLine : Line
deriving DecidableEq, Repr

namespace DisabledRange

/-- The bounds of a proper range: it starts at line one or below, and does not end before it
starts. -/
def IsValid (range : DisabledRange) : Prop :=
  1 ≤ range.startLine ∧ range.startLine ≤ range.endLine

instance (range : DisabledRange) : Decidable range.IsValid :=
  inferInstanceAs (Decidable (_ ∧ _))

/-- Build a range, refusing improper bounds. -/
def make (startLine endLine : Line) : Except InvalidRange DisabledRange :=
  let range : DisabledRange := ⟨startLine, endLine⟩
  if range.IsValid then .ok range else .error ⟨startLine, endLine⟩

def contains (range : DisabledRange) (line : Line) : Bool :=
  range.startLine ≤ line && line ≤ range.endLine

instance : Ord DisabledRange where
  compare left right :=
    (compare left.startLine right.startLine).then (compare left.endLine right.endLine)

/-- The range in words; a single line is given once. -/
def describe (range : DisabledRange) : String :=
  if range.startLine = range.endLine then s!"line {range.startLine}"
  else s!"lines {range.startLine}-{range.endLine}"

end DisabledRange

/-- The items filed under each rule: rules in ascending order, and the items of each in ascending
order. -/
def groupByRule {Item : Type} [Ord Item] (filed : List (String × Item)) :
    List (String × List Item) :=
  let rules := (filed.map Prod.fst).eraseDups.mergeSort fun left right => (compare left right).isLE
  rules.map fun rule =>
    (rule, ((filed.filter fun entry => entry.1 == rule).map Prod.snd).mergeSort
      fun left right => (compare left right).isLE)

/-- The disabled ranges of each rule, by ascending rule. -/
abbrev SuppressionMap := List (String × List DisabledRange)

namespace Suppressions

/-- The rules that are disabled at some point of the fold, with the line that disabled them, and the
ranges closed so far. -/
structure Progress where
  opened : List (String × Line)
  closed : List (String × DisabledRange)
deriving DecidableEq, Repr

def step (progress : Progress) (marker : Marker) : Except InvalidRange Progress :=
  if marker.line < 1 then .ok progress
  else
    match marker.action, progress.opened.lookup marker.rule with
    | .disable, some _ => .ok progress
    | .disable, none =>
        .ok { progress with opened := progress.opened ++ [(marker.rule, marker.line)] }
    | .enable, none => .ok progress
    | .enable, some start => do
        let range ← DisabledRange.make start marker.line
        .ok
          { opened := progress.opened.filter fun entry => entry.1 != marker.rule
            closed := progress.closed ++ [(marker.rule, range)] }

/-- Close a range at the end of the unit, or where it starts if that is below. -/
def closeAt (lastLine : Line) (entry : String × Line) :
    Except InvalidRange (String × DisabledRange) := do
  let range ← DisabledRange.make entry.2 (max entry.2 (max lastLine 1))
  .ok (entry.1, range)

/-- The disabled ranges that markers leave in a unit of `lastLine` lines. -/
def track (markers : List Marker) (lastLine : Line) : Except InvalidRange SuppressionMap := do
  let progress ← (sortByLine Marker.line markers).foldlM step ⟨[], []⟩
  let atEnd ← progress.opened.mapM (closeAt lastLine)
  .ok (groupByRule (progress.closed ++ atEnd))

end Suppressions

/-- How a unit's comments are read: the tag of marker comments, and the known rules. Without known
rules every rule id is accepted. -/
structure Tracker where
  tag : String
  rules : List String
deriving DecidableEq, Repr

namespace Tracker

/-- The marker is of a known rule, or all rules are accepted. -/
def accepts (tracker : Tracker) (marker : Marker) : Bool :=
  tracker.rules.isEmpty || tracker.rules.contains marker.rule

/-- The markers of comments, in line order. -/
def markers (tracker : Tracker) (comments : List Comment) : List Marker :=
  ((sortByLine Comment.line comments).flatMap (Marker.ofComment tracker.tag)).filter tracker.accepts

def suppressions (tracker : Tracker) (comments : List Comment) (lineCount : Int) :
    Except InvalidRange SuppressionMap :=
  Suppressions.track (tracker.markers comments) lineCount

def processUnit (tracker : Tracker) (unit : SourceUnit) : Except InvalidRange SuppressionMap :=
  tracker.suppressions unit.comments unit.lineCount

end Tracker

end Annotations
