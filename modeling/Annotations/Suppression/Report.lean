import Annotations.Suppression

/-!
Contract: disabled ranges collected over several units.

Owns:

- `SuppressionReport`, to which whole maps are added;
- its view as a mapping, sorted by rule, unit and range.
-/

namespace Annotations

structure ReportEntry where
  unitId : UnitId
  range : DisabledRange
deriving DecidableEq, Repr

instance : Ord ReportEntry where
  compare left right :=
    (compare left.unitId right.unitId).then (compare left.range right.range)

abbrev ReportMapping := List (String × List ReportEntry)

/-- The ranges collected so far, each filed under its rule, in the order of arrival. -/
structure SuppressionReport where
  filed : List (String × ReportEntry)
deriving DecidableEq, Repr

namespace SuppressionReport

def empty : SuppressionReport := ⟨[]⟩

def append (report : SuppressionReport) (unitId : UnitId) (ranges : SuppressionMap) :
    SuppressionReport :=
  ⟨report.filed ++
    ranges.flatMap fun (rule, disabled) => disabled.map fun range => (rule, ⟨unitId, range⟩)⟩

/-- The rules with at least one range, and their entries, in ascending order. -/
def asMapping (report : SuppressionReport) : ReportMapping :=
  groupByRule report.filed

def isNonempty (report : SuppressionReport) : Bool :=
  !report.filed.isEmpty

end SuppressionReport

end Annotations
