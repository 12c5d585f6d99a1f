import Annotations.Run
import Annotations.Proofs.Order
import Annotations.Proofs.Sorting

/-!
Contract: what a report over several units holds.

A report files every range it is given, with the unit and under the rule, and
drops nothing. Its mapping shows the filed ranges sorted, so it depends on which
ranges were filed and how often, but not on the order of the units.

Owns:

- `located`, the ranges of one unit as a report files them;
- the ranges filed by unit reports, and when two reports have one mapping.
-/

namespace Annotations

def located (unitId : UnitId) (ranges : SuppressionMap) : List (String × ReportEntry) :=
  (unfiled ranges).map fun (rule, range) => (rule, ⟨unitId, range⟩)

namespace SuppressionReport

theorem filed_append (report : SuppressionReport) (unitId : UnitId) (ranges : SuppressionMap) :
    (report.append unitId ranges).filed = report.filed ++ located unitId ranges := by
  unfold append located unfiled
  rw [List.map_flatMap]
  simp only [List.map_map, Function.comp_def]

theorem filed_collect (report : SuppressionReport) (unitReports : List UnitReport) :
    (Run.collect report unitReports).filed =
      report.filed ++ unitReports.flatMap fun unitReport =>
        located unitReport.unitId unitReport.suppressions := by
  induction unitReports generalizing report with
  | nil => simp [Run.collect]
  | cons unitReport rest inductionHypothesis =>
      change (Run.collect (report.append unitReport.unitId unitReport.suppressions) rest).filed = _
      rw [inductionHypothesis, filed_append, List.append_assoc, List.flatMap_cons]

theorem asMapping_eq_of_perm {left right : SuppressionReport}
    (permuted : left.filed.Perm right.filed) : left.asMapping = right.asMapping :=
  groupByRule_eq_of_perm permuted

/-- The mapping shows what was filed, each entry as often as it was filed. -/
theorem unfiled_asMapping_perm (report : SuppressionReport) :
    (unfiled report.asMapping).Perm report.filed :=
  unfiled_groupByRule_perm report.filed

end SuppressionReport

end Annotations
