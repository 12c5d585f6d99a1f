import Annotations.Suppression.Report
import Annotations.SymbolTable

/-!
Contract: the orders in which results are listed are linear.

Each of these orders compares one field after the other. It is transitive since
the fields' orders are, and it takes two values for equal only if all fields
agree. So a sorted list of paths, ranges or entries is determined by its items
alone, whatever order they came in.

Owns:

- the lawfulness of the orders of `Path`, `DisabledRange` and `ReportEntry`;
- the transitivity of the order in which changes are listed, and that it tells paths apart.

Does not own:

- what follows for sorted lists; see `Annotations.Proofs.Sorting`.
-/

namespace Annotations

theorem Kind.label_injective {left right : Kind} (same : left.label = right.label) :
    left = right := by
  cases left <;> cases right <;> first | rfl | exact absurd same (by decide)

instance : Std.TransOrd Path :=
  inferInstanceAs (Std.TransCmp (compareLex (compareOn Path.scope)
    (compareLex (compareOn Path.name) (compareOn fun path : Path => path.kind.label))))

instance : Std.LawfulEqOrd Path where
  eq_of_compare {left right} same := by
    obtain ⟨sameScope, rest⟩ := Ordering.then_eq_eq.1 same
    obtain ⟨sameName, sameLabel⟩ := Ordering.then_eq_eq.1 rest
    have scopes : left.scope = right.scope := Std.LawfulEqOrd.eq_of_compare sameScope
    have names : left.name = right.name := Std.LawfulEqOrd.eq_of_compare sameName
    have kinds : left.kind = right.kind :=
      Kind.label_injective (Std.LawfulEqOrd.eq_of_compare sameLabel)
    cases left
    cases right
    simp_all

instance : Std.TransOrd DisabledRange :=
  inferInstanceAs (Std.TransCmp (compareLex (compareOn DisabledRange.startLine)
    (compareOn DisabledRange.endLine)))

instance : Std.LawfulEqOrd DisabledRange where
  eq_of_compare {left right} same := by
    obtain ⟨sameStart, sameEnd⟩ := Ordering.then_eq_eq.1 same
    have starts : left.startLine = right.startLine := Std.LawfulEqOrd.eq_of_compare sameStart
    have ends : left.endLine = right.endLine := Std.LawfulEqOrd.eq_of_compare sameEnd
    cases left
    cases right
    simp_all

instance : Std.TransOrd ReportEntry :=
  inferInstanceAs (Std.TransCmp (compareLex (compareOn ReportEntry.unitId)
    (compareOn ReportEntry.range)))

instance : Std.LawfulEqOrd ReportEntry where
  eq_of_compare {left right} same := by
    obtain ⟨sameUnit, sameRange⟩ := Ordering.then_eq_eq.1 same
    have units : left.unitId = right.unitId := Std.LawfulEqOrd.eq_of_compare sameUnit
    have ranges : left.range = right.range := Std.LawfulEqOrd.eq_of_compare sameRange
    cases left
    cases right
    simp_all

instance : Std.TransCmp Change.compareBySite :=
  inferInstanceAs (Std.TransCmp (compareLex (compareOn Change.unitId)
    (compareLex (compareOn Change.line) (compareOn Change.path))))

/-- Changes that are listed as alike are changes of one path. -/
theorem Change.path_eq_of_compareBySite {left right : Change}
    (alike : Change.compareBySite left right = .eq) : left.path = right.path := by
  obtain ⟨-, rest⟩ := Ordering.then_eq_eq.1 alike
  obtain ⟨-, samePath⟩ := Ordering.then_eq_eq.1 rest
  exact Std.LawfulEqOrd.eq_of_compare samePath

end Annotations
