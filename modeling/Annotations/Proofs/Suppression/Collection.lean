import Mathlib.Data.List.DropRight
import Annotations.Proofs.Suppression.Aggregation

/-!
Contract: what a report shows, told from the maps it was given.

Only the maps since the last clear count. A report neither drops nor invents a
range, and shows all of them in one order: that of the rules, and within a rule
that of units and ranges. So neither the order of the maps nor their cuts show.

Owns:
- `ReportRequest`, the operations on a report, and `appendedBy`, what they leave
  appended;
- `SuppressionReport.Shows`, the agreement of a report with what was appended;
- `SuppressionReport.shows_whatever_order`.

Does not own: which ranges a unit has; see `Annotations.Proofs.Suppression.Coverage`.
-/

namespace Annotations

inductive ReportRequest where
  | append (unitId : UnitId) (ranges : SuppressionMap)
  | clear
deriving DecidableEq, Repr

def ReportRequest.located : ReportRequest → List (String × ReportEntry)
  | append unitId ranges => Annotations.located unitId ranges
  | clear => []

/-- The ranges that requests have appended since the last clear, as often as they were appended. -/
def appendedBy (requests : List ReportRequest) : List (String × ReportEntry) :=
  (requests.rtakeWhile fun request => decide (request ≠ .clear)).flatMap ReportRequest.located

theorem appendedBy_append_clear (requests : List ReportRequest) :
    appendedBy (requests ++ [.clear]) = [] := by
  unfold appendedBy
  rw [List.rtakeWhile_concat]
  rfl

theorem appendedBy_append_map (requests : List ReportRequest) (unitId : UnitId)
    (ranges : SuppressionMap) :
    appendedBy (requests ++ [.append unitId ranges]) =
      appendedBy requests ++ located unitId ranges := by
  unfold appendedBy
  rw [List.rtakeWhile_concat, if_pos (by simp), List.flatMap_append, List.flatMap_singleton]
  rfl

namespace SuppressionReport

def after (report : SuppressionReport) : ReportRequest → SuppressionReport
  | .append unitId ranges => report.append unitId ranges
  | .clear => empty

def ofRequests (requests : List ReportRequest) : SuppressionReport :=
  requests.foldl after empty

theorem ofRequests_append_singleton (requests : List ReportRequest) (request : ReportRequest) :
    ofRequests (requests ++ [request]) = (ofRequests requests).after request := by
  unfold ofRequests
  rw [List.foldl_append]
  rfl

/-- Filed is what was appended since the last clear. -/
theorem filed_ofRequests (requests : List ReportRequest) :
    (ofRequests requests).filed = appendedBy requests := by
  induction requests using List.reverseRecOn with
  | nil => rfl
  | append_singleton requests request inductionHypothesis =>
      rw [ofRequests_append_singleton]
      cases request with
      | clear =>
          rw [appendedBy_append_clear]
          rfl
      | append unitId ranges =>
          rw [after, filed_append, inductionHypothesis, appendedBy_append_map]

/-! ## The order of the maps -/

/-- What is appended after a clear is not mixed with what comes before it, and what comes after
other maps is added to them. -/
theorem filed_foldl_after_perm {left right : SuppressionReport}
    (permuted : left.filed.Perm right.filed) (requests : List ReportRequest) :
    (requests.foldl after left).filed.Perm (requests.foldl after right).filed := by
  induction requests generalizing left right with
  | nil => exact permuted
  | cons request rest inductionHypothesis =>
      apply inductionHypothesis
      cases request with
      | clear =>
          -- Both reports are without ranges now, whatever they held.
          exact .refl _
      | append unitId ranges =>
          rw [after, after, filed_append, filed_append]
          exact permuted.append_right _

theorem filed_foldl_maps (report : SuppressionReport) (maps : List (UnitId × SuppressionMap)) :
    ((maps.map fun map => ReportRequest.append map.1 map.2).foldl after report).filed =
      report.filed ++ maps.flatMap fun map => located map.1 map.2 := by
  induction maps generalizing report with
  | nil => simp
  | cons map rest inductionHypothesis =>
      rw [List.map_cons, List.foldl_cons, inductionHypothesis, after, filed_append,
        List.append_assoc, List.flatMap_cons]

/-- Where two sequences of maps hold the same ranges, it does not matter which is appended. -/
theorem asMapping_eq_of_maps {maps others : List (UnitId × SuppressionMap)}
    (permuted : (maps.flatMap fun map => located map.1 map.2).Perm
      (others.flatMap fun map => located map.1 map.2))
    (earlier later : List ReportRequest) :
    (ofRequests (earlier ++ (maps.map fun map => .append map.1 map.2) ++ later)).asMapping =
      (ofRequests (earlier ++ (others.map fun map => .append map.1 map.2) ++ later)).asMapping := by
  apply asMapping_eq_of_perm
  unfold ofRequests
  simp only [List.foldl_append]
  apply filed_foldl_after_perm
  rw [filed_foldl_maps, filed_foldl_maps]
  exact permuted.append_left _

/-- Cutting a map into parts keeps its ranges. -/
theorem located_parts_perm {ranges : SuppressionMap} {parts : List SuppressionMap}
    (cut : (parts.flatMap unfiled).Perm (unfiled ranges)) (unitId : UnitId) :
    (parts.flatMap (located unitId)).Perm (located unitId ranges) := by
  have whole := cut.map fun entry => (entry.1, (⟨unitId, entry.2⟩ : ReportEntry))
  rw [List.map_flatMap] at whole
  exact whole

/-! ## Agreement -/

/-- The view of a report shows exactly the given ranges: their rules in strictly ascending order,
and under each rule all its ranges, as often as given, by unit and range. -/
structure Shows (report : SuppressionReport) (given : List (String × ReportEntry)) : Prop where
  rules : ∀ rule, rule ∈ report.asMapping.map Prod.fst ↔ ∃ entry, (rule, entry) ∈ given
  ascendingRules : (report.asMapping.map Prod.fst).Pairwise fun left right =>
    compare left right = .lt
  entries : ∀ group ∈ report.asMapping,
    group.2.Perm ((given.filter fun entry => entry.1 = group.1).map Prod.snd)
  ascendingEntries : ∀ group ∈ report.asMapping, group.2.Pairwise fun left right =>
    (compare left right).isLE = true
  nonempty : report.isNonempty = true ↔ report.asMapping ≠ []

theorem shows_filed (report : SuppressionReport) : report.Shows report.filed := by
  constructor
  case rules => exact fun rule => mem_rules_groupByRule
  case ascendingRules => exact pairwise_rules_groupByRule report.filed
  case entries =>
    intro group isGroup
    rw [items_of_mem_groupByRule isGroup]
    exact List.mergeSort_perm _ _
  case ascendingEntries =>
    intro group isGroup
    rw [items_of_mem_groupByRule isGroup]
    exact pairwise_mergeSort_isLE compare _
  case nonempty =>
    have emptyTogether : report.asMapping = [] ↔ report.filed = [] := by
      rw [← List.map_eq_nil_iff (f := Prod.fst), List.eq_nil_iff_forall_not_mem,
        List.eq_nil_iff_forall_not_mem]
      simp only [asMapping, mem_rules_groupByRule]
      simp
    rw [Ne, emptyTogether]
    simp [isNonempty]

/-- After any maps and clears a report shows the ranges appended since the last clear. It does not
show in which order maps were appended, nor whether one was appended in parts. -/
theorem shows_whatever_order :
    (∀ requests, (ofRequests requests).Shows (appendedBy requests)) ∧
      (∀ (earlier later : List ReportRequest) (maps others : List (UnitId × SuppressionMap)),
        maps.Perm others →
          (ofRequests (earlier ++ (maps.map fun map => .append map.1 map.2) ++ later)).asMapping =
            (ofRequests
              (earlier ++ (others.map fun map => .append map.1 map.2) ++ later)).asMapping) ∧
      ∀ (earlier later : List ReportRequest) (unitId : UnitId) (ranges : SuppressionMap)
        (parts : List SuppressionMap), (parts.flatMap unfiled).Perm (unfiled ranges) →
          (ofRequests (earlier ++ parts.map (.append unitId) ++ later)).asMapping =
            (ofRequests (earlier ++ [.append unitId ranges] ++ later)).asMapping := by
  refine ⟨?_, ?_, ?_⟩
  · intro requests
    have shows := shows_filed (ofRequests requests)
    rw [filed_ofRequests] at shows
    exact shows
  · intro earlier later maps others permuted
    exact asMapping_eq_of_maps (permuted.flatMap_right _) earlier later
  · -- A map in one piece is a sequence of one map, so both are sequences with the same ranges.
    intro earlier later unitId ranges parts cut
    have sameRanges : ((parts.map (Prod.mk unitId)).flatMap fun map => located map.1 map.2).Perm
        ([(unitId, ranges)].flatMap fun map => located map.1 map.2) := by
      rw [List.flatMap_map, List.flatMap_singleton]
      exact located_parts_perm cut unitId
    have same := asMapping_eq_of_maps sameRanges earlier later
    rw [List.map_map] at same
    exact same

private def ofCart : SuppressionMap := [("name", [⟨1, 2⟩, ⟨6, 6⟩]), ("size", [⟨4, 9⟩])]

/-- The same ranges in two parts, between which those of one rule are divided. -/
private def partsOfCart : List SuppressionMap :=
  [[("name", [⟨6, 6⟩])], [("size", [⟨4, 9⟩]), ("name", [⟨1, 2⟩])]]

private def ofShop : SuppressionMap := [("name", [⟨3, 3⟩])]

/-- Two units in either order, the one as a whole or in parts, after ranges that were cleared. -/
theorem two_units_in_either_order :
    [("shop.py", ofShop), ("cart.py", ofCart)].Perm [("cart.py", ofCart), ("shop.py", ofShop)] ∧
      (partsOfCart.flatMap unfiled).Perm (unfiled ofCart) ∧
      (ofRequests [.append "old.py" ofShop, .clear, .append "shop.py" ofShop,
        .append "cart.py" ofCart]).asMapping =
        (ofRequests [.append "old.py" ofShop, .clear, .append "cart.py" ofCart,
          .append "shop.py" ofShop]).asMapping ∧
      (ofRequests [.append "shop.py" ofShop, .append "cart.py" [("name", [⟨6, 6⟩])],
        .append "cart.py" [("size", [⟨4, 9⟩]), ("name", [⟨1, 2⟩])]]).asMapping =
        [("name", [⟨"cart.py", ⟨1, 2⟩⟩, ⟨"cart.py", ⟨6, 6⟩⟩, ⟨"shop.py", ⟨3, 3⟩⟩]),
          ("size", [⟨"cart.py", ⟨4, 9⟩⟩])] := by
  have swapped : [("shop.py", ofShop), ("cart.py", ofCart)].Perm
      [("cart.py", ofCart), ("shop.py", ofShop)] := .swap _ _ _
  have cut : (partsOfCart.flatMap unfiled).Perm (unfiled ofCart) := by decide
  obtain ⟨-, anyOrder, anyParts⟩ := shows_whatever_order
  refine ⟨swapped, cut, anyOrder [.append "old.py" ofShop, .clear] [] _ _ swapped, ?_⟩
  refine (anyParts [.append "shop.py" ofShop] [] "cart.py" ofCart partsOfCart cut).trans ?_
  have rules : compare "name" "size" = .lt := by decide
  have byRange : compare (⟨"cart.py", ⟨1, 2⟩⟩ : ReportEntry) ⟨"cart.py", ⟨6, 6⟩⟩ = .lt := by decide
  have byUnit : ∀ range ∈ [(⟨1, 2⟩ : DisabledRange), ⟨6, 6⟩],
      compare (⟨"shop.py", ⟨3, 3⟩⟩ : ReportEntry) ⟨"cart.py", range⟩ = .gt := by decide
  simp only [List.forall_mem_cons] at byUnit
  change groupByRule ([("name", ⟨"shop.py", ⟨3, 3⟩⟩), ("name", ⟨"cart.py", ⟨1, 2⟩⟩),
    ("name", ⟨"cart.py", ⟨6, 6⟩⟩), ("size", ⟨"cart.py", ⟨4, 9⟩⟩)] :
      List (String × ReportEntry)) = _
  simp [groupByRule, List.eraseDups_cons, List.mergeSort, rules, byRange, byUnit]

end SuppressionReport

end Annotations
