import Annotations.Proofs.Reachable
import Annotations.Proofs.Suppression.Aggregation

/-!
Contract: how the parts of a run fit together in every state.

A run keeps its units, the pending identifiers, the unit reports, the symbols and
the collected ranges apart, and each request changes some of them. They always
agree on which units were analysed: these have a report, their declarations are
registered and their ranges collected, each exactly once.

Owns:

- `Run.IsConsistent`, the agreement of the parts;
- `History.isConsistent_of_requests`, that no sequence of requests breaks it.
-/

namespace Annotations

def Run.analysedUnits (run : Run) : List SourceUnit :=
  run.units.filter fun unit => decide (unit.unitId ∉ run.pending)

/-- The collected ranges are those of the analysed units, each once, and a run that does not track
suppressions collects none. -/
structure Run.IsCollected (run : Run) : Prop where
  tracked : run.options.suppressionsEnabled = true →
    ∃ ranges : SourceUnit → SuppressionMap,
      (∀ unit ∈ run.analysedUnits, run.options.tracker.processUnit unit = .ok (ranges unit)) ∧
        (unfiled run.report.asMapping).Perm
          (run.analysedUnits.flatMap fun unit => located unit.unitId (ranges unit))
  untracked : run.options.suppressionsEnabled = false → run.report.asMapping = []
  rulesOnce : (run.report.asMapping.map Prod.fst).Nodup
  nonempty : ∀ group ∈ run.report.asMapping, group.2 ≠ []

/-- The parts of a run agree on which units were analysed. -/
structure Run.IsConsistent (run : Run) : Prop where
  distinct : (run.pending ++ run.unitReports.map UnitReport.unitId).Nodup
  covered : run.unitIds.Perm (run.pending ++ run.unitReports.map UnitReport.unitId)
  ordered : run.pending.Sublist run.unitIds
  registered : ∀ path, path ∈ run.symbols.map Symbol.path ↔ Declares run.analysedUnits path
  collected : run.IsCollected

namespace History

/-! ## The parts of a replay -/

theorem analysedUnits_replay (options : RunOptions) {history : History}
    (distinct : history.IsDistinct) :
    (replay options history).analysedUnits = history.analysed.flatten := by
  unfold IsDistinct units at distinct
  rw [List.map_append, List.nodup_append] at distinct
  have analysedKept : history.analysed.flatten.filter (fun unit =>
      decide (unit.unitId ∉ history.pending.map SourceUnit.unitId)) =
        history.analysed.flatten := by
    rw [List.filter_eq_self]
    intro unit isAnalysed
    rw [decide_eq_true_eq]
    intro isPending
    exact distinct.2.2 _ (List.mem_map_of_mem isAnalysed) _ isPending rfl
  have pendingDropped : history.pending.filter (fun unit =>
      decide (unit.unitId ∉ history.pending.map SourceUnit.unitId)) = [] := by
    rw [List.filter_eq_nil_iff]
    intro unit isPending
    rw [decide_eq_true_eq]
    exact not_not_intro (List.mem_map_of_mem isPending)
  change (history.analysed.flatten ++ history.pending).filter _ = _
  rw [List.filter_append]
  exact (congrArg₂ (· ++ ·) analysedKept pendingDropped).trans (List.append_nil _)

theorem unitIds_reportsAfter (options : RunOptions) (batches : List (List SourceUnit)) :
    (reportsAfter options batches).map UnitReport.unitId =
      batches.flatten.map SourceUnit.unitId := by
  rw [← map_fst_withKnown [] batches, List.map_map]
  unfold reportsAfter
  rw [List.map_map]
  rfl

/-- A replay has filed the ranges of its analysed units, unit after unit. -/
theorem filed_replay (options : RunOptions) (history : History) :
    (replay options history).report.filed =
      history.analysed.flatten.flatMap fun unit =>
        located unit.unitId (unitSuppressions options unit) := by
  change (Run.collect SuppressionReport.empty (reportsAfter options history.analysed)).filed = _
  rw [SuppressionReport.filed_collect]
  unfold reportsAfter
  rw [← map_fst_withKnown [] history.analysed, List.flatMap_map, List.flatMap_map]
  rfl

/-- The answer of a run that is asked for the collected ranges. -/
theorem perform_suppressions_replay (options : RunOptions) {history : History}
    (distinct : history.IsDistinct) :
    ((replay options history).perform .suppressions).1 =
      .ok (.suppressions (if options.suppressionsEnabled then
        (replay options history.analyse).report.asMapping else [])) := by
  rw [Run.perform, suppressionReport_replay options distinct]
  rfl

theorem isDistinct_of_batches {batches : List (List SourceUnit)}
    (distinct : (batches.flatten.map SourceUnit.unitId).Nodup) : IsDistinct ⟨batches, []⟩ := by
  unfold IsDistinct units
  rw [List.append_nil]
  exact distinct

/-- Neither the order of the units nor the cuts between batches show in the collected ranges. -/
theorem exists_suppressions_of_perm (options : RunOptions) {batches others : List (List SourceUnit)}
    (distinct : (batches.flatten.map SourceUnit.unitId).Nodup)
    (permuted : batches.flatten.Perm others.flatten) :
    ∃ mapping,
      ((replay options ⟨batches, []⟩).perform .suppressions).1 = .ok (.suppressions mapping) ∧
        ((replay options ⟨others, []⟩).perform .suppressions).1 = .ok (.suppressions mapping) := by
  have distinctOthers : (others.flatten.map SourceUnit.unitId).Nodup :=
    (permuted.map SourceUnit.unitId).nodup_iff.1 distinct
  have sameMapping : (replay options (analyse ⟨batches, []⟩)).report.asMapping =
      (replay options (analyse ⟨others, []⟩)).report.asMapping := by
    apply SuppressionReport.asMapping_eq_of_perm
    rw [filed_replay, filed_replay]
    simpa [analyse] using permuted.flatMap_right _
  refine ⟨_, perform_suppressions_replay options (isDistinct_of_batches distinct), ?_⟩
  rw [sameMapping]
  exact perform_suppressions_replay options (isDistinct_of_batches distinctOthers)

theorem processUnit_eq_unitSuppressions {options : RunOptions}
    (enabled : options.suppressionsEnabled = true) (unit : SourceUnit) :
    options.tracker.processUnit unit = .ok (unitSuppressions options unit) := by
  unfold Tracker.processUnit Tracker.suppressions unitSuppressions
  rw [Suppressions.track_eq, if_pos enabled]

/-! ## The invariant -/

theorem isCollected_replay (options : RunOptions) {history : History}
    (distinct : history.IsDistinct) : (replay options history).IsCollected where
  tracked := by
    intro enabled
    refine ⟨unitSuppressions options, ?_, ?_⟩
    · intro unit _
      exact processUnit_eq_unitSuppressions enabled unit
    · rw [analysedUnits_replay options distinct, ← filed_replay]
      exact SuppressionReport.unfiled_asMapping_perm _
  untracked := by
    intro disabled
    have disabledHere : options.suppressionsEnabled = false := disabled
    have noneFiled : (replay options history).report.filed = [] := by
      rw [filed_replay, List.flatMap_eq_nil_iff]
      intro unit _
      simp [unitSuppressions, disabledHere, located, unfiled]
    unfold SuppressionReport.asMapping
    rw [noneFiled]
    simp [groupByRule]
  rulesOnce := nodup_rules_groupByRule _
  nonempty := fun _ isGroup => ne_nil_of_mem_groupByRule isGroup

theorem isConsistent_replay (options : RunOptions) {history : History}
    (distinct : history.IsDistinct) : (replay options history).IsConsistent := by
  have reportIds : (replay options history).unitReports.map UnitReport.unitId =
      history.analysed.flatten.map SourceUnit.unitId :=
    unitIds_reportsAfter options history.analysed
  have unitIds : (replay options history).unitIds =
      history.analysed.flatten.map SourceUnit.unitId ++
        history.pending.map SourceUnit.unitId := List.map_append
  constructor
  case distinct =>
    rw [reportIds]
    refine List.perm_append_comm.nodup_iff.2 ?_
    have inOrder : ((replay options history).unitIds).Nodup := distinct
    rw [unitIds] at inOrder
    exact inOrder
  case covered =>
    rw [reportIds, unitIds]
    exact List.perm_append_comm
  case ordered =>
    rw [unitIds]
    exact List.sublist_append_right _ _
  case registered =>
    intro path
    rw [analysedUnits_replay options distinct, ← isSome_firstSite?_iff, ← site?_tableAfter options]
    exact SymbolTable.mem_paths_symbols_iff
  case collected => exact isCollected_replay options distinct

/-- Whatever requests a run is given, refused ones included, its parts agree on which units were
analysed. So no unit is counted twice, and none is dropped. -/
theorem isConsistent_of_requests (options : RunOptions) (requests : List Request) :
    ((Run.fresh options).performAll requests).2.options = options ∧
      ((Run.fresh options).performAll requests).2.IsConsistent := by
  obtain ⟨history, distinct, reached⟩ := performAll_fresh options requests
  rw [reached]
  exact ⟨rfl, isConsistent_replay options distinct⟩

end History

end Annotations
