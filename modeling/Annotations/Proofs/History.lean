import Mathlib.Data.List.Induction
import Annotations.Run.Session
import Annotations.Proofs.Declaration
import Annotations.Proofs.Resolution
import Annotations.Proofs.Suppression.Fold

/-!
Contract: the state of a run as a function of the units it was given.

The state of a run is determined by its history: the batches that were analysed,
in order, and the units that are pending. `History.replay` computes the state
from the history, and every operation of a run is an operation on histories. So
what holds of a run is proved of `replay`, by induction on batches. The units of a
batch are processed in order; for runs whose workers step in turn see
`Annotations.Proofs.Parallel.Processed`.

Owns:

- `History`, `History.replay` and the table and reports it is made of;
- `performAll_batches`, that analysing batch after batch is never refused and
  ends in the replay of those batches.

Does not own:

- what the replayed table and reports say; see `Annotations.Proofs.Visibility`
  and `Annotations.Proofs.Diagnostics`.
-/

namespace Annotations

/-- The units that a run was given since it was started or reset: the batches that were analysed,
and the units still pending. -/
structure History where
  analysed : List (List SourceUnit)
  pending : List SourceUnit
deriving DecidableEq, Repr

/-- Each unit of some batches with the units that are registered when its directives are processed:
those of its own batch and of all before it. -/
def withKnown (earlier : List SourceUnit) :
    List (List SourceUnit) → List (SourceUnit × List SourceUnit)
  | [] => []
  | batch :: rest =>
      batch.map (fun unit => (unit, earlier ++ batch)) ++ withKnown (earlier ++ batch) rest

theorem withKnown_append_singleton (earlier : List SourceUnit) (batches : List (List SourceUnit))
    (batch : List SourceUnit) :
    withKnown earlier (batches ++ [batch]) =
      withKnown earlier batches ++
        batch.map fun unit => (unit, earlier ++ batches.flatten ++ batch) := by
  induction batches generalizing earlier with
  | nil => simp [withKnown]
  | cons first rest inductionHypothesis =>
      simp only [List.cons_append, withKnown, inductionHypothesis, List.flatten_cons,
        List.append_assoc]

theorem map_fst_withKnown (earlier : List SourceUnit) (batches : List (List SourceUnit)) :
    (withKnown earlier batches).map Prod.fst = batches.flatten := by
  induction batches generalizing earlier with
  | nil => rfl
  | cons batch rest inductionHypothesis =>
      simp [withKnown, inductionHypothesis, Function.comp_def]

/-- The unit of batch `k` knows the units of the first `k + 1` batches. -/
theorem mem_withKnown_iff {batches : List (List SourceUnit)} {unit : SourceUnit}
    {known : List SourceUnit} :
    (unit, known) ∈ withKnown [] batches ↔
      ∃ k batch, batches[k]? = some batch ∧ unit ∈ batch ∧
        known = (batches.take (k + 1)).flatten := by
  suffices general : ∀ earlier, (unit, known) ∈ withKnown earlier batches ↔
      ∃ k batch, batches[k]? = some batch ∧ unit ∈ batch ∧
        known = earlier ++ (batches.take (k + 1)).flatten by
    simpa using general []
  induction batches with
  | nil => simp [withKnown]
  | cons first rest inductionHypothesis =>
      intro earlier
      rw [withKnown, List.mem_append, inductionHypothesis]
      constructor
      · intro isKnown
        rcases isKnown with inFirst | ⟨k, batch, isBatch, isUnit, rfl⟩
        · obtain ⟨member, isMember, same⟩ := List.mem_map.1 inFirst
          obtain ⟨rfl, rfl⟩ := Prod.mk.inj same
          exact ⟨0, first, rfl, isMember, by simp⟩
        · exact ⟨k + 1, batch, isBatch, isUnit, by simp⟩
      · intro inBatch
        obtain ⟨k, batch, isBatch, isUnit, rfl⟩ := inBatch
        cases k with
        | zero =>
            obtain rfl := Option.some.inj isBatch
            exact Or.inl (List.mem_map.2 ⟨unit, isUnit, by simp⟩)
        | succ k => exact Or.inr ⟨k, batch, isBatch, isUnit, by simp⟩

namespace History

/-! ## The replayed state -/

def units (history : History) : List SourceUnit :=
  history.analysed.flatten ++ history.pending

/-- The applications that the units of a batch make, once the batch is registered. -/
def batchApplications (catalog : Catalog) (sites : Path → Option Site) (batch : List SourceUnit) :
    List Application :=
  batch.flatMap fun unit => Resolver.applications ⟨unit.unitId, catalog⟩ sites unit

def analyseBatch (catalog : Catalog) (table : SymbolTable) (batch : List SourceUnit) :
    SymbolTable :=
  (Run.declareUnits table batch).applyAll
    (batchApplications catalog (Run.declareUnits table batch).site? batch)

def tableAfter (options : RunOptions) (batches : List (List SourceUnit)) : SymbolTable :=
  batches.foldl (analyseBatch options.catalog) (SymbolTable.empty options.tracksChanges)

def unitSuppressions (options : RunOptions) (unit : SourceUnit) : SuppressionMap :=
  if options.suppressionsEnabled then
    groupByRule ((Suppressions.finalProgress (options.tracker.markers unit.comments)).filed
      unit.lineCount)
  else []

/-- The report of a unit whose directives see some declared sites. -/
def unitReport (options : RunOptions) (sites : Path → Option Site) (unit : SourceUnit) :
    UnitReport :=
  ⟨unit.unitId, Resolver.failures ⟨unit.unitId, options.catalog⟩ sites unit,
    unitSuppressions options unit⟩

def reportsAfter (options : RunOptions) (batches : List (List SourceUnit)) : List UnitReport :=
  (withKnown [] batches).map fun entry => unitReport options (firstSite? entry.2) entry.1

/-- The run that has a history. -/
def replay (options : RunOptions) (history : History) : Run :=
  { options := options
    units := history.units
    pending := history.pending.map SourceUnit.unitId
    unitReports := reportsAfter options history.analysed
    table := tableAfter options history.analysed
    report := Run.collect SuppressionReport.empty (reportsAfter options history.analysed) }

theorem replay_empty (options : RunOptions) : replay options ⟨[], []⟩ = Run.fresh options := rfl

/-! ## Sites of the replayed table -/

theorem tableAfter_append_singleton (options : RunOptions) (batches : List (List SourceUnit))
    (batch : List SourceUnit) :
    tableAfter options (batches ++ [batch]) =
      analyseBatch options.catalog (tableAfter options batches) batch := by
  unfold tableAfter
  rw [List.foldl_append]
  rfl

/-- After some batches a path is registered at its first declaration. -/
theorem site?_tableAfter (options : RunOptions) (batches : List (List SourceUnit)) :
    (tableAfter options batches).site? = firstSite? batches.flatten := by
  induction batches using List.reverseRecOn with
  | nil => rfl
  | append_singleton batches batch inductionHypothesis =>
      funext path
      rw [tableAfter_append_singleton, analyseBatch, SymbolTable.site?_applyAll,
        Run.site?_declareUnits, inductionHypothesis, List.flatten_append, List.flatten_singleton,
        firstSite?_append]

/-- The sites that the directives of a batch see. -/
theorem site?_declareUnits_tableAfter (options : RunOptions) (batches : List (List SourceUnit))
    (batch : List SourceUnit) :
    (Run.declareUnits (tableAfter options batches) batch).site? =
      firstSite? (batches.flatten ++ batch) := by
  funext path
  rw [Run.site?_declareUnits, site?_tableAfter, firstSite?_append]

/-! ## Adding -/

theorem addUnits_replay (options : RunOptions) (history : History) (units : List SourceUnit)
    (distinct : ((history.units ++ units).map SourceUnit.unitId).Nodup) :
    (replay options history).addUnits units =
      (none, replay options ⟨history.analysed, history.pending ++ units⟩) := by
  induction units generalizing history with
  | nil => simp [Run.addUnits]
  | cons unit rest inductionHypothesis =>
      have isNew : unit.unitId ∉ (replay options history).unitIds := by
        rw [List.map_append, List.nodup_append] at distinct
        intro isOld
        exact distinct.2.2 _ isOld _ (by simp) rfl
      have added : (replay options history).addUnit unit =
          .ok (replay options ⟨history.analysed, history.pending ++ [unit]⟩) := by
        unfold Run.addUnit
        rw [if_neg isNew]
        simp [replay, units]
      rw [Run.addUnits, added]
      have distinctRest : ((History.units ⟨history.analysed, history.pending ++ [unit]⟩ ++
          rest).map SourceUnit.unitId).Nodup := by
        simpa [units] using distinct
      simpa using inductionHypothesis ⟨history.analysed, history.pending ++ [unit]⟩ distinctRest

/-! ## Analysing -/

theorem trackUnit_eq (options : RunOptions) (unit : SourceUnit) :
    Run.trackUnit options unit = .ok (unitSuppressions options unit) := by
  unfold Run.trackUnit unitSuppressions Tracker.processUnit Tracker.suppressions
  rw [Suppressions.track_eq]
  cases options.suppressionsEnabled <;> rfl

theorem processUnit_eq (options : RunOptions) (table : SymbolTable) (unit : SourceUnit) :
    Run.processUnit options table unit =
      .ok (unitReport options table.site? unit,
        table.applyAll (batchApplications options.catalog table.site? [unit])) := by
  unfold Run.processUnit
  simp only [Resolver.processUnit_eq, trackUnit_eq, batchApplications, List.flatMap_cons,
    List.flatMap_nil, List.append_nil]
  rfl

/-- Processing units is never refused: each gets its report, and all applications are made. -/
theorem processUnits_eq (options : RunOptions) (table : SymbolTable) (units : List SourceUnit) :
    Run.processUnits options table units =
      .ok (units.map (unitReport options table.site?),
        table.applyAll (batchApplications options.catalog table.site? units)) := by
  induction units generalizing table with
  | nil => rfl
  | cons unit rest inductionHypothesis =>
      rw [Run.processUnits, processUnit_eq]
      simp only [bind, Except.bind]
      rw [inductionHypothesis, SymbolTable.site?_applyAll, ← SymbolTable.applyAll_append]
      simp only [batchApplications, ← List.flatMap_append, List.singleton_append, List.map_cons]

/-- The pending identifiers stand for the pending units. -/
theorem pendingUnits_replay (options : RunOptions) (history : History)
    (distinct : (history.units.map SourceUnit.unitId).Nodup) :
    (replay options history).pendingUnits = history.pending := by
  have found : ∀ unit ∈ history.pending,
      (replay options history).unit? unit.unitId = some unit := by
    intro unit isPending
    have isUnit : unit ∈ history.units := List.mem_append_right _ isPending
    cases answer : (replay options history).unit? unit.unitId with
    | none =>
        have differs := List.find?_eq_none.1 answer unit isUnit
        simp at differs
    | some other =>
        have sameId : other.unitId = unit.unitId := by simpa using List.find?_some answer
        have otherIsUnit : other ∈ history.units := List.mem_of_find?_eq_some answer
        rw [List.inj_on_of_nodup_map distinct otherIsUnit isUnit sameId]
  unfold Run.pendingUnits
  change (history.pending.map SourceUnit.unitId).filterMap _ = _
  rw [List.filterMap_map]
  calc history.pending.filterMap ((replay options history).unit? ∘ SourceUnit.unitId)
      = history.pending.filterMap some := List.filterMap_congr found
    _ = history.pending := List.filterMap_some

theorem reportsAfter_append_singleton (options : RunOptions) (batches : List (List SourceUnit))
    (batch : List SourceUnit) :
    reportsAfter options (batches ++ [batch]) =
      reportsAfter options batches ++
        batch.map (unitReport options (firstSite? (batches.flatten ++ batch))) := by
  unfold reportsAfter
  rw [withKnown_append_singleton, List.map_append, List.map_map]
  rfl

/-- Analysing is never refused. It turns the pending units into one more analysed batch. -/
theorem analyze_replay (options : RunOptions) (history : History)
    (distinct : (history.units.map SourceUnit.unitId).Nodup) :
    (replay options history).analyze =
      .ok (history.pending.map (unitReport options (firstSite? history.units)),
        replay options ⟨history.analysed ++ [history.pending], []⟩) := by
  have sites : (Run.declareUnits (replay options history).table history.pending).site? =
      firstSite? history.units :=
    site?_declareUnits_tableAfter options history.analysed history.pending
  unfold Run.analyze
  simp only [pendingUnits_replay options history distinct, processUnits_eq, sites]
  simp only [bind, Except.bind, replay, reportsAfter_append_singleton, tableAfter_append_singleton,
    Run.collect, List.foldl_append]
  simp only [analyseBatch, units, site?_declareUnits_tableAfter]
  simp

/-! ## Batches -/

theorem perform_addMany_replay (options : RunOptions) (history : History) (units : List SourceUnit)
    (distinct : ((history.units ++ units).map SourceUnit.unitId).Nodup) :
    (replay options history).perform (.addMany units) =
      (.ok (.unitIds (replay options ⟨history.analysed, history.pending ++ units⟩).unitIds),
        replay options ⟨history.analysed, history.pending ++ units⟩) := by
  rw [Run.perform, addUnits_replay options history units distinct]
  rfl

theorem perform_analyze_replay (options : RunOptions) (history : History)
    (distinct : (history.units.map SourceUnit.unitId).Nodup) :
    (replay options history).perform .analyze =
      (.ok (.unitReports (history.pending.map (unitReport options (firstSite? history.units)))),
        replay options ⟨history.analysed ++ [history.pending], []⟩) := by
  rw [Run.perform, analyze_replay options history distinct]
  rfl

theorem performAll_append (run : Run) (first second : List Request) :
    run.performAll (first ++ second) =
      ((run.performAll first).1 ++ ((run.performAll first).2.performAll second).1,
        ((run.performAll first).2.performAll second).2) := by
  induction first generalizing run with
  | nil => rfl
  | cons request rest inductionHypothesis =>
      simp only [List.cons_append, Run.performAll, inductionHypothesis]

def batchRequests (batches : List (List SourceUnit)) : List Request :=
  batches.flatMap fun batch => [.addMany batch, .analyze]

/-- Batches that follow analysed ones are analysed one after the other, and every request is
answered. -/
theorem performAll_batches_replay (options : RunOptions) (earlier batches : List (List SourceUnit))
    (distinct : ((earlier ++ batches).flatten.map SourceUnit.unitId).Nodup) :
    ∃ answers,
      (replay options ⟨earlier, []⟩).performAll (batchRequests batches) =
        (answers, replay options ⟨earlier ++ batches, []⟩) ∧
      ∀ answer ∈ answers, ∃ value, answer = .ok value := by
  induction batches generalizing earlier with
  | nil => exact ⟨[], by simp [batchRequests, Run.performAll], by simp⟩
  | cons batch rest inductionHypothesis =>
      have distinctBatch : ((History.units ⟨earlier, batch⟩).map SourceUnit.unitId).Nodup := by
        refine distinct.sublist ?_
        simp [units]
      have added := perform_addMany_replay options ⟨earlier, []⟩ batch
        (by simpa [units] using distinctBatch)
      have analysed := perform_analyze_replay options ⟨earlier, batch⟩ distinctBatch
      obtain ⟨answers, performed, answered⟩ := inductionHypothesis (earlier ++ [batch])
        (by simpa using distinct)
      rw [List.append_assoc, List.singleton_append] at performed
      have requests : batchRequests (batch :: rest) =
          .addMany batch :: .analyze :: batchRequests rest := rfl
      rw [requests, Run.performAll, added]
      simp only [List.nil_append, Run.performAll, analysed, performed]
      refine ⟨_, rfl, ?_⟩
      intro answer isAnswer
      rcases List.mem_cons.1 isAnswer with rfl | later
      · exact ⟨_, rfl⟩
      · rcases List.mem_cons.1 later with rfl | later
        · exact ⟨_, rfl⟩
        · exact answered answer later

/-- Analysing batch after batch answers every request, and ends in the replay of the batches. -/
theorem performAll_batches (options : RunOptions) (batches : List (List SourceUnit))
    (distinct : (batches.flatten.map SourceUnit.unitId).Nodup) :
    ∃ answers,
      (Run.fresh options).performAll (batchRequests batches) =
        (answers, replay options ⟨batches, []⟩) ∧
      ∀ answer ∈ answers, ∃ value, answer = .ok value := by
  rw [← replay_empty]
  exact performAll_batches_replay options [] batches distinct

/-- Units added after the batches are only pending. -/
theorem performAll_batches_pending (options : RunOptions) (batches : List (List SourceUnit))
    (pending : List SourceUnit)
    (distinct : ((batches.flatten ++ pending).map SourceUnit.unitId).Nodup) :
    ∃ answers,
      (Run.fresh options).performAll (batchRequests batches ++ [.addMany pending]) =
        (answers, replay options ⟨batches, pending⟩) ∧
      ∀ answer ∈ answers, ∃ value, answer = .ok value := by
  have distinctAnalysed : (batches.flatten.map SourceUnit.unitId).Nodup :=
    distinct.sublist ((List.sublist_append_left batches.flatten pending).map SourceUnit.unitId)
  obtain ⟨answers, performed, answered⟩ := performAll_batches options batches distinctAnalysed
  have added := perform_addMany_replay options ⟨batches, []⟩ pending
    (by simpa [units] using distinct)
  refine ⟨answers ++ [.ok (.unitIds (replay options ⟨batches, pending⟩).unitIds)], ?_, ?_⟩
  · rw [performAll_append, performed, Run.performAll, added]
    rfl
  · intro answer isAnswer
    rcases List.mem_append.1 isAnswer with earlier | last
    · exact answered answer earlier
    · exact ⟨_, List.mem_singleton.1 last⟩

end History

end Annotations
