import Mathlib.Data.List.Forall2
import Annotations.Proofs.Diagnostics
import Annotations.Proofs.Invariant

/-!
Contract: directives and markers do not interfere.

Both mechanisms work on the units of one run and share its pending list and its
unit reports. Still, symbols and failures depend on identifiers, declarations,
calls and the catalog alone, and collected ranges on identifiers, comments, line
counts and the tracker alone. So two runs that differ in what the one mechanism
reads show the same results of the other. Both process their units in order,
however many workers their options ask for.

Owns:

- `SourceUnit.SameDirectives` and `SourceUnit.SameMarkers`, what each mechanism
  reads of a unit;
- `Request.Corresponds` and `History.Corresponds`, two runs in step;
- `History.mechanisms_separate`, which compares two runs after every request.

Does not own:

- runs of which only one tracks suppressions; see
  `Annotations.Proofs.TrackingSwitch`.
-/

namespace Annotations

/-! ## Lists related item by item -/

section Related

variable {Left Right Value : Type} {related : Left → Right → Prop} {left : List Left}
  {right : List Right}

theorem map_eq_of_forall₂ {leftValue : Left → Value} {rightValue : Right → Value}
    (alike : List.Forall₂ related left right)
    (same : ∀ first second, related first second → leftValue first = rightValue second) :
    left.map leftValue = right.map rightValue := by
  induction alike with
  | nil => rfl
  | cons head _ inductionHypothesis =>
      rw [List.map_cons, List.map_cons, same _ _ head, inductionHypothesis]

theorem flatMap_eq_of_forall₂ {leftValues : Left → List Value} {rightValues : Right → List Value}
    (alike : List.Forall₂ related left right)
    (same : ∀ first second, related first second → leftValues first = rightValues second) :
    left.flatMap leftValues = right.flatMap rightValues := by
  rw [List.flatMap_def, List.flatMap_def, map_eq_of_forall₂ alike same]

end Related

/-! ## What each mechanism reads -/

/-- Directives read the same in both units. -/
structure SourceUnit.SameDirectives (unit other : SourceUnit) : Prop where
  unitId : unit.unitId = other.unitId
  declarations : unit.declarations = other.declarations
  calls : unit.calls = other.calls

/-- Markers read the same in both units. -/
structure SourceUnit.SameMarkers (unit other : SourceUnit) : Prop where
  unitId : unit.unitId = other.unitId
  comments : unit.comments = other.comments
  lineCount : unit.lineCount = other.lineCount

/-- Two catalogs hold the same names, whatever their order. -/
structure Catalog.SameNames (catalog other : Catalog) : Prop where
  constant : ∀ name, name ∈ catalog.constant ↔ name ∈ other.constant
  method : ∀ name, name ∈ catalog.method ↔ name ∈ other.method
  classMethod : ∀ name, name ∈ catalog.classMethod ↔ name ∈ other.classMethod

structure Tracker.SameRules (tracker other : Tracker) : Prop where
  tag : tracker.tag = other.tag
  rules : ∀ rule, rule ∈ tracker.rules ↔ rule ∈ other.rules

/-- Requests of one kind, which add units that correspond. -/
inductive Request.Corresponds (same : SourceUnit → SourceUnit → Prop) :
    Request → Request → Prop where
  | add {unit other : SourceUnit} (alike : same unit other) :
      Corresponds same (.add unit) (.add other)
  | addMany {units others : List SourceUnit} (alike : List.Forall₂ same units others) :
      Corresponds same (.addMany units) (.addMany others)
  | units : Corresponds same .units .units
  | analyze : Corresponds same .analyze .analyze
  | unitReports : Corresponds same .unitReports .unitReports
  | resolve : Corresponds same .resolve .resolve
  | diagnostics : Corresponds same .diagnostics .diagnostics
  | suppressions : Corresponds same .suppressions .suppressions
  | symbols : Corresponds same .symbols .symbols
  | changes : Corresponds same .changes .changes
  | reset : Corresponds same .reset .reset

/-! ## What directives do -/

theorem Catalog.SameNames.classify?_eq {catalog other : Catalog}
    (sameNames : catalog.SameNames other) (callee : String) :
    catalog.classify? callee = other.classify? callee := by
  unfold classify?
  simp only [sameNames.constant, sameNames.method, sameNames.classMethod]

section Directives

variable {catalog other : Catalog}

theorem Resolver.applications_congr (sameNames : catalog.SameNames other)
    {unit otherUnit : SourceUnit} (same : unit.SameDirectives otherUnit)
    (sites : Path → Option Site) :
    Resolver.applications ⟨unit.unitId, catalog⟩ sites unit =
      Resolver.applications ⟨otherUnit.unitId, other⟩ sites otherUnit := by
  unfold applications
  rw [same.calls, same.unitId]
  apply List.flatMap_congr
  intro call _
  unfold callApplications
  simp only [sameNames.classify?_eq]
  rfl

theorem Resolver.failures_congr (sameNames : catalog.SameNames other)
    {unit otherUnit : SourceUnit} (same : unit.SameDirectives otherUnit)
    (sites : Path → Option Site) :
    Resolver.failures ⟨unit.unitId, catalog⟩ sites unit =
      Resolver.failures ⟨otherUnit.unitId, other⟩ sites otherUnit := by
  unfold failures
  rw [same.calls, same.unitId]
  apply List.filterMap_congr
  intro call _
  unfold failure?
  simp only [sameNames.classify?_eq]
  rfl

theorem firstSite?_congr {units others : List SourceUnit}
    (alike : List.Forall₂ SourceUnit.SameDirectives units others) :
    firstSite? units = firstSite? others := by
  have sameSites : declarationSites units = declarationSites others := by
    apply flatMap_eq_of_forall₂ alike
    intro unit otherUnit same
    rw [same.declarations, same.unitId]
  funext path
  unfold firstSite?
  rw [sameSites]

end Directives

/-- The failures that a run lists depend on the failures in its reports alone. -/
theorem Run.diagnostics_congr {run other : Run}
    (same : (run.unitReports.map fun report => (report.unitId, report.diagnostics)) =
      other.unitReports.map fun report => (report.unitId, report.diagnostics)) :
    run.diagnostics = other.diagnostics := by
  have listed : ∀ run : Run, run.sortedUnitReports.flatMap UnitReport.diagnostics =
      ((run.unitReports.map fun report => (report.unitId, report.diagnostics)).mergeSort
        fun left right => (compare left.1 right.1).isLE).flatMap Prod.snd := by
    intro run
    unfold sortedUnitReports
    rw [← List.map_mergeSort (f := fun report : UnitReport => (report.unitId, report.diagnostics))
      (r := fun left right => (compare left.unitId right.unitId).isLE) (fun _ _ _ _ => rfl),
      List.flatMap_map]
  unfold diagnostics
  rw [listed, listed, same]

/-! ## What markers do -/

section Markers

variable {tracker other : Tracker}

theorem Tracker.SameRules.accepts_eq (sameRules : tracker.SameRules other) (marker : Marker) :
    tracker.accepts marker = other.accepts marker := by
  have sameEmpty : tracker.rules.isEmpty = other.rules.isEmpty := by
    rw [Bool.eq_iff_iff, List.isEmpty_iff, List.isEmpty_iff, List.eq_nil_iff_forall_not_mem,
      List.eq_nil_iff_forall_not_mem]
    simp only [sameRules.rules]
  have sameKnown : tracker.rules.contains marker.rule = other.rules.contains marker.rule := by
    rw [Bool.eq_iff_iff, List.contains_iff_mem, List.contains_iff_mem, sameRules.rules]
  unfold accepts
  rw [sameEmpty, sameKnown]

theorem Tracker.SameRules.markers_eq (sameRules : tracker.SameRules other)
    (comments : List Comment) : tracker.markers comments = other.markers comments := by
  unfold markers
  rw [sameRules.tag]
  exact List.filter_congr fun marker _ => sameRules.accepts_eq marker

end Markers

namespace History

theorem unitSuppressions_congr {options other : RunOptions}
    (sameSwitch : options.suppressionsEnabled = other.suppressionsEnabled)
    (sameRules : options.tracker.SameRules other.tracker) {unit otherUnit : SourceUnit}
    (same : unit.SameMarkers otherUnit) :
    unitSuppressions options unit = unitSuppressions other otherUnit := by
  unfold unitSuppressions
  rw [sameSwitch, same.comments, same.lineCount, sameRules.markers_eq]

/-! ## Runs in step -/

/-- The same batches and pending units, up to what is taken for the same. -/
structure Corresponds (same : SourceUnit → SourceUnit → Prop) (history other : History) : Prop where
  analysed : List.Forall₂ (List.Forall₂ same) history.analysed other.analysed
  pending : List.Forall₂ same history.pending other.pending

section InStep

variable {same : SourceUnit → SourceUnit → Prop} {history other : History}

theorem Corresponds.units (inStep : history.Corresponds same other) :
    List.Forall₂ same history.units other.units :=
  List.rel_append (List.rel_flatten inStep.analysed) inStep.pending

theorem Corresponds.add (sameIds : ∀ unit otherUnit, same unit otherUnit →
      unit.unitId = otherUnit.unitId)
    (inStep : history.Corresponds same other) {units others : List SourceUnit}
    (alike : List.Forall₂ same units others) :
    (history.add units).Corresponds same (other.add others) := by
  induction alike generalizing history other with
  | nil => exact inStep
  | cons head _ inductionHypothesis =>
      have sameTaken := map_eq_of_forall₂ inStep.units sameIds
      rw [History.add, History.add, sameTaken, sameIds _ _ head]
      split
      · exact inStep
      · apply inductionHypothesis
        exact ⟨inStep.analysed, List.rel_append inStep.pending (.cons head .nil)⟩

theorem Corresponds.analyse (inStep : history.Corresponds same other) :
    history.analyse.Corresponds same other.analyse :=
  ⟨List.rel_append inStep.analysed (.cons inStep.pending .nil), .nil⟩

/-- Requests that correspond keep two runs in step, if both track suppressions or neither does. -/
theorem Corresponds.after {options otherOptions : RunOptions}
    (sameSwitch : options.suppressionsEnabled = otherOptions.suppressionsEnabled)
    (sameIds : ∀ unit otherUnit, same unit otherUnit → unit.unitId = otherUnit.unitId)
    (inStep : history.Corresponds same other) {request otherRequest : Request}
    (alike : request.Corresponds same otherRequest) :
    (history.after options request).Corresponds same (other.after otherOptions otherRequest) := by
  cases alike with
  | add sameUnit => exact inStep.add sameIds (.cons sameUnit .nil)
  | addMany sameUnits => exact inStep.add sameIds sameUnits
  | analyze | resolve => exact inStep.analyse
  | suppressions =>
      rw [History.after, History.after, sameSwitch]
      split
      · exact inStep.analyse
      · exact inStep
  | reset => exact ⟨.nil, .nil⟩
  | units | unitReports | diagnostics | symbols | changes => exact inStep

theorem corresponds_ofRequests {options otherOptions : RunOptions}
    (sameSwitch : options.suppressionsEnabled = otherOptions.suppressionsEnabled)
    (sameIds : ∀ unit otherUnit, same unit otherUnit → unit.unitId = otherUnit.unitId)
    {requests others : List Request}
    (alike : List.Forall₂ (Request.Corresponds same) requests others) :
    (ofRequests options requests).Corresponds same (ofRequests otherOptions others) := by
  have empty : Corresponds same ⟨[], []⟩ ⟨[], []⟩ := ⟨.nil, .nil⟩
  exact List.rel_foldl (fun _ _ inStep _ _ sameRequest =>
    inStep.after sameSwitch sameIds sameRequest) empty alike

/-- Units of runs in step know units that correspond. -/
theorem forall₂_withKnown {earlier otherEarlier : List SourceUnit}
    {batches others : List (List SourceUnit)} (sameEarlier : List.Forall₂ same earlier otherEarlier)
    (alike : List.Forall₂ (List.Forall₂ same) batches others) :
    List.Forall₂
      (fun entry otherEntry => same entry.1 otherEntry.1 ∧
        List.Forall₂ same entry.2 otherEntry.2)
      (withKnown earlier batches) (withKnown otherEarlier others) := by
  induction alike generalizing earlier otherEarlier with
  | nil => exact .nil
  | cons sameBatch _ inductionHypothesis =>
      have sameKnown := List.rel_append sameEarlier sameBatch
      rw [withKnown, withKnown]
      refine List.rel_append ?_ (inductionHypothesis sameKnown)
      rw [List.forall₂_map_left_iff, List.forall₂_map_right_iff]
      exact sameBatch.imp fun _ _ sameUnit => ⟨sameUnit, sameKnown⟩

end InStep

/-! ## Results of runs in step -/

theorem symbols_replay_congr {options other : RunOptions} {history otherHistory : History}
    (sameNames : options.catalog.SameNames other.catalog)
    (inStep : history.Corresponds SourceUnit.SameDirectives otherHistory) :
    (replay options history).symbols = (replay other otherHistory).symbols := by
  have sameApplications : applicationsAfter options.catalog history.analysed =
      applicationsAfter other.catalog otherHistory.analysed := by
    apply flatMap_eq_of_forall₂ (forall₂_withKnown .nil inStep.analysed)
    rintro entry otherEntry ⟨sameUnit, sameKnown⟩
    rw [firstSite?_congr sameKnown]
    exact Resolver.applications_congr sameNames sameUnit _
  apply SymbolTable.symbols_eq_of_get?_eq
  apply get?_tableAfter_eq
  · exact firstSite?_congr (List.rel_flatten inStep.analysed)
  · intro path
    rw [appliedIn_iff_mem_applicationsAfter, appliedIn_iff_mem_applicationsAfter, sameApplications]

theorem diagnostics_replay_congr {options other : RunOptions} {history otherHistory : History}
    (sameNames : options.catalog.SameNames other.catalog)
    (inStep : history.Corresponds SourceUnit.SameDirectives otherHistory) :
    (replay options history).diagnostics = (replay other otherHistory).diagnostics := by
  apply Run.diagnostics_congr
  change (reportsAfter options history.analysed).map _ =
    (reportsAfter other otherHistory.analysed).map _
  unfold reportsAfter
  rw [List.map_map, List.map_map]
  apply map_eq_of_forall₂ (forall₂_withKnown .nil inStep.analysed)
  rintro entry otherEntry ⟨sameUnit, sameKnown⟩
  simp only [Function.comp_apply, unitReport]
  rw [firstSite?_congr sameKnown, Resolver.failures_congr sameNames sameUnit, sameUnit.unitId]

theorem asMapping_replay_congr {options other : RunOptions} {history otherHistory : History}
    (sameSwitch : options.suppressionsEnabled = other.suppressionsEnabled)
    (sameRules : options.tracker.SameRules other.tracker)
    (inStep : history.Corresponds SourceUnit.SameMarkers otherHistory) :
    (replay options history).report.asMapping = (replay other otherHistory).report.asMapping := by
  unfold SuppressionReport.asMapping
  rw [filed_replay, filed_replay]
  congr 1
  apply flatMap_eq_of_forall₂ (List.rel_flatten inStep.analysed)
  intro unit otherUnit sameUnit
  rw [unitSuppressions_congr sameSwitch sameRules sameUnit, sameUnit.unitId]

/-- Two runs that both track suppressions, or both do not, are given requests that correspond. If
directives read the same in both, they show the same symbols and failures after every request,
whatever markers read. If markers read the same in both, they report the same ranges after every
request, whatever directives read. -/
theorem mechanisms_separate (options other : RunOptions)
    (sameSwitch : options.suppressionsEnabled = other.suppressionsEnabled) :
    (∀ requests others : List Request, options.catalog.SameNames other.catalog →
      List.Forall₂ (Request.Corresponds SourceUnit.SameDirectives) requests others →
      ∀ count,
        ((Run.fresh options).performAll (requests.take count)).2.symbols =
            ((Run.fresh other).performAll (others.take count)).2.symbols ∧
          ((Run.fresh options).performAll (requests.take count)).2.diagnostics =
            ((Run.fresh other).performAll (others.take count)).2.diagnostics) ∧
      ∀ requests others : List Request, options.tracker.SameRules other.tracker →
        List.Forall₂ (Request.Corresponds SourceUnit.SameMarkers) requests others →
        ∀ count, ∃ mapping,
          (((Run.fresh options).performAll (requests.take count)).2.perform .suppressions).1 =
              .ok (.suppressions mapping) ∧
            (((Run.fresh other).performAll (others.take count)).2.perform .suppressions).1 =
              .ok (.suppressions mapping) := by
  constructor
  · intro requests others sameNames alike count
    have inStep := corresponds_ofRequests sameSwitch (fun _ _ same => same.unitId)
      (List.forall₂_take count alike)
    rw [snd_performAll_fresh, snd_performAll_fresh]
    exact ⟨symbols_replay_congr sameNames inStep, diagnostics_replay_congr sameNames inStep⟩
  · intro requests others sameRules alike count
    have inStep := corresponds_ofRequests sameSwitch (fun _ _ same => same.unitId)
      (List.forall₂_take count alike)
    rw [snd_performAll_fresh, snd_performAll_fresh]
    refine ⟨_, perform_suppressions_replay options (isDistinct_ofRequests options _), ?_⟩
    rw [perform_suppressions_replay other (isDistinct_ofRequests other _), sameSwitch,
      asMapping_replay_congr sameSwitch sameRules inStep.analyse]

private def uncommented : SourceUnit where
  unitId := "a.py"
  lineCount := 2
  declarations := [⟨["lib"], "run", .instanceMethod, 1⟩]
  calls :=
    [⟨["lib"], "hide", 2,
      [⟨.string, "'run'", some (.text "run")⟩, ⟨.splat, "*names", none⟩]⟩]
  comments := []
  scope := ["lib"]

private def commented : SourceUnit :=
  { uncommented with lineCount := 9, comments := [⟨3, "# annotate: disable=Naming", false⟩] }

private def undeclared : SourceUnit :=
  { commented with declarations := [], calls := [] }

private def addTwice (unit : SourceUnit) : List Request :=
  [.add unit, .add unit, .resolve]

private theorem forall₂_addTwice {same : SourceUnit → SourceUnit → Prop} {unit other : SourceUnit}
    (alike : same unit other) :
    List.Forall₂ (Request.Corresponds same) (addTwice unit) (addTwice other) :=
  .cons (.add alike) (.cons (.add alike) (.cons .resolve .nil))

private def compared : RunOptions :=
  ⟨⟨["private_constant"], ["private", "hide"], []⟩, true, ⟨"annotate", ["Naming", "Length"]⟩, true,
    1⟩

private def otherTracker : RunOptions :=
  ⟨⟨["private_constant"], ["hide", "private"], []⟩, true, ⟨"note", []⟩, false, 4⟩

private def otherCatalog : RunOptions :=
  ⟨Catalog.standard, true, ⟨"annotate", ["Length", "Naming"]⟩, false, 4⟩

/-- A marker and another tracker do not show in symbols and failures, nor declarations and another
catalog in the collected ranges. -/
theorem comments_and_declarations_apart :
    compared.suppressionsEnabled = otherTracker.suppressionsEnabled ∧
      compared.suppressionsEnabled = otherCatalog.suppressionsEnabled ∧
      compared.catalog.SameNames otherTracker.catalog ∧
      List.Forall₂ (Request.Corresponds SourceUnit.SameDirectives) (addTwice uncommented)
        (addTwice commented) ∧
      compared.tracker.SameRules otherCatalog.tracker ∧
      List.Forall₂ (Request.Corresponds SourceUnit.SameMarkers) (addTwice commented)
        (addTwice undeclared) ∧
      ((Run.fresh otherTracker).performAll (addTwice commented)).2.symbols =
        [⟨⟨["lib"], "run", .instanceMethod⟩, .isPrivate, "a.py", 1⟩] ∧
      (((Run.fresh otherCatalog).performAll (addTwice undeclared)).2.perform .suppressions).1 =
        .ok (.suppressions [("Naming", [⟨"a.py", ⟨3, 9⟩⟩])]) := by
  have sameNames : compared.catalog.SameNames otherTracker.catalog :=
    ⟨fun _ => Iff.rfl, fun name => by simp [compared, otherTracker, or_comm], fun _ => Iff.rfl⟩
  have sameRules : compared.tracker.SameRules otherCatalog.tracker :=
    ⟨rfl, fun rule => by simp [compared, otherCatalog, or_comm]⟩
  have sameDirectives := forall₂_addTwice
    (show uncommented.SameDirectives commented from ⟨rfl, rfl, rfl⟩)
  have sameMarkers := forall₂_addTwice
    (show commented.SameMarkers undeclared from ⟨rfl, rfl, rfl⟩)
  obtain ⟨sameSymbols, -⟩ :=
    (mechanisms_separate compared otherTracker rfl).1 _ _ sameNames sameDirectives 3
  obtain ⟨mapping, reported, otherReported⟩ :=
    (mechanisms_separate compared otherCatalog rfl).2 _ _ sameRules sameMarkers 3
  refine ⟨rfl, rfl, sameNames, sameDirectives, sameRules, sameMarkers, ?_, ?_⟩
  · exact sameSymbols.symm.trans (by decide +kernel)
  · exact otherReported.trans (reported.symm.trans (by decide +kernel))

end History

end Annotations
