import Annotations.Proofs.Diagnostics
import Annotations.Proofs.Invariant

/-!
Contract: the recorded changes, beside the symbols and the directives.

A symbol becomes private once, and stays private. Of the directives that resolve
its path only the first to be processed finds it public, so the one record of the
symbol names that directive, wherever its unit stands in sorted listings.

Owns:

- `Turn` and `turns`, the calls of batches in the order they are processed;
- `Run.IsRecorded`, the agreement of changes, symbols and directives;
- `History.isRecorded_of_requests`, that it holds in every state.
-/

namespace Annotations

/-- The turn of one call: its unit, the units that are registered by then, and the call. -/
structure Turn where
  unit : SourceUnit
  known : List SourceUnit
  call : Call
deriving DecidableEq, Repr

/-- The calls of some batches as they are processed: batch after batch, the units of each in the
order of addition, and the calls of a unit by line. -/
def turns (batches : List (List SourceUnit)) : List Turn :=
  (withKnown [] batches).flatMap fun entry =>
    (sortByLine Call.line entry.1.calls).map fun call => ⟨entry.1, entry.2, call⟩

theorem mem_turns_iff {batches : List (List SourceUnit)} {turn : Turn} :
    turn ∈ turns batches ↔
      (turn.unit, turn.known) ∈ withKnown [] batches ∧ turn.call ∈ turn.unit.calls := by
  unfold turns
  rw [List.mem_flatMap]
  constructor
  · rintro ⟨⟨unit, known⟩, isKnown, ofUnit⟩
    obtain ⟨call, isCall, rfl⟩ := List.mem_map.1 ofUnit
    exact ⟨isKnown, (mem_sortByLine Call.line).1 isCall⟩
  · rintro ⟨isKnown, isCall⟩
    exact ⟨_, isKnown, List.mem_map.2 ⟨turn.call, (mem_sortByLine Call.line).2 isCall, rfl⟩⟩

/-- The unit of a turn is known to it. -/
theorem Turn.unit_mem_known {batches : List (List SourceUnit)} {turn : Turn}
    (isTurn : turn ∈ turns batches) : turn.unit ∈ turn.known := by
  obtain ⟨k, batch, isBatch, isUnit, isKnown⟩ := mem_withKnown_iff.1 (mem_turns_iff.1 isTurn).1
  rw [isKnown]
  exact List.mem_flatten.2 ⟨batch, List.mem_of_getElem? (i := k) (by simp [isBatch]), isUnit⟩

theorem Turn.unit_mem_flatten {batches : List (List SourceUnit)} {turn : Turn}
    (isTurn : turn ∈ turns batches) : turn.unit ∈ batches.flatten := by
  obtain ⟨k, batch, isBatch, isUnit, -⟩ := mem_withKnown_iff.1 (mem_turns_iff.1 isTurn).1
  exact List.mem_flatten.2 ⟨batch, List.mem_of_getElem? isBatch, isUnit⟩

/-- The call is a directive, and one of its arguments names the path, which resolves there. -/
def Turn.AppliesTo (catalog : Catalog) (turn : Turn) (path : Path) : Prop :=
  ∃ shape argument name, catalog.classify? turn.call.callee = some shape ∧
    argument ∈ turn.call.arguments ∧ shape.Names argument name ∧
    path = ⟨turn.call.scope, name, shape.targetKind⟩ ∧
    Resolves turn.known turn.unit.unitId turn.call.line path

/-- A change names the first call that was applied to its path. -/
def Change.NamesFirst (catalog : Catalog) (batches : List (List SourceUnit)) (change : Change) :
    Prop :=
  ∃ earlier turn later, turns batches = earlier ++ turn :: later ∧
    turn.AppliesTo catalog change.path ∧
    (∀ other ∈ earlier, ¬ other.AppliesTo catalog change.path) ∧
    change.unitId = turn.unit.unitId ∧ change.line = turn.call.line

/-- A run that analysed some batches has recorded one change for each private symbol. -/
structure Run.IsRecorded (run : Run) (catalog : Catalog) (batches : List (List SourceUnit)) :
    Prop where
  once : (run.changes.map Change.path).Nodup
  complete : ∀ path, path ∈ run.changes.map Change.path ↔ run.HasPrivate path
  effective : ∀ change ∈ run.changes, change.before = .isPublic ∧ change.after = .isPrivate
  attributed : ∀ change ∈ run.changes, change.NamesFirst catalog batches
  ascending : run.changes.Pairwise fun left right => Change.compareBySite left right = .lt

namespace History

/-! ## Applications, turn by turn -/

def turnApplications (catalog : Catalog) (turn : Turn) : List Application :=
  Resolver.callApplications ⟨turn.unit.unitId, catalog⟩ (firstSite? turn.known) turn.call

theorem applicationsAfter_eq_flatMap_turns (catalog : Catalog)
    (batches : List (List SourceUnit)) :
    applicationsAfter catalog batches = (turns batches).flatMap (turnApplications catalog) := by
  unfold applicationsAfter turns Resolver.applications
  rw [List.flatMap_assoc]
  simp only [List.flatMap_map, turnApplications]

theorem appliesTo_iff {catalog : Catalog} {turn : Turn} {path : Path} :
    turn.AppliesTo catalog path ↔ path ∈ (turnApplications catalog turn).map Application.path := by
  unfold Turn.AppliesTo Resolves turnApplications
  rw [Resolver.mem_callApplications_iff]
  simp only [Resolver.reaches_iff]

/-- The first application to a path is made in the first turn that applies to it. -/
theorem exists_first_turn {catalog : Catalog} {batches : List (List SourceUnit)} {path : Path}
    {application : Application}
    (first : ((applicationsAfter catalog batches).find? fun other => decide (other.path = path)) =
      some application) :
    ∃ earlier turn later, turns batches = earlier ++ turn :: later ∧
      turn.AppliesTo catalog path ∧ (∀ other ∈ earlier, ¬ other.AppliesTo catalog path) ∧
      application.unitId = turn.unit.unitId ∧ application.line = turn.call.line := by
  rw [applicationsAfter_eq_flatMap_turns, List.find?_flatMap,
    List.findSome?_eq_some_iff] at first
  obtain ⟨earlier, turn, later, split, found, notBefore⟩ := first
  have isApplication := List.mem_of_find?_eq_some found
  have toPath : application.path = path := by simpa using List.find?_some found
  refine ⟨earlier, turn, later, split, ?_, ?_, Resolver.place_of_mem_callApplications isApplication⟩
  · rw [appliesTo_iff, ← toPath]
    exact List.mem_map_of_mem isApplication
  · intro other isEarlier applies
    obtain ⟨made, isMade, madeTo⟩ := List.mem_map.1 (appliesTo_iff.1 applies)
    have noneFound := List.find?_eq_none.1 (notBefore other isEarlier) made isMade
    exact noneFound (decide_eq_true madeTo)

/-! ## The log after batches -/

/-- A log of the paths that some batches reached: one record for each, made by the first application
to it. -/
structure IsLogOf (catalog : Catalog) (batches : List (List SourceUnit)) (log : List Change) :
    Prop where
  once : (log.map Change.path).Nodup
  complete : ∀ path, path ∈ log.map Change.path ↔ AppliedIn catalog batches path
  effective : ∀ change ∈ log, change.before = .isPublic ∧ change.after = .isPrivate
  attributed : ∀ change ∈ log, ∃ application,
    ((applicationsAfter catalog batches).find? fun other => decide (other.path = change.path)) =
        some application ∧
      change.unitId = application.unitId ∧ change.line = application.line

/-- What is open before the directives of a batch was not reached before. -/
theorem open_declareUnits_iff {options : RunOptions} {batches : List (List SourceUnit)}
    {batch : List SourceUnit} {path : Path} :
    (Run.declareUnits (tableAfter options batches) batch).Open path ↔
      (firstSite? (batches.flatten ++ batch) path).isSome ∧
        ¬ AppliedIn options.catalog batches path := by
  rw [← site?_declareUnits_tableAfter options, SymbolTable.site?, Option.isSome_map]
  unfold SymbolTable.Open
  cases registered : (Run.declareUnits (tableAfter options batches) batch).get? path with
  | none => simp
  | some symbol =>
      rcases visibility_declareUnits (fun _ => visibility_tableAfter options batches)
        registered with ⟨applied, isPrivate⟩ | ⟨notApplied, isPublic⟩
      · simp [applied, isPrivate]
      · simp [notApplied, isPublic]

/-- The records of one more batch extend a log to that batch. -/
theorem IsLogOf.append_records {options : RunOptions} {batches : List (List SourceUnit)}
    {log : List Change} (isLog : IsLogOf options.catalog batches log) (batch : List SourceUnit) :
    IsLogOf options.catalog (batches ++ [batch])
      (log ++ (Run.declareUnits (tableAfter options batches) batch).recordsOf
        (batchApplications options.catalog (firstSite? (batches.flatten ++ batch)) batch)) where
  once := by
    rw [List.map_append, List.nodup_append]
    refine ⟨isLog.once, SymbolTable.nodup_paths_recordsOf _ _, ?_⟩
    rintro path isOld _ isNew rfl
    obtain ⟨-, isOpen⟩ := SymbolTable.mem_paths_recordsOf_iff.1 isNew
    exact (open_declareUnits_iff.1 isOpen).2 ((isLog.complete path).1 isOld)
  complete := by
    intro path
    rw [List.map_append, List.mem_append, isLog.complete, SymbolTable.mem_paths_recordsOf_iff,
      open_declareUnits_iff, appliedIn_append_singleton]
    constructor
    · rintro (before | ⟨now, -⟩)
      · exact Or.inl before
      · exact Or.inr now
    · intro applied
      by_cases before : AppliedIn options.catalog batches path
      · exact Or.inl before
      · have now := applied.resolve_left before
        have sited := isSome_firstSite?_of_appliedIn (appliedIn_append_singleton.2 applied)
        rw [List.flatten_append, List.flatten_singleton] at sited
        exact Or.inr ⟨now, sited, before⟩
  effective := by
    intro change isRecord
    rcases List.mem_append.1 isRecord with isOld | isNew
    · exact isLog.effective change isOld
    · obtain ⟨application, -, recorded⟩ := SymbolTable.first_of_mem_recordsOf isNew
      obtain ⟨symbol, registered, notPrivate, rfl⟩ := SymbolTable.record?_eq_some_iff.1 recorded
      rcases visibility_declareUnits (fun _ => visibility_tableAfter options batches)
        registered with ⟨-, isPrivate⟩ | ⟨-, isPublic⟩
      · contradiction
      · exact ⟨isPublic, rfl⟩
  attributed := by
    intro change isRecord
    rw [applicationsAfter_append_singleton, List.find?_append]
    rcases List.mem_append.1 isRecord with isOld | isNew
    · obtain ⟨application, first, place⟩ := isLog.attributed change isOld
      exact ⟨application, by rw [first, Option.some_or], place⟩
    · -- The path was open before the batch, so no earlier application was to it.
      obtain ⟨-, isOpen⟩ := SymbolTable.mem_paths_recordsOf_iff.1
        (List.mem_map_of_mem (f := Change.path) isNew)
      have notApplied := (open_declareUnits_iff.1 isOpen).2
      have noneBefore : ((applicationsAfter options.catalog batches).find? fun other =>
          decide (other.path = change.path)) = none := by
        rw [List.find?_eq_none]
        intro other isOther toPath
        rw [appliedIn_iff_mem_applicationsAfter, ← of_decide_eq_true toPath] at notApplied
        exact notApplied (List.mem_map_of_mem isOther)
      obtain ⟨application, first, recorded⟩ := SymbolTable.first_of_mem_recordsOf isNew
      obtain ⟨symbol, -, -, same⟩ := SymbolTable.record?_eq_some_iff.1 recorded
      refine ⟨application, by rw [noneBefore, Option.none_or, first], ?_, ?_⟩
      · rw [same]
      · rw [same]

/-- A run that keeps records has a log of what its batches reached. -/
theorem exists_log_tableAfter {options : RunOptions} (tracked : options.tracksChanges = true)
    (batches : List (List SourceUnit)) :
    ∃ log, (tableAfter options batches).log? = some log ∧
      IsLogOf options.catalog batches log := by
  induction batches using List.reverseRecOn with
  | nil =>
      refine ⟨[], ?_, List.nodup_nil, ?_, by simp, by simp⟩
      · simp [tableAfter, SymbolTable.empty, tracked]
      · intro path
        rw [appliedIn_iff_mem_applicationsAfter]
        rfl
  | append_singleton batches batch inductionHypothesis =>
      obtain ⟨log, logged, isLog⟩ := inductionHypothesis
      refine ⟨_, ?_, isLog.append_records batch⟩
      rw [tableAfter_append_singleton, analyseBatch, SymbolTable.log?_applyAll,
        SymbolTable.log?_declareUnits, site?_declareUnits_tableAfter, logged]
      rfl

/-! ## The listed changes -/

/-- Changes to different paths are listed in a strict order. -/
theorem pairwise_changes {table : SymbolTable} (once : (table.changes.map Change.path).Nodup) :
    table.changes.Pairwise fun left right => Change.compareBySite left right = .lt := by
  have ascending : table.changes.Pairwise fun left right =>
      (Change.compareBySite left right).isLE = true :=
    pairwise_mergeSort_isLE Change.compareBySite _
  refine ((List.pairwise_map.1 once).and ascending).imp ?_
  rintro left right ⟨different, isLE⟩
  cases outcome : Change.compareBySite left right with
  | lt => rfl
  | eq => exact absurd (Change.path_eq_of_compareBySite outcome) different
  | gt =>
      rw [outcome] at isLE
      contradiction

theorem isRecorded_replay {options : RunOptions} (tracked : options.tracksChanges = true)
    (history : History) :
    (replay options history).IsRecorded options.catalog history.analysed := by
  obtain ⟨log, logged, isLog⟩ := exists_log_tableAfter tracked history.analysed
  have listed : (replay options history).changes.Perm log := by
    change (tableAfter options history.analysed).changes.Perm log
    unfold SymbolTable.changes
    rw [logged]
    exact List.mergeSort_perm log _
  have once : ((replay options history).changes.map Change.path).Nodup :=
    (listed.map Change.path).nodup_iff.2 isLog.once
  constructor
  case once => exact once
  case complete =>
    intro path
    rw [(listed.map Change.path).mem_iff, isLog.complete]
    exact ⟨hasPrivate_of_appliedIn, appliedIn_of_hasPrivate⟩
  case effective =>
    intro change isChange
    exact isLog.effective change (listed.mem_iff.1 isChange)
  case attributed =>
    intro change isChange
    obtain ⟨application, first, sameUnit, sameLine⟩ :=
      isLog.attributed change (listed.mem_iff.1 isChange)
    obtain ⟨earlier, turn, later, split, applies, notBefore, unitId, line⟩ :=
      exists_first_turn first
    exact ⟨earlier, turn, later, split, applies, notBefore, sameUnit.trans unitId,
      sameLine.trans line⟩
  case ascending => exact pairwise_changes once

/-- Whatever requests a run that keeps records is given, its changes are those of its private
symbols, one for each. Each names the first directive that was applied to the path, of those in the
batches that were analysed since the last reset. -/
theorem isRecorded_of_requests (options : RunOptions) (tracked : options.tracksChanges = true)
    (requests : List Request) :
    ((Run.fresh options).performAll requests).2.analysedUnits =
        (ofRequests options requests).analysed.flatten ∧
      ((Run.fresh options).performAll requests).2.IsRecorded options.catalog
        (ofRequests options requests).analysed := by
  rw [snd_performAll_fresh]
  exact ⟨analysedUnits_replay options (isDistinct_ofRequests options requests),
    isRecorded_replay tracked _⟩

/-- A unit with two directives on its method, of which the lower one comes first. -/
private def hidesTwice : SourceUnit where
  unitId := "b.py"
  lineCount := 5
  declarations := [⟨["lib"], "run", .instanceMethod, 1⟩]
  calls := [⟨["lib"], "private", 5, [⟨.string, "'run'", some (.text "run")⟩]⟩,
    ⟨["lib"], "private", 2, [⟨.string, "'run'", some (.text "run")⟩]⟩]
  comments := []
  scope := ["lib"]

/-- A unit with a directive on the method of the other, and on one that is declared nowhere. -/
private def hidesAgain : SourceUnit where
  unitId := "a.py"
  lineCount := 1
  declarations := []
  calls := [⟨["lib"], "private", 1, [⟨.string, "'run'", some (.text "run")⟩,
    ⟨.string, "'stop'", some (.text "stop")⟩]⟩]
  comments := []
  scope := ["lib"]

private def recording : RunOptions := ⟨Catalog.standard, true, ⟨"annotate", []⟩, true, 1⟩

/-- Requests with a reset and a refused unit, after which both units form one batch. -/
private def resetAndRefused : List Request :=
  [.add hidesAgain, .analyze, .reset, .addMany [hidesTwice, hidesAgain, hidesTwice], .resolve]

/-- The one record names the higher of the directives in the unit that was added first. -/
theorem record_names_higher_directive :
    recording.tracksChanges = true ∧
      ((Run.fresh recording).performAll resetAndRefused).2.IsRecorded Catalog.standard
        [[hidesTwice, hidesAgain]] ∧
      ((Run.fresh recording).performAll resetAndRefused).2.changes =
        [⟨⟨["lib"], "run", .instanceMethod⟩, .isPublic, .isPrivate, "b.py", 2⟩] := by
  have history : ofRequests recording resetAndRefused = ⟨[[hidesTwice, hidesAgain]], []⟩ := by
    decide
  have sorted : sortByLine Call.line hidesTwice.calls = hidesTwice.calls.reverse := by
    simp [sortByLine, hidesTwice, List.mergeSort]
  have applications : batchApplications Catalog.standard (firstSite? [hidesTwice, hidesAgain])
      [hidesTwice, hidesAgain] =
        [⟨⟨["lib"], "run", .instanceMethod⟩, "b.py", 2⟩,
          ⟨⟨["lib"], "run", .instanceMethod⟩, "b.py", 5⟩,
          ⟨⟨["lib"], "run", .instanceMethod⟩, "a.py", 1⟩] := by
    simp only [batchApplications, List.flatMap_cons, Resolver.applications, sorted]
    decide +kernel
  obtain ⟨-, isRecorded⟩ := isRecorded_of_requests recording rfl resetAndRefused
  rw [history] at isRecorded
  refine ⟨rfl, isRecorded, ?_⟩
  rw [snd_performAll_fresh, history]
  change (analyseBatch Catalog.standard (tableAfter recording [])
    [hidesTwice, hidesAgain]).changes = _
  rw [analyseBatch, site?_declareUnits_tableAfter, List.flatten_nil, List.nil_append, applications]
  decide +kernel

end History

end Annotations
