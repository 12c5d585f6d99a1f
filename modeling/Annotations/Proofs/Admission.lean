import Annotations.Proofs.Reachable

/-!
Contract: what is left of a request to add units when one of them is refused.

Units are added one after the other, and the first whose identifier is taken is
refused: by a unit that the run has, analysed or pending, or by an earlier one of
the same request. What comes before it stays added, as if nothing else had been
asked for, and no result of the run is touched.

Owns:
- `Run.Takes` and `Run.Admits`, which units of a list can be added;
- `Run.withPending`, a run with more units to analyse;
- `Run.AddsPrefix` and `History.addsPrefix_of_requests`.

Does not own: what an analysis reports; see `Annotations.Proofs.Visibility`.
-/

namespace Annotations

/-- The identifier of a unit that follows others of a list is taken: a unit of the run has it, or
one of those others. -/
def Run.Takes (run : Run) (before : List SourceUnit) (unit : SourceUnit) : Prop :=
  unit.unitId ∈ run.unitIds ∨ unit.unitId ∈ before.map SourceUnit.unitId

def Run.Admits (run : Run) (units : List SourceUnit) : Prop :=
  ∀ before unit after, units = before ++ unit :: after → ¬ run.Takes before unit

/-- The run with more units that are pending; its results are the same. -/
def Run.withPending (run : Run) (units : List SourceUnit) : Run :=
  { run with
    units := run.units ++ units
    pending := run.pending ++ units.map SourceUnit.unitId }

namespace Run

/-! ## Admitted units -/

theorem withPending_nil (run : Run) : run.withPending [] = run := by
  simp [withPending]

theorem withPending_append (run : Run) (first second : List SourceUnit) :
    (run.withPending first).withPending second = run.withPending (first ++ second) := by
  simp [withPending]

/-- A pending unit takes its identifier as an earlier unit of the list does. -/
theorem takes_withPending_iff {run : Run} {earlier before : List SourceUnit} {unit : SourceUnit} :
    (run.withPending earlier).Takes before unit ↔ run.Takes (earlier ++ before) unit := by
  simp [Takes, withPending, unitIds, or_assoc]

theorem admits_nil (run : Run) : run.Admits [] := by
  intro before unit after split
  simp at split

theorem Admits.cons {run : Run} {unit : SourceUnit} {rest : List SourceUnit}
    (isNew : unit.unitId ∉ run.unitIds) (admits : (run.withPending [unit]).Admits rest) :
    run.Admits (unit :: rest) := by
  intro before other after split taken
  cases before with
  | nil =>
      obtain ⟨rfl, -⟩ := List.cons.inj split
      exact isNew (by simpa [Takes] using taken)
  | cons first before =>
      obtain ⟨rfl, splitRest⟩ := List.cons.inj split
      exact admits before other after splitRest (takes_withPending_iff.2 taken)

/-- An admitted prefix ends before a unit whose identifier is taken. -/
theorem Admits.isPrefix_of_takes {run : Run} {other kept after : List SourceUnit}
    {unit : SourceUnit} (admits : run.Admits other) (isPrefix : other <+: kept ++ unit :: after)
    (taken : run.Takes kept unit) : other <+: kept := by
  rcases List.prefix_or_prefix_of_prefix isPrefix (List.prefix_append kept (unit :: after)) with
    shorter | longer
  · exact shorter
  · obtain ⟨more, rfl⟩ := longer
    cases more with
    | nil => simp
    | cons next more =>
        obtain ⟨rfl, -⟩ := List.cons_prefix_cons.1 ((List.prefix_append_right_inj kept).1 isPrefix)
        exact absurd taken (admits kept next more rfl)

/-! ## Adding -/

theorem addUnit_of_new {run : Run} {unit : SourceUnit} (isNew : unit.unitId ∉ run.unitIds) :
    run.addUnit unit = .ok (run.withPending [unit]) :=
  if_neg isNew

/-- Adding goes on up to the first unit whose identifier is taken. -/
theorem exists_addUnits (run : Run) (units : List SourceUnit) :
    ∃ kept, run.Admits kept ∧
      (units = kept ∧ run.addUnits units = (none, run.withPending kept) ∨
        ∃ unit after, units = kept ++ unit :: after ∧ run.Takes kept unit ∧
          run.addUnits units = (some (.duplicateUnit unit.unitId), run.withPending kept)) := by
  induction units generalizing run with
  | nil => exact ⟨[], run.admits_nil, Or.inl ⟨rfl, by rw [addUnits, withPending_nil]⟩⟩
  | cons unit rest inductionHypothesis =>
      by_cases isOld : unit.unitId ∈ run.unitIds
      · have refused : run.addUnit unit = .error (.duplicateUnit unit.unitId) := if_pos isOld
        refine ⟨[], run.admits_nil, Or.inr ⟨unit, rest, rfl, Or.inl isOld, ?_⟩⟩
        rw [addUnits, refused, withPending_nil]
      · obtain ⟨kept, admits, outcome⟩ := inductionHypothesis (run.withPending [unit])
        rw [withPending_append, List.singleton_append] at outcome
        have goesOn : run.addUnits (unit :: rest) = (run.withPending [unit]).addUnits rest := by
          rw [addUnits, addUnit_of_new isOld]
        refine ⟨unit :: kept, admits.cons isOld, ?_⟩
        rw [goesOn]
        rcases outcome with ⟨rfl, added⟩ | ⟨other, after, rfl, taken, refused⟩
        · exact Or.inl ⟨rfl, added⟩
        · exact Or.inr ⟨other, after, rfl, takes_withPending_iff.1 taken, refused⟩

theorem addUnits_of_admits {run : Run} {units : List SourceUnit} (admits : run.Admits units) :
    run.addUnits units = (none, run.withPending units) := by
  obtain ⟨kept, -, ⟨rfl, added⟩ | ⟨unit, after, split, taken, -⟩⟩ := run.exists_addUnits units
  · exact added
  · exact absurd taken (admits kept unit after split)

/-- Of a list of units a run takes in the longest prefix without a taken identifier. The unit after
it, if there is one, is refused by name; an analysis then is one of what was pending and of that
prefix. -/
structure AddsPrefix (run : Run) (units kept : List SourceUnit) : Prop where
  isPrefix : kept <+: units
  admitted : run.Admits kept
  longest : ∀ other, other <+: units → run.Admits other → other <+: kept
  refused_iff : (run.addUnits units).1.isSome ↔
    ∃ before unit after, units = before ++ unit :: after ∧ run.Takes before unit
  named : ∀ error, (run.addUnits units).1 = some error ↔
    ∃ unit after, units = kept ++ unit :: after ∧ run.Takes kept unit ∧
      error = .duplicateUnit unit.unitId
  after : (run.addUnits units).2 = run.withPending kept
  alone : run.addUnits kept = (none, run.withPending kept)
  analysed : ∃ reports final, (run.addUnits units).2.analyze = .ok (reports, final) ∧
    (run.addUnits kept).2.analyze = .ok (reports, final) ∧
    reports.map UnitReport.unitId = run.pending ++ kept.map SourceUnit.unitId ∧
    final.units = run.units ++ kept ∧ final.pending = []

end Run

namespace History

/-- An analysis after adding units is one of the units pending before and of those added. -/
theorem exists_analyze_withPending (options : RunOptions) {history : History}
    {kept : List SourceUnit} (distinct : history.IsDistinct)
    (admits : (replay options history).Admits kept) :
    ∃ reports final, ((replay options history).withPending kept).analyze = .ok (reports, final) ∧
      reports.map UnitReport.unitId =
        (replay options history).pending ++ kept.map SourceUnit.unitId ∧
      final.units = (replay options history).units ++ kept ∧ final.pending = [] := by
  have added : (replay options history).withPending kept = replay options (history.add kept) := by
    rw [← snd_addUnits_replay, Run.addUnits_of_admits admits]
  have pending : (history.add kept).pending.map SourceUnit.unitId =
      (replay options history).pending ++ kept.map SourceUnit.unitId :=
    congrArg Run.pending added.symm
  have units : (history.add kept).units = (replay options history).units ++ kept :=
    congrArg Run.units added.symm
  rw [added, analyze_replay options (history.add kept) (distinct.add kept)]
  refine ⟨_, _, rfl, ?_, ?_, rfl⟩
  · rw [← pending, List.map_map]
    rfl
  · rw [← units]
    exact units_analyse (history.add kept)

/-- Whatever requests a run was given before, of the units it is to add it keeps those before the
first whose identifier is taken, and an analysis afterwards sees these alone. -/
theorem addsPrefix_of_requests (options : RunOptions) (requests : List Request)
    (units : List SourceUnit) :
    ∃ kept, ((Run.fresh options).performAll requests).2.AddsPrefix units kept := by
  obtain ⟨history, distinct, reached⟩ := performAll_fresh options requests
  rw [reached]
  obtain ⟨kept, admits, outcome⟩ := (replay options history).exists_addUnits units
  have alone := Run.addUnits_of_admits admits
  have analysed := exists_analyze_withPending options distinct admits
  refine ⟨kept, ?_⟩
  rcases outcome with ⟨rfl, added⟩ | ⟨unit, after, rfl, taken, refused⟩
  · constructor
    case isPrefix => exact List.prefix_rfl
    case admitted => exact admits
    case longest => exact fun _ isPrefix _ => isPrefix
    case refused_iff =>
      rw [added]
      simp only [Option.isSome_none, Bool.false_eq_true, false_iff, not_exists, not_and]
      exact admits
    case named =>
      intro error
      simp [added]
    case after => rw [added]
    case alone => exact alone
    case analysed => simpa [alone] using analysed
  · constructor
    case isPrefix => exact List.prefix_append kept (unit :: after)
    case admitted => exact admits
    case longest => exact fun _ isPrefix admitted => admitted.isPrefix_of_takes isPrefix taken
    case refused_iff =>
      rw [refused]
      exact iff_of_true rfl ⟨kept, unit, after, rfl, taken⟩
    case named =>
      intro error
      rw [refused]
      constructor
      · intro named
        exact ⟨unit, after, rfl, taken, (Option.some.inj named).symm⟩
      · rintro ⟨other, rest, split, -, rfl⟩
        obtain ⟨rfl, -⟩ := List.cons.inj (List.append_cancel_left split)
        rfl
    case after => rw [refused]
    case alone => exact alone
    case analysed => simpa [alone, refused] using analysed

end History

end Annotations
