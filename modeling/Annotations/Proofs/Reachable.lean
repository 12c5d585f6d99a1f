import Annotations.Proofs.ChangeLog
import Annotations.Proofs.History

/-!
Contract: every state that requests can bring a run to.

Each request acts on the history of a run: adding extends the pending units up to
the first whose identifier is taken, analysing turns them into a batch, resetting
starts over, and the rest only reads. So after any requests, refused ones
included, a run is the replay of a history whose identifiers are distinct. A run
of requests processes its units in order. The number of workers is refused when
it is too small, and never read again.

Owns:

- `History.after`, what a request does to a history, and `History.ofRequests`;
- `History.performAll_fresh`, that every state a run can reach is a replay;
- `History.performAll_after_reset`, that nothing from before a reset shows in a later answer.

Does not own:

- what holds in these states; see `Annotations.Proofs.Invariant`.
-/

namespace Annotations.History

def IsDistinct (history : History) : Prop :=
  (history.units.map SourceUnit.unitId).Nodup

/-! ## Requests on histories -/

def push (history : History) (unit : SourceUnit) : History :=
  ⟨history.analysed, history.pending ++ [unit]⟩

/-- Add units up to the first whose identifier is taken. -/
def add (history : History) : List SourceUnit → History
  | [] => history
  | unit :: rest =>
      if unit.unitId ∈ history.units.map SourceUnit.unitId then history
      else (history.push unit).add rest

/-- The pending units become one more batch. -/
def analyse (history : History) : History :=
  ⟨history.analysed ++ [history.pending], []⟩

/-- The history after a request. A report of ranges is computed, and so analyses, only where the run
tracks them. -/
def after (options : RunOptions) (history : History) : Request → History
  | .add unit => history.add [unit]
  | .addMany units => history.add units
  | .analyze | .resolve => history.analyse
  | .suppressions => if options.suppressionsEnabled then history.analyse else history
  | .reset => ⟨[], []⟩
  | .units | .unitReports | .diagnostics | .symbols | .changes => history

theorem units_push (history : History) (unit : SourceUnit) :
    (history.push unit).units = history.units ++ [unit] := by
  simp [push, units]

theorem units_analyse (history : History) : history.analyse.units = history.units := by
  simp [analyse, units]

/-! ## Identifiers stay distinct -/

theorem IsDistinct.push {history : History} {unit : SourceUnit} (distinct : history.IsDistinct)
    (isNew : unit.unitId ∉ history.units.map SourceUnit.unitId) :
    (history.push unit).IsDistinct := by
  unfold IsDistinct
  rw [units_push, List.map_append, List.nodup_append]
  refine ⟨distinct, by simp, ?_⟩
  rintro unitId isOld _ isPushed rfl
  rw [List.map_singleton, List.mem_singleton] at isPushed
  exact isNew (isPushed ▸ isOld)

theorem IsDistinct.add {history : History} (distinct : history.IsDistinct)
    (units : List SourceUnit) : (history.add units).IsDistinct := by
  induction units generalizing history with
  | nil => exact distinct
  | cons unit rest inductionHypothesis =>
      rw [History.add]
      split
      · exact distinct
      next isNew => exact inductionHypothesis (distinct.push isNew)

theorem IsDistinct.analyse {history : History} (distinct : history.IsDistinct) :
    history.analyse.IsDistinct := by
  unfold IsDistinct
  rw [units_analyse]
  exact distinct

theorem IsDistinct.after {history : History} (distinct : history.IsDistinct) (options : RunOptions)
    (request : Request) : (history.after options request).IsDistinct := by
  cases request with
  | add unit => exact distinct.add [unit]
  | addMany units => exact distinct.add units
  | analyze | resolve => exact distinct.analyse
  | suppressions =>
      rw [History.after]
      split
      · exact distinct.analyse
      · exact distinct
  | reset => exact List.nodup_nil
  | units | unitReports | diagnostics | symbols | changes => exact distinct

/-! ## Requests on replays -/

theorem addUnit_replay_of_new {options : RunOptions} {history : History} {unit : SourceUnit}
    (isNew : unit.unitId ∉ history.units.map SourceUnit.unitId) :
    (replay options history).addUnit unit = .ok (replay options (history.push unit)) := by
  unfold Run.addUnit
  rw [if_neg (show unit.unitId ∉ (replay options history).unitIds from isNew)]
  simp [replay, push, units]

/-- Adding ends with the units before the first that is refused. -/
theorem snd_addUnits_replay (options : RunOptions) (history : History) (units : List SourceUnit) :
    ((replay options history).addUnits units).2 = replay options (history.add units) := by
  induction units generalizing history with
  | nil => rfl
  | cons unit rest inductionHypothesis =>
      by_cases isOld : unit.unitId ∈ history.units.map SourceUnit.unitId
      · have refused : (replay options history).addUnit unit =
            .error (.duplicateUnit unit.unitId) := if_pos isOld
        rw [Run.addUnits, refused, add, if_pos isOld]
      · rw [Run.addUnits, addUnit_replay_of_new isOld, add, if_neg isOld]
        exact inductionHypothesis (history.push unit)

theorem snd_answerAdd (added : Option RunError × Run) : (Run.answerAdd added).2 = added.2 := by
  obtain ⟨refusal, run⟩ := added
  cases refusal <;> rfl

theorem resolveVisibility_replay (options : RunOptions) {history : History}
    (distinct : history.IsDistinct) :
    (replay options history).resolveVisibility =
      .ok ((replay options history.analyse).diagnostics, replay options history.analyse) := by
  unfold Run.resolveVisibility
  rw [analyze_replay options history distinct]
  rfl

/-- Where ranges are tracked their report is complete: what is pending is analysed first. -/
theorem suppressionReport_replay (options : RunOptions) {history : History}
    (distinct : history.IsDistinct) :
    (replay options history).suppressionReport =
      .ok (if options.suppressionsEnabled then (replay options history.analyse).report.asMapping
          else [],
        replay options (history.after options .suppressions)) := by
  unfold Run.suppressionReport
  change (if options.suppressionsEnabled = true then _ else _) = _
  by_cases enabled : options.suppressionsEnabled = true
  · rw [if_pos enabled, analyze_replay options history distinct]
    simp [after, enabled, analyse, bind, Except.bind]
  · simp [after, enabled]

/-- Whether a log is kept never changes. -/
theorem isSome_log?_tableAfter (options : RunOptions) (batches : List (List SourceUnit)) :
    (tableAfter options batches).log?.isSome = options.tracksChanges := by
  induction batches using List.reverseRecOn with
  | nil =>
      unfold tableAfter SymbolTable.empty
      cases options.tracksChanges <;> rfl
  | append_singleton batches batch inductionHypothesis =>
      rw [tableAfter_append_singleton, analyseBatch, SymbolTable.log?_applyAll, Option.isSome_map,
        SymbolTable.log?_declareUnits, inductionHypothesis]

theorem reset_replay (options : RunOptions) (history : History) :
    (replay options history).reset = replay options ⟨[], []⟩ := by
  have cleared : (tableAfter options history.analysed).clear =
      SymbolTable.empty options.tracksChanges := by
    have kept := isSome_log?_tableAfter options history.analysed
    unfold SymbolTable.clear SymbolTable.empty
    rw [← kept]
    cases (tableAfter options history.analysed).log? <;> rfl
  rw [replay_empty]
  unfold Run.reset Run.fresh
  simp [replay, cleared]

/-- A request moves a replay to the replay of the history after it. -/
theorem snd_perform_replay (options : RunOptions) {history : History}
    (distinct : history.IsDistinct) (request : Request) :
    ((replay options history).perform request).2 =
      replay options (history.after options request) := by
  cases request with
  | add unit => exact (snd_answerAdd _).trans (snd_addUnits_replay options history [unit])
  | addMany units => exact (snd_answerAdd _).trans (snd_addUnits_replay options history units)
  | analyze => rw [perform_analyze_replay options history distinct, after, analyse]
  | resolve => rw [Run.perform, resolveVisibility_replay options distinct, after, Run.answerWith]
  | suppressions => rw [Run.perform, suppressionReport_replay options distinct, Run.answerWith]
  | reset => exact reset_replay options history
  | units | unitReports | diagnostics | symbols | changes => rfl

/-- Requests move a replay along the histories after each of them. -/
theorem snd_performAll_replay (options : RunOptions) {history : History}
    (distinct : history.IsDistinct) (requests : List Request) :
    ((replay options history).performAll requests).2 =
      replay options (requests.foldl (after options) history) := by
  induction requests generalizing history with
  | nil => rfl
  | cons request rest inductionHypothesis =>
      change (((replay options history).perform request).2.performAll rest).2 = _
      rw [snd_perform_replay options distinct request]
      exact inductionHypothesis (distinct.after options request)

theorem IsDistinct.foldl_after {history : History} (distinct : history.IsDistinct)
    (options : RunOptions) (requests : List Request) :
    (requests.foldl (History.after options) history).IsDistinct := by
  induction requests generalizing history with
  | nil => exact distinct
  | cons request rest inductionHypothesis =>
      exact inductionHypothesis (distinct.after options request)

/-! ## Runs from the start -/

def ofRequests (options : RunOptions) (requests : List Request) : History :=
  requests.foldl (after options) ⟨[], []⟩

theorem isDistinct_empty : IsDistinct ⟨[], []⟩ := List.nodup_nil

theorem isDistinct_ofRequests (options : RunOptions) (requests : List Request) :
    (ofRequests options requests).IsDistinct :=
  isDistinct_empty.foldl_after options requests

theorem ofRequests_append_singleton (options : RunOptions) (requests : List Request)
    (request : Request) :
    ofRequests options (requests ++ [request]) =
      (ofRequests options requests).after options request := by
  unfold ofRequests
  rw [List.foldl_append]
  rfl

/-- Requests bring a run to the replay of the history they give it. -/
theorem snd_performAll_fresh (options : RunOptions) (requests : List Request) :
    ((Run.fresh options).performAll requests).2 = replay options (ofRequests options requests) := by
  rw [← replay_empty]
  exact snd_performAll_replay options isDistinct_empty requests

/-- Every state that requests bring a run to is the replay of a history whose identifiers are
distinct. -/
theorem performAll_fresh (options : RunOptions) (requests : List Request) :
    ∃ history : History, history.IsDistinct ∧
      ((Run.fresh options).performAll requests).2 = replay options history :=
  ⟨_, isDistinct_ofRequests options requests, snd_performAll_fresh options requests⟩

/-- After a reset every request has the outcome it would have in a run just started, and is refused
exactly where it would be refused there. -/
theorem performAll_after_reset (options : RunOptions) (earlier later : List Request) :
    (Run.fresh options).performAll (earlier ++ .reset :: later) =
      (((Run.fresh options).performAll earlier).1 ++
          .ok .done :: ((Run.fresh options).performAll later).1,
        ((Run.fresh options).performAll later).2) := by
  have startsOver : ((Run.fresh options).performAll earlier).2.reset = Run.fresh options := by
    rw [snd_performAll_fresh, reset_replay, replay_empty]
  rw [performAll_append, Run.performAll, Run.perform]
  simp only [startsOver]

end Annotations.History
