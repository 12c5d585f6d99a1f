import Annotations.Proofs.Separation

/-!
Contract: runs that differ in nothing but whether they track suppressions.

A run that tracks suppressions analyses what is pending before it reports the
collected ranges; one that does not has nothing to report, and leaves the pending
units alone. Since directives see what is declared when their unit is analysed,
the switch shows in symbols and failures, but only through these analyses.

Owns:

- `Run.SameVisibility`, that two runs show the same symbols, failures and changes;
- `History.visibility_under_tracking`, which compares the runs, and
  `History.ReportsSettled`, when they show the same after the same requests.
-/

namespace Annotations

/-- Two runs show the same symbols, failures and changes. -/
structure Run.SameVisibility (run other : Run) : Prop where
  symbols : run.symbols = other.symbols
  diagnostics : run.diagnostics = other.diagnostics
  changes : run.changes = other.changes

def RunOptions.withTracking (options : RunOptions) (enabled : Bool) : RunOptions :=
  { options with suppressionsEnabled := enabled }

/-- The request itself, or an analysis in place of a request for the collected ranges. -/
def Request.analysing : Request → Request
  | .suppressions => .analyze
  | request => request

namespace History

/-- Since the last reset the run was asked for the collected ranges only with nothing pending. -/
def ReportsSettled (options : RunOptions) (requests : List Request) : Prop :=
  ∀ earlier later, requests = earlier ++ .suppressions :: later → .reset ∉ later →
    ((Run.fresh options).performAll earlier).2.pending = []

/-- Of one history, runs with and without tracking show the same. -/
theorem sameVisibility_replay (options : RunOptions) (history : History) :
    (replay (options.withTracking true) history).SameVisibility
      (replay (options.withTracking false) history) where
  symbols := rfl
  diagnostics := by
    apply Run.diagnostics_congr
    change (reportsAfter _ history.analysed).map _ = (reportsAfter _ history.analysed).map _
    unfold reportsAfter
    rw [List.map_map, List.map_map]
    rfl
  changes := rfl

/-- Tracking amounts to an analysis at every request for the collected ranges. -/
theorem ofRequests_withTracking (options : RunOptions) (requests : List Request) :
    ofRequests (options.withTracking true) requests =
      ofRequests (options.withTracking false) (requests.map Request.analysing) := by
  unfold ofRequests
  rw [List.foldl_map]
  congr 1
  funext history request
  cases request <;> rfl

/-- With nothing pending, an analysis changes nothing. -/
theorem replay_analyse_of_settled (options : RunOptions) {history : History}
    (settled : history.pending = []) : replay options history.analyse = replay options history := by
  obtain ⟨analysed, pending⟩ := history
  subst settled
  have sameReports : reportsAfter options (analysed ++ [[]]) = reportsAfter options analysed := by
    rw [reportsAfter_append_singleton, List.map_nil, List.append_nil]
  have sameTable : tableAfter options (analysed ++ [[]]) = tableAfter options analysed :=
    tableAfter_append_singleton options analysed []
  unfold replay
  rw [units_analyse]
  simp only [analyse, sameReports, sameTable]

theorem snd_performAll_append_singleton (run : Run) (requests : List Request) (request : Request) :
    (run.performAll (requests ++ [request])).2 =
      ((run.performAll requests).2.perform request).2 := by
  rw [performAll_append]
  rfl

/-- A reset settles whatever was before; any other request must not be an early report. -/
theorem reportsSettled_append_singleton_iff {options : RunOptions} {requests : List Request}
    {request : Request} :
    ReportsSettled options (requests ++ [request]) ↔
      request = .reset ∨ ReportsSettled options requests ∧
        (request = .suppressions →
          ((Run.fresh options).performAll requests).2.pending = []) := by
  constructor
  · intro settled
    by_cases isReset : request = .reset
    · exact Or.inl isReset
    · refine Or.inr ⟨?_, ?_⟩
      · intro earlier later split withoutReset
        apply settled earlier (later ++ [request])
        · rw [split, List.append_assoc, List.cons_append]
        · rw [List.mem_append, List.mem_singleton]
          exact not_or.2 ⟨withoutReset, Ne.symm isReset⟩
      · rintro rfl
        exact settled requests [] rfl List.not_mem_nil
  · intro settled earlier later split withoutReset
    rcases later.eq_nil_or_concat with rfl | ⟨front, last, rfl⟩
    · obtain ⟨rfl, sameLast⟩ := List.append_inj' split rfl
      obtain rfl := List.singleton_inj.1 sameLast
      rcases settled with isReset | ⟨-, nonePending⟩
      · contradiction
      · exact nonePending rfl
    · rw [List.concat_eq_append] at split withoutReset
      rw [← List.cons_append, ← List.append_assoc] at split
      obtain ⟨rfl, sameLast⟩ := List.append_inj' split rfl
      obtain rfl := List.singleton_inj.1 sameLast
      rw [List.mem_append, List.mem_singleton, not_or] at withoutReset
      rcases settled with isReset | ⟨settledBefore, -⟩
      · exact absurd isReset.symm withoutReset.2
      · exact settledBefore earlier front rfl withoutReset.1

/-- Only a request for the collected ranges has another effect where they are tracked. -/
theorem after_withTracking (options : RunOptions) (history : History) {request : Request}
    (noReport : request ≠ .suppressions) :
    history.after (options.withTracking true) request =
      history.after (options.withTracking false) request := by
  cases request with
  | suppressions => contradiction
  | add | addMany | analyze | resolve | reset | units | unitReports | diagnostics | symbols
  | changes => rfl

/-- While reports are asked for only with nothing pending, the two runs have one history. -/
theorem exists_common_history {options : RunOptions} {requests : List Request}
    (settled : ReportsSettled (options.withTracking true) requests) :
    ∃ history : History, history.IsDistinct ∧ ∀ enabled,
      ((Run.fresh (options.withTracking enabled)).performAll requests).2 =
        replay (options.withTracking enabled) history := by
  induction requests using List.reverseRecOn with
  | nil => exact ⟨⟨[], []⟩, isDistinct_empty, fun _ => rfl⟩
  | append_singleton requests request inductionHypothesis =>
      rcases reportsSettled_append_singleton_iff.1 settled with rfl | ⟨settledBefore, noEarlyReport⟩
      · refine ⟨⟨[], []⟩, isDistinct_empty, fun enabled => ?_⟩
        rw [snd_performAll_fresh, ofRequests_append_singleton]
        rfl
      · obtain ⟨history, distinct, reached⟩ := inductionHypothesis settledBefore
        have next : ∀ enabled,
            ((Run.fresh (options.withTracking enabled)).performAll (requests ++ [request])).2 =
              replay (options.withTracking enabled)
                (history.after (options.withTracking enabled) request) := by
          intro enabled
          rw [snd_performAll_append_singleton, reached, snd_perform_replay _ distinct]
        by_cases isReport : request = .suppressions
        · subst isReport
          have nonePending : history.pending = [] := by
            have pending := noEarlyReport rfl
            rw [reached true] at pending
            exact List.map_eq_nil_iff.1 pending
          refine ⟨history, distinct, fun enabled => ?_⟩
          rw [next]
          cases enabled with
          | true => exact replay_analyse_of_settled _ nonePending
          | false => rfl
        · refine ⟨_, distinct.after (options.withTracking false) request, fun enabled => ?_⟩
          rw [next]
          cases enabled with
          | true => rw [after_withTracking options history isReport]
          | false => rfl

/-- Whether suppressions are tracked shows in symbols, failures and changes only through the
analyses that reports of ranges make. A run that tracks them shows what the other shows if that one
analyses in place of each report. After the same requests both show the same, if since the last
reset no report was asked for while units were pending. -/
theorem visibility_under_tracking (options : RunOptions) (requests : List Request) :
    ((Run.fresh (options.withTracking true)).performAll requests).2.SameVisibility
        ((Run.fresh (options.withTracking false)).performAll
          (requests.map Request.analysing)).2 ∧
      (ReportsSettled (options.withTracking true) requests →
        ((Run.fresh (options.withTracking true)).performAll requests).2.SameVisibility
          ((Run.fresh (options.withTracking false)).performAll requests).2) := by
  constructor
  · rw [snd_performAll_fresh, snd_performAll_fresh, ofRequests_withTracking]
    exact sameVisibility_replay options _
  · intro settled
    obtain ⟨history, -, reached⟩ := exists_common_history settled
    rw [reached true, reached false]
    exact sameVisibility_replay options history

private def hidesOwnMethod : SourceUnit where
  unitId := "a.py"
  lineCount := 2
  declarations := [⟨["lib"], "run", .instanceMethod, 1⟩]
  calls := [⟨["lib"], "private", 2, [⟨.string, "'run'", some (.text "run")⟩,
    ⟨.string, "'stop'", some (.text "stop")⟩]⟩]
  comments := []
  scope := ["lib"]

private def switchable : RunOptions := ⟨Catalog.standard, false, ⟨"annotate", []⟩, true, 1⟩

private def reportTwice : List Request :=
  [.add hidesOwnMethod, .suppressions, .reset, .add hidesOwnMethod, .analyze, .suppressions]

/-- A report may be asked for after an analysis, and at any time before a reset. -/
theorem report_after_analysis :
    ReportsSettled (switchable.withTracking true) reportTwice ∧
      ((Run.fresh (switchable.withTracking true)).performAll reportTwice).2.SameVisibility
        ((Run.fresh (switchable.withTracking false)).performAll reportTwice).2 := by
  have reset : ReportsSettled (switchable.withTracking true)
      ([.add hidesOwnMethod, .suppressions] ++ [.reset]) :=
    reportsSettled_append_singleton_iff.2 (Or.inl rfl)
  have added : ReportsSettled (switchable.withTracking true)
      ([.add hidesOwnMethod, .suppressions, .reset] ++ [.add hidesOwnMethod]) :=
    reportsSettled_append_singleton_iff.2 (Or.inr ⟨reset, fun isReport => by contradiction⟩)
  have analysed : ReportsSettled (switchable.withTracking true)
      ([.add hidesOwnMethod, .suppressions, .reset, .add hidesOwnMethod] ++ [.analyze]) :=
    reportsSettled_append_singleton_iff.2 (Or.inr ⟨added, fun isReport => by contradiction⟩)
  have nonePending : ((Run.fresh (switchable.withTracking true)).performAll
      [.add hidesOwnMethod, .suppressions, .reset, .add hidesOwnMethod, .analyze]).2.pending =
        [] := by
    decide +kernel
  have settled : ReportsSettled (switchable.withTracking true) reportTwice :=
    reportsSettled_append_singleton_iff.2 (Or.inr ⟨analysed, fun _ => nonePending⟩)
  exact ⟨settled, (visibility_under_tracking switchable reportTwice).2 settled⟩

/-- A report asked for while a unit is pending shows the unit's symbol where suppressions are
tracked, and leaves it out where they are not. -/
theorem report_before_analysis :
    ((Run.fresh (switchable.withTracking true)).performAll
          [.add hidesOwnMethod, .suppressions]).2.symbols =
        [⟨⟨["lib"], "run", .instanceMethod⟩, .isPrivate, "a.py", 1⟩] ∧
      ((Run.fresh (switchable.withTracking false)).performAll
          [.add hidesOwnMethod, .suppressions]).2.symbols = [] ∧
      ¬ ((Run.fresh (switchable.withTracking true)).performAll
            [.add hidesOwnMethod, .suppressions]).2.SameVisibility
          ((Run.fresh (switchable.withTracking false)).performAll
            [.add hidesOwnMethod, .suppressions]).2 := by
  have shown : ((Run.fresh (switchable.withTracking true)).performAll
      [.add hidesOwnMethod, .suppressions]).2.symbols =
        [⟨⟨["lib"], "run", .instanceMethod⟩, .isPrivate, "a.py", 1⟩] := by
    decide +kernel
  have leftOut : ((Run.fresh (switchable.withTracking false)).performAll
      [.add hidesOwnMethod, .suppressions]).2.symbols = [] := by
    decide +kernel
  refine ⟨shown, leftOut, fun same => ?_⟩
  have symbols := same.symbols
  rw [shown, leftOut] at symbols
  contradiction

end History

end Annotations
