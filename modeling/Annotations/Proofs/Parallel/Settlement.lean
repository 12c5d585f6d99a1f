import Annotations.Proofs.ChangeLog
import Annotations.Proofs.Parallel.Worker
import Annotations.Proofs.Suppression.Aggregation

/-!
Contract: what a worker will do, whatever other workers do in between.

Workers change visibilities, but never the place where a path was declared, and no
worker's course depends on a visibility except for whether a change is recorded.
So what a worker will still make private and file, and the report it will end
with, is settled by the sites alone.

Owns:

- `Worker.Settles`, which says that a worker's course is settled;
- `Worker.settles_ofUnit`, that the course of each unit's worker is.
-/

namespace Annotations

/-- What a worker has not done yet: a change that it made and owes a record of, the paths that it
will make private, and the ranges that it will file. -/
structure Remainder where
  owed : List Path
  applied : List Path
  filed : List (String × ReportEntry)

namespace Worker

/-- As long as paths are declared at these sites, the worker will do what remains and end with the
report. -/
inductive Settles (sites : Path → Option Site) : Worker UnitReport → Remainder → UnitReport →
    Prop where
  | finished {report : UnitReport} : Settles sites (.finished (.ok report)) ⟨[], [], []⟩ report
  | lookup {path : Path} {next : Option Symbol → Worker UnitReport} {remainder : Remainder}
      {report : UnitReport}
      (answered : ∀ symbol?, symbol?.map Symbol.site = sites path →
        Settles sites (next symbol?) remainder report) :
      Settles sites (.lookup path next) remainder report
  | assign {path : Path} {next : Visibility → Worker UnitReport} {applied : List Path}
      {filed : List (String × ReportEntry)} {report : UnitReport} (sited : (sites path).isSome)
      (unchanged : Settles sites (next .isPrivate) ⟨[], applied, filed⟩ report)
      (changed : ∀ before, before ≠ .isPrivate →
        Settles sites (next before) ⟨[path], applied, filed⟩ report) :
      Settles sites (.assign path .isPrivate next) ⟨[], path :: applied, filed⟩ report
  | record {change : Change} {next : Worker UnitReport} {applied : List Path}
      {filed : List (String × ReportEntry)} {report : UnitReport}
      (rest : Settles sites next ⟨[], applied, filed⟩ report) :
      Settles sites (.record change next) ⟨[change.path], applied, filed⟩ report
  | append {unitId : UnitId} {ranges : SuppressionMap} {next : Worker UnitReport}
      {applied : List Path} {filed : List (String × ReportEntry)} {report : UnitReport}
      (rest : Settles sites next ⟨[], applied, filed⟩ report) :
      Settles sites (.append unitId ranges next) ⟨[], applied, located unitId ranges ++ filed⟩
        report

/-! ## The course of a unit's worker -/

section Course

variable {sites : Path → Option Site} {resolver : Resolver} {applied : List Path}
  {filed : List (String × ReportEntry)} {report : UnitReport}

theorem settles_ofArgument {shape : Shape} {scope : Namespace} {line : Line} {argument : Argument}
    {next : Option DirectiveError → Worker UnitReport}
    (rest : Settles sites (next (resolver.error? sites shape scope line argument))
      ⟨[], applied, filed⟩ report) :
    Settles sites (ofArgument resolver shape scope line argument next)
      ⟨[], (resolver.appliedPath? sites shape scope line argument).toList ++ applied, filed⟩
      report := by
  unfold ofArgument
  unfold Resolver.error? at rest
  unfold Resolver.appliedPath?
  cases target : shape.target? scope argument with
  | none =>
      rw [target] at rest
      exact rest
  | some path =>
      simp only [target] at rest
      apply Settles.lookup
      intro symbol? answered
      rw [resolver.accepts_eq_reaches answered line]
      by_cases reached : resolver.reaches sites path line = true
      · obtain ⟨site, sited, -⟩ := Resolver.reaches_iff.1 reached
        simp only [reached, if_true, Option.filter_some] at rest ⊢
        apply Settles.assign (Option.isSome_of_eq_some sited)
        · exact rest
        · intro before notPrivate
          rw [if_neg notPrivate]
          exact Settles.record rest
      · simp only [reached, Option.filter_some] at rest ⊢
        exact rest

theorem settles_ofArguments {shape : Shape} {scope : Namespace} {line : Line}
    {arguments : List Argument} {next : List DirectiveError → Worker UnitReport}
    (rest : Settles sites (next (arguments.filterMap (resolver.error? sites shape scope line)))
      ⟨[], applied, filed⟩ report) :
    Settles sites (ofArguments resolver shape scope line arguments next)
      ⟨[], arguments.filterMap (resolver.appliedPath? sites shape scope line) ++ applied, filed⟩
      report := by
  induction arguments generalizing next with
  | nil => exact rest
  | cons argument others inductionHypothesis =>
      rw [filterMap_cons_toList] at rest
      rw [filterMap_cons_toList, List.append_assoc]
      exact settles_ofArgument (inductionHypothesis rest)

theorem settles_ofCall {call : Call} {next : Option Failure → Worker UnitReport}
    (rest : Settles sites (next (resolver.failure? sites call)) ⟨[], applied, filed⟩ report) :
    Settles sites (ofCall resolver call next)
      ⟨[], (resolver.callApplications sites call).map Application.path ++ applied, filed⟩
      report := by
  unfold ofCall
  unfold Resolver.failure? at rest
  unfold Resolver.callApplications
  cases classified : resolver.catalog.classify? call.callee with
  | none =>
      rw [classified] at rest
      exact rest
  | some shape =>
      simp only [classified] at rest
      simp only [Resolver.argumentApplications, List.map_map, Function.comp_def, List.map_id']
      exact settles_ofArguments rest

theorem settles_ofCalls {calls : List Call} {next : List Failure → Worker UnitReport}
    (rest : Settles sites (next (calls.filterMap (resolver.failure? sites)))
      ⟨[], applied, filed⟩ report) :
    Settles sites (ofCalls resolver calls next)
      ⟨[], (calls.flatMap (resolver.callApplications sites)).map Application.path ++ applied, filed⟩
      report := by
  induction calls generalizing next with
  | nil => exact rest
  | cons call others inductionHypothesis =>
      rw [filterMap_cons_toList] at rest
      rw [List.flatMap_cons, List.map_append, List.append_assoc]
      exact settles_ofCall (inductionHypothesis rest)

end Course

def unitRemainder (options : RunOptions) (sites : Path → Option Site) (unit : SourceUnit) :
    Remainder where
  owed := []
  applied := (Resolver.applications ⟨unit.unitId, options.catalog⟩ sites unit).map Application.path
  filed := located unit.unitId (History.unitSuppressions options unit)

/-- A unit's worker does what the sites make of its unit, and ends with the unit's report. -/
theorem settles_ofUnit (options : RunOptions) (sites : Path → Option Site) (unit : SourceUnit) :
    Settles sites (ofUnit options unit) (unitRemainder options sites unit)
      (History.unitReport options sites unit) := by
  unfold ofUnit unitRemainder
  rw [History.trackUnit_eq, ← List.append_nil (List.map _ _)]
  apply settles_ofCalls
  cases enabled : options.suppressionsEnabled with
  | true =>
      rw [← List.append_nil (located _ _)]
      exact Settles.append Settles.finished
  | false =>
      have noRanges : located unit.unitId (History.unitSuppressions options unit) = [] := by
        simp [History.unitSuppressions, enabled, located, unfiled]
      rw [noRanges]
      exact Settles.finished

end Worker

end Annotations
