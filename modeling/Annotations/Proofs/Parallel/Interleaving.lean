import Annotations.Proofs.Parallel.Pool
import Annotations.Proofs.Parallel.Settlement

/-!
Contract: what workers leave behind, in whatever order they step.

Under every schedule the workers do together what each of them has settled to do.
The paths that were made private and those still to come are always the same. Of
several workers that make one path private only the first finds it open, so every
change is recorded, or its record is owed by the one worker that made it.

Owns:

- `Progress`, what was done and what remains, which every step preserves;
- `Pool.agrees_with_processUnits`, that no schedule shows in the results.
-/

namespace Annotations

/-! ## Progress -/

/-- What workers have to do in all, beginning with what they share at the start. -/
structure Plan where
  start : Shared
  applied : List Path
  filed : List (String × ReportEntry)

/-- Some paths were made private and some changes recorded since the start. With what remains this
makes up the plan, and each change is either recorded or owed by one worker. -/
structure Progress (plan : Plan) (shared : Shared) (done : List Path) (records : List Change)
    (remainders : List Remainder) : Prop where
  makes : SymbolTable.MakesPrivate plan.start.table shared.table done
  covered : ∀ path, path ∈ plan.applied ↔
    path ∈ done ∨ path ∈ remainders.flatMap Remainder.applied
  logged : shared.table.log? = plan.start.table.log?.map (· ++ records)
  once : (records.map Change.path ++ remainders.flatMap Remainder.owed).Nodup
  effective : ∀ path, path ∈ records.map Change.path ++ remainders.flatMap Remainder.owed ↔
    path ∈ done ∧ plan.start.table.Open path
  collected : (shared.report.filed ++ remainders.flatMap Remainder.filed).Perm
    (plan.start.report.filed ++ plan.filed)

namespace Progress

variable {plan : Plan} {shared : Shared} {done : List Path} {records : List Change}
  {applied : List Path} {filed : List (String × ReportEntry)} {others : List Remainder}

theorem of_perm {remainders reordered : List Remainder}
    (progress : Progress plan shared done records remainders)
    (permuted : remainders.Perm reordered) : Progress plan shared done records reordered where
  makes := progress.makes
  covered := by
    intro path
    rw [progress.covered, (permuted.flatMap_right Remainder.applied).mem_iff]
  logged := progress.logged
  once := (((permuted.flatMap_right _).append_left _).nodup_iff).1 progress.once
  effective := by
    intro path
    rw [← progress.effective]
    exact ((permuted.symm.flatMap_right _).append_left _).mem_iff
  collected := ((permuted.symm.flatMap_right _).append_left _).trans progress.collected

/-- A path is made private. If that changed its symbol, the worker owes the record. -/
theorem assign {path : Path} {symbol : Symbol}
    (progress : Progress plan shared done records (⟨[], path :: applied, filed⟩ :: others))
    (registered : shared.table.get? path = some symbol) :
    Progress plan
      ⟨⟨shared.table.registry.assign path .isPrivate, shared.table.log?⟩, shared.report⟩
      (done ++ [path]) records
      (⟨if symbol.visibility = .isPrivate then [] else [path], applied, filed⟩ :: others) where
  makes := by
    apply progress.makes.trans
    intro other
    simp only [List.mem_singleton]
    exact Registry.get?_assign shared.table.registry path .isPrivate other
  covered := by
    intro other
    rw [progress.covered]
    simp only [List.flatMap_cons, List.mem_append, List.mem_cons, List.not_mem_nil, or_false]
    tauto
  logged := progress.logged
  once := by
    have before := progress.once
    rw [List.flatMap_cons, List.nil_append] at before
    by_cases isPrivate : symbol.visibility = .isPrivate
    · rw [if_pos isPrivate]
      exact before
    · have isOpen : shared.table.Open path := ⟨symbol, registered, isPrivate⟩
      have isNew : path ∉ records.map Change.path ++ others.flatMap Remainder.owed := by
        intro isOld
        have wasDone := ((progress.effective path).1 isOld).1
        exact (progress.makes.open_iff.1 isOpen).1 wasDone
      rw [if_neg isPrivate, List.flatMap_cons, List.singleton_append, List.nodup_middle]
      exact List.nodup_cons.2 ⟨isNew, before⟩
  effective := by
    intro other
    have before := progress.effective other
    rw [List.flatMap_cons, List.nil_append] at before
    by_cases isPrivate : symbol.visibility = .isPrivate
    · -- Whoever made the path private before has recorded it, or owes the record.
      have notOpen : ¬ shared.table.Open path := by
        intro isOpen
        obtain ⟨found, isFound, notPrivate⟩ := isOpen
        obtain rfl := Option.some.inj (registered.symm.trans isFound)
        exact notPrivate isPrivate
      rw [progress.makes.open_iff] at notOpen
      rw [if_pos isPrivate, List.flatMap_cons, List.nil_append, before, List.mem_append,
        List.mem_singleton]
      by_cases same : other = path
      · subst same
        tauto
      · simp [same]
    · have isOpen := progress.makes.open_iff.1 ⟨symbol, registered, isPrivate⟩
      rw [if_neg isPrivate, List.flatMap_cons, List.singleton_append, List.perm_middle.mem_iff,
        List.mem_cons, before, List.mem_append, List.mem_singleton]
      by_cases same : other = path
      · subst same
        simp [isOpen.2]
      · simp [same]
  collected := progress.collected

theorem record {change : Change}
    (progress : Progress plan shared done records (⟨[change.path], applied, filed⟩ :: others)) :
    Progress plan (shared.record change) done (records ++ [change])
      (⟨[], applied, filed⟩ :: others) where
  makes := progress.makes
  covered := progress.covered
  logged := by
    unfold Shared.record
    rw [progress.logged, Option.map_map]
    simp only [Function.comp_def, List.append_assoc]
  once := by simpa using progress.once
  effective := by simpa using progress.effective
  collected := progress.collected

theorem append {unitId : UnitId} {ranges : SuppressionMap}
    (progress : Progress plan shared done records
      (⟨[], applied, located unitId ranges ++ filed⟩ :: others)) :
    Progress plan (shared.append unitId ranges) done records (⟨[], applied, filed⟩ :: others) where
  makes := progress.makes
  covered := progress.covered
  logged := progress.logged
  once := progress.once
  effective := progress.effective
  collected := by
    unfold Shared.append
    rw [SuppressionReport.filed_append]
    simpa using progress.collected

/-- When nothing is left, the plan is done and each change recorded. -/
theorem at_end {remainders : List Remainder}
    (progress : Progress plan shared done records remainders)
    (nothingLeft : ∀ remainder ∈ remainders, remainder = ⟨[], [], []⟩) :
    (∀ path, path ∈ done ↔ path ∈ plan.applied) ∧
      SymbolTable.Records plan.start.table shared.table records ∧
      shared.report.filed.Perm (plan.start.report.filed ++ plan.filed) := by
  have emptyPart : ∀ {Item : Type} (part : Remainder → List Item), part ⟨[], [], []⟩ = [] →
      remainders.flatMap part = [] := by
    intro Item part noPart
    rw [List.flatMap_eq_nil_iff]
    intro remainder isRemainder
    rw [nothingLeft remainder isRemainder, noPart]
  have noneApplied := emptyPart Remainder.applied rfl
  have noneOwed := emptyPart Remainder.owed rfl
  have noneFiled := emptyPart Remainder.filed rfl
  refine ⟨?_, ⟨progress.logged, ?_, ?_⟩, ?_⟩
  · intro path
    rw [progress.covered, noneApplied]
    simp
  · have once := progress.once
    rw [noneOwed, List.append_nil] at once
    exact once
  · intro path
    rw [progress.makes.differs_iff, ← progress.effective, noneOwed, List.append_nil]
  · have collected := progress.collected
    rw [noneFiled, List.append_nil] at collected
    exact collected

end Progress

/-! ## Steps -/

/-- A settled worker steps, and stays settled: what it did is no longer among what remains. -/
theorem Worker.Settles.advance {plan : Plan} {shared : Shared} {done : List Path}
    {records : List Change} {others : List Remainder} {worker : Worker UnitReport}
    {remainder : Remainder} {report : UnitReport}
    (settles : Settles plan.start.table.site? worker remainder report)
    (progress : Progress plan shared done records (remainder :: others)) :
    ∃ remainder' done' records',
      Settles plan.start.table.site? (worker.step shared).1 remainder' report ∧
        Progress plan (worker.step shared).2 done' records' (remainder' :: others) := by
  have sites : shared.table.site? = plan.start.table.site? := progress.makes.site?_eq
  cases settles with
  | finished => exact ⟨_, _, _, .finished, progress⟩
  | @lookup path next _ _ answered =>
      -- Other workers move no site, so this is an answer for which the course is settled.
      have answer : (shared.table.get? path).map Symbol.site = plan.start.table.site? path := by
        rw [← sites]
        rfl
      exact ⟨_, _, _, answered _ answer, progress⟩
  | @assign path next applied filed _ sited unchanged changed =>
      rw [← sites, SymbolTable.site?, Option.isSome_map] at sited
      obtain ⟨symbol, registered⟩ := Option.isSome_iff_exists.1 sited
      rw [step, assign_eq_of_registered registered]
      refine ⟨_, _, _, ?_, progress.assign registered⟩
      by_cases isPrivate : symbol.visibility = .isPrivate
      · rw [if_pos isPrivate, isPrivate]
        exact unchanged
      · rw [if_neg isPrivate]
        exact changed symbol.visibility isPrivate
  | record rest => exact ⟨_, _, _, rest, progress.record⟩
  | append rest => exact ⟨_, _, _, rest, progress.append⟩

namespace Pool

/-- Every worker of a pool is settled, and together they make progress towards the plan. -/
structure OnCourse (plan : Plan) (pool : Pool UnitReport) (done : List Path) (records : List Change)
    (courses : List (Remainder × UnitReport)) : Prop where
  settled : List.Forall₂ (fun worker course =>
    Worker.Settles plan.start.table.site? worker course.1 course.2) pool.workers courses
  progress : Progress plan pool.shared done records (courses.map Prod.fst)

theorem OnCourse.step {plan : Plan} {pool : Pool UnitReport} {done : List Path}
    {records : List Change} {courses : List (Remainder × UnitReport)}
    (onCourse : OnCourse plan pool done records courses)
    (position : Nat) :
    ∃ done' records' courses', OnCourse plan (pool.step position) done' records' courses' ∧
      courses'.map Prod.snd = courses.map Prod.snd := by
  cases found : pool.workers[position]? with
  | none =>
      rw [step_of_none found]
      exact ⟨done, records, courses, onCourse, rfl⟩
  | some worker =>
      obtain ⟨⟨remainder, report⟩, isCourse, settles, replace⟩ :=
        exists_of_forall₂ onCourse.settled found
      obtain ⟨inRange, atPosition⟩ := List.getElem?_eq_some_iff.1 isCourse
      have first : (courses.map Prod.fst).Perm
          (remainder :: (courses.eraseIdx position).map Prod.fst) := by
        have moved := (List.getElem_cons_eraseIdx_perm inRange).symm.map Prod.fst
        rw [atPosition] at moved
        exact moved
      obtain ⟨remainder', done', records', settles', progress'⟩ :=
        settles.advance (onCourse.progress.of_perm first)
      refine ⟨done', records', courses.set position (remainder', report), ⟨?_, ?_⟩, ?_⟩
      · rw [step_of_worker found]
        exact replace _ _ settles'
      · rw [step_of_worker found]
        apply progress'.of_perm
        exact ((List.set_perm_cons_eraseIdx inRange (remainder', report)).symm.map Prod.fst)
      · have sameReport : (courses.map Prod.snd)[position]? = some report := by
          rw [List.getElem?_map, isCourse]
          rfl
        rw [List.map_set]
        exact set_eq_self sameReport

theorem OnCourse.execute {plan : Plan} {pool : Pool UnitReport} {done : List Path}
    {records : List Change} {courses : List (Remainder × UnitReport)}
    (onCourse : OnCourse plan pool done records courses)
    (schedule : List Nat) :
    ∃ done' records' courses', OnCourse plan (pool.execute schedule) done' records' courses' ∧
      courses'.map Prod.snd = courses.map Prod.snd := by
  induction schedule generalizing pool done records courses with
  | nil => exact ⟨done, records, courses, onCourse, rfl⟩
  | cons position rest inductionHypothesis =>
      obtain ⟨_, _, _, stepped, sameReports⟩ := onCourse.step position
      obtain ⟨done', records', courses', executed, sameAgain⟩ := inductionHypothesis stepped
      exact ⟨done', records', courses', executed, sameAgain.trans sameReports⟩

/-- Workers that are finished have nothing left to do. -/
theorem finished_of_settled {sites : Path → Option Site} {workers : List (Worker UnitReport)}
    {courses : List (Remainder × UnitReport)}
    (settled : List.Forall₂ (fun worker course =>
      Worker.Settles sites worker course.1 course.2) workers courses)
    (complete : ∀ worker ∈ workers, ∃ outcome, worker = .finished outcome) :
    workers = (courses.map Prod.snd).map (fun report => .finished (.ok report)) ∧
      ∀ remainder ∈ courses.map Prod.fst, remainder = ⟨[], [], []⟩ := by
  induction settled with
  | nil => simp
  | @cons worker course workers courses head tail inductionHypothesis =>
      obtain ⟨sameWorkers, nothingLeft⟩ := inductionHypothesis fun other isOther =>
        complete other (List.mem_cons_of_mem worker isOther)
      obtain ⟨outcome, rfl⟩ := complete worker (List.mem_cons_self ..)
      obtain ⟨remainder, report⟩ := course
      cases head with
      | finished =>
          rw [sameWorkers]
          refine ⟨rfl, ?_⟩
          intro other isOther
          rcases List.mem_cons.1 isOther with rfl | inRest
          · rfl
          · exact nothingLeft other inRest

def unitsPlan (options : RunOptions) (shared : Shared) (units : List SourceUnit) : Plan where
  start := shared
  applied := (History.batchApplications options.catalog shared.table.site? units).map
    Application.path
  filed := units.flatMap fun unit =>
    located unit.unitId (History.unitSuppressions options unit)

/-- What each of these workers does, and the report that it ends with. -/
def unitsCourses (options : RunOptions) (shared : Shared) (units : List SourceUnit) :
    List (Remainder × UnitReport) :=
  units.map fun unit => (Worker.unitRemainder options shared.table.site? unit,
    History.unitReport options shared.table.site? unit)

theorem onCourse_ofUnits (options : RunOptions) (shared : Shared) (units : List SourceUnit) :
    OnCourse (unitsPlan options shared units) (ofUnits options shared units) [] []
      (unitsCourses options shared units) where
  settled := by
    unfold ofUnits unitsCourses
    rw [List.forall₂_map_left_iff, List.forall₂_map_right_iff, List.forall₂_same]
    intro unit _
    exact Worker.settles_ofUnit options shared.table.site? unit
  progress := by
    have remainders : (unitsCourses options shared units).map Prod.fst =
        units.map (Worker.unitRemainder options shared.table.site?) := by
      unfold unitsCourses
      rw [List.map_map]
      rfl
    have noneOwed : (units.map (Worker.unitRemainder options shared.table.site?)).flatMap
        Remainder.owed = [] := by
      simp [List.flatMap_map, Worker.unitRemainder]
    rw [remainders]
    constructor
    case makes =>
      intro path
      simp [ofUnits, unitsPlan]
    case covered =>
      intro path
      simp [unitsPlan, History.batchApplications, List.flatMap_map, Worker.unitRemainder,
        List.map_flatMap]
    case logged => simp [ofUnits, unitsPlan]
    case once => simp [noneOwed]
    case effective => simp [noneOwed]
    case collected =>
      rw [List.flatMap_map]
      exact List.Perm.refl _

/-! ## Results -/

/-- A pool shows the results of processing its units one after the other: these reports and the
symbols of this table. Records of changes may name different directives, but are about the same
paths, one for each changed symbol. -/
structure AgreesWith (pool : Pool UnitReport) (start : Shared) (unitReports : List UnitReport)
    (table : SymbolTable) : Prop where
  outcomes : pool.workers = unitReports.map fun report => .finished (.ok report)
  answers : ∀ path, pool.shared.table.get? path = table.get? path
  symbols : pool.shared.table.symbols = table.symbols
  ranges : pool.shared.report.asMapping = (Run.collect start.report unitReports).asMapping
  changedPaths : ∀ path, path ∈ pool.shared.table.changes.map Change.path ↔
    path ∈ table.changes.map Change.path
  recorded : ∃ records, SymbolTable.Records start.table pool.shared.table records

theorem agreesWith_of_onCourse {options : RunOptions} {shared : Shared} {units : List SourceUnit}
    {pool : Pool UnitReport} {done : List Path} {records : List Change}
    {courses : List (Remainder × UnitReport)}
    (onCourse : OnCourse (unitsPlan options shared units) pool done records courses)
    (reports : courses.map Prod.snd = units.map (History.unitReport options shared.table.site?))
    (complete : pool.IsComplete) :
    pool.AgreesWith shared (units.map (History.unitReport options shared.table.site?))
      (shared.table.applyAll
        (History.batchApplications options.catalog shared.table.site? units)) := by
  obtain ⟨finished, nothingLeft⟩ := finished_of_settled onCourse.settled complete
  obtain ⟨allDone, allRecorded, allFiled⟩ := onCourse.progress.at_end nothingLeft
  have recorded : SymbolTable.Records shared.table pool.shared.table records := allRecorded
  have sameAnswers := onCourse.progress.makes.get?_eq
    (SymbolTable.makesPrivate_applyAll shared.table
      (History.batchApplications options.catalog shared.table.site? units)) allDone
  constructor
  case outcomes => rw [finished, reports]
  case answers => exact sameAnswers
  case symbols => exact SymbolTable.symbols_eq_of_get?_eq sameAnswers
  case ranges =>
    apply SuppressionReport.asMapping_eq_of_perm
    rw [SuppressionReport.filed_collect, List.flatMap_map]
    exact allFiled
  case changedPaths =>
    -- The records may name other directives; that both logs gained one for each changed symbol is
    -- all that can be compared.
    obtain ⟨otherRecords, otherRecorded⟩ := SymbolTable.exists_records_applyAll shared.table
      (History.batchApplications options.catalog shared.table.site? units)
    exact SymbolTable.mem_paths_changes_iff_of_records recorded otherRecorded rfl (fun _ => rfl)
      sameAnswers
  case recorded => exact ⟨records, recorded⟩

/-- Once all workers of units are finished, their pool shows what processing the units does. -/
theorem agreesWith_of_isComplete {options : RunOptions} {shared : Shared} {units : List SourceUnit}
    {schedule : List Nat}
    (complete : ((ofUnits options shared units).execute schedule).IsComplete) :
    ((ofUnits options shared units).execute schedule).AgreesWith shared
      (units.map (History.unitReport options shared.table.site?))
      (shared.table.applyAll
        (History.batchApplications options.catalog shared.table.site? units)) := by
  obtain ⟨done, records, courses, onCourse, sameReports⟩ :=
    (onCourse_ofUnits options shared units).execute schedule
  refine agreesWith_of_onCourse onCourse ?_ complete
  rw [sameReports]
  unfold unitsCourses
  rw [List.map_map]
  rfl

/-- Processing units by workers shows the same results as processing them one after the other. Every
schedule can be completed; and once it is complete, it does not matter which one it was. -/
theorem agrees_with_processUnits (options : RunOptions) (shared : Shared)
    (units : List SourceUnit) :
    ∃ unitReports table, Run.processUnits options shared.table units = .ok (unitReports, table) ∧
      ∀ schedule,
        (∃ more, ((ofUnits options shared units).execute (schedule ++ more)).IsComplete) ∧
          (((ofUnits options shared units).execute schedule).IsComplete →
            ((ofUnits options shared units).execute schedule).AgreesWith shared unitReports
              table) := by
  refine ⟨_, _, History.processUnits_eq options shared.table units, ?_⟩
  intro schedule
  refine ⟨?_, agreesWith_of_isComplete⟩
  obtain ⟨more, complete⟩ := exists_completion ((ofUnits options shared units).execute schedule)
  refine ⟨more, ?_⟩
  rw [execute_append]
  exact complete

private def declaring : SourceUnit where
  unitId := "a.py"
  lineCount := 2
  declarations := [⟨["lib"], "LIMIT", .constant, 1⟩]
  calls := [⟨["lib"], "private_constant", 2, [⟨.identifier, "LIMIT", some (.text "LIMIT")⟩]⟩]
  comments := []
  scope := ["lib"]

private def repeating : SourceUnit where
  unitId := "b.py"
  lineCount := 1
  declarations := []
  calls := [⟨["lib"], "private_constant", 1, [⟨.identifier, "LIMIT", some (.text "LIMIT")⟩]⟩]
  comments := []
  scope := ["lib"]

private def bothOptions : RunOptions :=
  ⟨Catalog.standard, true, ⟨"annotate", []⟩, true, 2⟩

private def bothDeclared : Shared :=
  ⟨Run.declareUnits (SymbolTable.empty true) [declaring, repeating], .empty⟩

private theorem isComplete_both :
    ((ofUnits bothOptions bothDeclared [declaring, repeating]).execute
      [0, 1, 0, 1, 1, 0, 0]).IsComplete := by
  have inOrder : ∀ call : Call, sortByLine Call.line [call] = [call] :=
    fun call => List.mergeSort_singleton call
  have workers : ∃ first second, ((ofUnits bothOptions bothDeclared [declaring, repeating]).execute
      [0, 1, 0, 1, 1, 0, 0]).workers = [.finished (.ok first), .finished (.ok second)] := by
    simp only [ofUnits, List.map_cons, List.map_nil, Worker.ofUnit, declaring, repeating, inOrder,
      History.trackUnit_eq]
    exact ⟨_, _, rfl⟩
  obtain ⟨first, second, finished⟩ := workers
  intro worker isWorker
  rw [finished] at isWorker
  simp only [List.mem_cons, List.not_mem_nil, or_false] at isWorker
  rcases isWorker with rfl | rfl
  · exact ⟨_, rfl⟩
  · exact ⟨_, rfl⟩

/-- Both workers find the constant before either makes it private, and the second is done before the
first has recorded the change. -/
theorem second_done_before_first_records :
    ∃ unitReports table,
      Run.processUnits bothOptions bothDeclared.table [declaring, repeating] =
          .ok (unitReports, table) ∧
        ((ofUnits bothOptions bothDeclared [declaring, repeating]).execute
          [0, 1, 0, 1, 1, 0, 0]).IsComplete ∧
        ((ofUnits bothOptions bothDeclared [declaring, repeating]).execute
          [0, 1, 0, 1, 1, 0, 0]).AgreesWith bothDeclared unitReports table := by
  obtain ⟨unitReports, table, processed, ofSchedules⟩ :=
    agrees_with_processUnits bothOptions bothDeclared [declaring, repeating]
  exact ⟨unitReports, table, processed, isComplete_both,
    (ofSchedules [0, 1, 0, 1, 1, 0, 0]).2 isComplete_both⟩

end Pool

end Annotations
