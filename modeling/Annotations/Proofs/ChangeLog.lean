import Annotations.Proofs.Declaration
import Annotations.Proofs.Order
import Annotations.Proofs.Sorting

/-!
Contract: the record of visibility changes beside the table it is about.

Making paths private changes exactly those symbols that were not private before,
and a log that is kept gains exactly one record for each of them. So what is
recorded can be read off the symbols before and after, without the order in which
paths were made private.

Owns:

- `SymbolTable.MakesPrivate`, what making some paths private does to the symbols;
- `SymbolTable.recordsOf`, the records that applications leave, each that of the
  first application to its path;
- `SymbolTable.Records`, that a log gained one record for each changed symbol;
- that records do not depend on the order of applications to different paths, and
  that applications made again change nothing;
- that a listing of symbols depends on what each path answers alone.
-/

namespace Annotations

namespace Registry

/-- Two registries that answer every path alike list the same symbols. -/
theorem symbols_eq_of_get?_eq {left right : Registry}
    (alike : ∀ path, left.get? path = right.get? path) : left.symbols = right.symbols := by
  have sameEntries : left.entries.Perm right.entries := by
    rw [List.perm_ext_iff_of_nodup (left.distinct.of_map Symbol.path)
      (right.distinct.of_map Symbol.path)]
    intro symbol
    have inLeft : left.get? symbol.path = some symbol ↔ symbol ∈ left.entries ∧ _ :=
      get?_eq_some_iff
    have inRight : right.get? symbol.path = some symbol ↔ symbol ∈ right.entries ∧ _ :=
      get?_eq_some_iff
    rw [alike] at inLeft
    simpa using inLeft.symm.trans inRight
  exact mergeSort_eq_of_perm Symbol.path sameEntries fun first isFirst second isSecond samePath =>
    List.inj_on_of_nodup_map left.distinct isFirst isSecond samePath

end Registry

namespace SymbolTable

theorem symbols_eq_of_get?_eq {left right : SymbolTable}
    (alike : ∀ path, left.get? path = right.get? path) : left.symbols = right.symbols :=
  Registry.symbols_eq_of_get?_eq alike

/-! ## Declarations record nothing -/

theorem log?_declareAll (table : SymbolTable) (declarations : List Declaration) (unitId : UnitId) :
    (table.declareAll declarations unitId).log? = table.log? := by
  induction declarations generalizing table with
  | nil => rfl
  | cons declaration rest inductionHypothesis =>
      exact inductionHypothesis (table.declare declaration unitId).2

theorem log?_declareUnits (table : SymbolTable) (units : List SourceUnit) :
    (Run.declareUnits table units).log? = table.log? := by
  induction units generalizing table with
  | nil => rfl
  | cons unit rest inductionHypothesis =>
      exact (inductionHypothesis (table.declareAll unit.declarations unit.unitId)).trans
        (log?_declareAll table unit.declarations unit.unitId)

/-! ## Symbols that change -/

/-- The symbols of some paths are made private, and nothing else is changed. -/
def MakesPrivate (before after : SymbolTable) (paths : List Path) : Prop :=
  ∀ path, after.get? path = (before.get? path).map fun symbol =>
    if path ∈ paths then { symbol with visibility := .isPrivate } else symbol

/-- A symbol is registered under the path, and is not private yet. -/
def Open (table : SymbolTable) (path : Path) : Prop :=
  ∃ symbol, table.get? path = some symbol ∧ symbol.visibility ≠ .isPrivate

def Differs (before after : SymbolTable) (path : Path) : Prop :=
  ∃ old new, before.get? path = some old ∧ after.get? path = some new ∧
    old.visibility ≠ new.visibility

theorem makesPrivate_applyAll (table : SymbolTable) (applications : List Application) :
    MakesPrivate table (table.applyAll applications) (applications.map Application.path) :=
  table.get?_applyAll applications

/-- Making paths private changes those of them that are still open. -/
theorem MakesPrivate.differs_iff {before after : SymbolTable} {paths : List Path}
    (makes : MakesPrivate before after paths) {path : Path} :
    Differs before after path ↔ path ∈ paths ∧ before.Open path := by
  unfold Differs Open
  rw [makes path]
  cases before.get? path with
  | none => simp
  | some symbol =>
      by_cases made : path ∈ paths
      · simp [made]
      · simp [made]

/-- A symbol made private is no longer open. -/
theorem MakesPrivate.open_iff {before after : SymbolTable} {paths : List Path}
    (makes : MakesPrivate before after paths) {path : Path} :
    after.Open path ↔ path ∉ paths ∧ before.Open path := by
  unfold Open
  rw [makes path]
  cases before.get? path with
  | none => simp
  | some symbol =>
      by_cases made : path ∈ paths
      · simp [made]
      · simp [made]

theorem MakesPrivate.trans {before middle after : SymbolTable} {first second : List Path}
    (makes : MakesPrivate before middle first) (makesMore : MakesPrivate middle after second) :
    MakesPrivate before after (first ++ second) := by
  intro path
  rw [makesMore path, makes path, Option.map_map]
  congr 1
  funext symbol
  by_cases inFirst : path ∈ first <;> by_cases inSecond : path ∈ second <;>
    simp [inFirst, inSecond]

theorem MakesPrivate.site?_eq {before after : SymbolTable} {paths : List Path}
    (makes : MakesPrivate before after paths) : after.site? = before.site? := by
  funext path
  unfold site?
  rw [makes path, Option.map_map]
  congr 1
  funext symbol
  by_cases made : path ∈ paths
  · simp [made, Symbol.site]
  · simp [made]

/-- Only which paths are made private matters. -/
theorem MakesPrivate.get?_eq {before after after' : SymbolTable} {paths paths' : List Path}
    (makes : MakesPrivate before after paths) (makes' : MakesPrivate before after' paths')
    (samePaths : ∀ path, path ∈ paths ↔ path ∈ paths') (path : Path) :
    after.get? path = after'.get? path := by
  rw [makes path, makes' path]
  simp only [samePaths]

theorem open_apply_iff {table : SymbolTable} {application : Application} {path : Path} :
    (table.apply application).Open path ↔ path ≠ application.path ∧ table.Open path := by
  have makes : MakesPrivate table (table.apply application) [application.path] :=
    makesPrivate_applyAll table [application]
  rw [makes.open_iff, List.mem_singleton]

/-! ## Records -/

/-- The record of an application: none, if it changes nothing. -/
def record? (table : SymbolTable) (application : Application) : Option Change :=
  ((table.get? application.path).filter fun symbol => symbol.visibility ≠ .isPrivate).map
    fun symbol =>
      ⟨application.path, symbol.visibility, .isPrivate, application.unitId, application.line⟩

theorem log?_apply (table : SymbolTable) (application : Application) :
    (table.apply application).log? =
      table.log?.map (· ++ (table.record? application).toList) := by
  unfold apply setVisibility Registry.setVisibility record? get?
  cases table.registry.get? application.path with
  | none => simp [bind, Except.bind]
  | some symbol =>
      by_cases isPrivate : symbol.visibility = .isPrivate
      · simp [isPrivate, bind, Except.bind, Option.filter_some]
      · simp [isPrivate, bind, Except.bind, Option.filter_some]

theorem mem_record?_iff {table : SymbolTable} {application : Application} {path : Path} :
    path ∈ (table.record? application).toList.map Change.path ↔
      path = application.path ∧ table.Open path := by
  unfold record? Open
  by_cases same : path = application.path
  · subst same
    cases table.get? application.path with
    | none => simp
    | some symbol => by_cases isPrivate : symbol.visibility = .isPrivate <;> simp [isPrivate]
  · cases table.get? application.path with
    | none => simp [same]
    | some symbol =>
        by_cases isPrivate : symbol.visibility = .isPrivate <;> simp [isPrivate, Ne.symm same, same]

/-- Between two tables a log that is kept gained these records: one for each symbol whose visibility
differs, and no other. -/
structure Records (before after : SymbolTable) (records : List Change) : Prop where
  logged : after.log? = before.log?.map (· ++ records)
  once : (records.map Change.path).Nodup
  effective : ∀ path, path ∈ records.map Change.path ↔ Differs before after path

def recordsOf (table : SymbolTable) : List Application → List Change
  | [] => []
  | application :: rest =>
      (table.record? application).toList ++ (table.apply application).recordsOf rest

theorem log?_applyAll (table : SymbolTable) (applications : List Application) :
    (table.applyAll applications).log? =
      table.log?.map (· ++ table.recordsOf applications) := by
  induction applications generalizing table with
  | nil => simp [applyAll, recordsOf]
  | cons application rest inductionHypothesis =>
      change ((table.apply application).applyAll rest).log? = _
      rw [inductionHypothesis, log?_apply, Option.map_map]
      simp only [Function.comp_def, List.append_assoc, recordsOf]

/-- Recorded are the paths of applications that were open. -/
theorem mem_paths_recordsOf_iff {table : SymbolTable} {applications : List Application}
    {path : Path} :
    path ∈ (table.recordsOf applications).map Change.path ↔
      path ∈ applications.map Application.path ∧ table.Open path := by
  induction applications generalizing table with
  | nil => simp [recordsOf]
  | cons application rest inductionHypothesis =>
      rw [recordsOf, List.map_append, List.mem_append, mem_record?_iff, inductionHypothesis,
        open_apply_iff, List.map_cons, List.mem_cons]
      by_cases same : path = application.path
      · simp [same]
      · simp [same]

theorem nodup_paths_recordsOf (table : SymbolTable) (applications : List Application) :
    ((table.recordsOf applications).map Change.path).Nodup := by
  induction applications generalizing table with
  | nil => exact List.nodup_nil
  | cons application rest inductionHypothesis =>
      -- A path recorded now is private from here on, so no later record is about it.
      rw [recordsOf, List.map_append, List.nodup_append]
      refine ⟨by cases table.record? application <;> simp, inductionHypothesis _, ?_⟩
      rintro path isNow _ isLater rfl
      obtain ⟨samePath, -⟩ := mem_record?_iff.1 isNow
      obtain ⟨-, stillOpen⟩ := mem_paths_recordsOf_iff.1 isLater
      exact (open_apply_iff.1 stillOpen).1 samePath

/-- What an application records depends on the symbol of its own path alone. -/
theorem record?_congr {table other : SymbolTable} {application : Application}
    (alike : table.get? application.path = other.get? application.path) :
    table.record? application = other.record? application := by
  unfold record?
  rw [alike]

/-- The record of an application to a symbol that is not private yet. -/
theorem record?_eq_some_iff {table : SymbolTable} {application : Application} {change : Change} :
    table.record? application = some change ↔
      ∃ symbol, table.get? application.path = some symbol ∧ symbol.visibility ≠ .isPrivate ∧
        change = ⟨application.path, symbol.visibility, .isPrivate, application.unitId,
          application.line⟩ := by
  unfold record?
  rw [Option.map_eq_some_iff]
  simp only [Option.filter_eq_some_iff, decide_eq_true_eq, and_assoc]
  simp only [eq_comm (b := change)]

theorem path_of_record? {table : SymbolTable} {application : Application} {change : Change}
    (recorded : table.record? application = some change) : change.path = application.path := by
  obtain ⟨symbol, -, -, rfl⟩ := record?_eq_some_iff.1 recorded
  rfl

/-- A record is that of the first application to its path. -/
theorem first_of_mem_recordsOf {table : SymbolTable} {applications : List Application}
    {change : Change} (isRecord : change ∈ table.recordsOf applications) :
    ∃ application,
      (applications.find? fun other => decide (other.path = change.path)) = some application ∧
        table.record? application = some change := by
  induction applications generalizing table with
  | nil => contradiction
  | cons application rest inductionHypothesis =>
      rw [recordsOf, List.mem_append, Option.mem_toList] at isRecord
      rcases isRecord with now | later
      · have samePath := path_of_record? now
        exact ⟨application, by simp [samePath], now⟩
      · -- The path is still open after this application, so the application is not to it.
        have recordedLater := List.mem_map_of_mem (f := Change.path) later
        obtain ⟨-, stillOpen⟩ := mem_paths_recordsOf_iff.1 recordedLater
        have different := (open_apply_iff.1 stillOpen).1
        obtain ⟨first, found, recorded⟩ := inductionHypothesis later
        refine ⟨first, ?_, ?_⟩
        · simpa [Ne.symm different] using found
        · have samePath := path_of_record? recorded
          rw [← recorded]
          apply record?_congr
          rw [get?_apply, ← samePath]
          simp [different]

/-- Recorded is, of each path that was open, the first application to it. -/
theorem mem_recordsOf_iff {table : SymbolTable} {applications : List Application}
    {change : Change} :
    change ∈ table.recordsOf applications ↔ ∃ application,
      (applications.find? fun other => decide (other.path = change.path)) = some application ∧
        table.record? application = some change := by
  constructor
  · exact first_of_mem_recordsOf
  · rintro ⟨application, first, recorded⟩
    have isApplied : change.path ∈ applications.map Application.path := by
      rw [path_of_record? recorded]
      exact List.mem_map_of_mem (List.mem_of_find?_eq_some first)
    have isOpen : table.Open change.path := by
      obtain ⟨symbol, registered, notPrivate, rfl⟩ := record?_eq_some_iff.1 recorded
      exact ⟨symbol, registered, notPrivate⟩
    -- Some record is of this path, and so it is the record of the same application.
    obtain ⟨other, isRecord, samePath⟩ :=
      List.mem_map.1 (mem_paths_recordsOf_iff.2 ⟨isApplied, isOpen⟩)
    obtain ⟨_, otherFirst, otherRecorded⟩ := first_of_mem_recordsOf isRecord
    rw [samePath, first] at otherFirst
    obtain rfl := Option.some.inj otherFirst
    obtain rfl := Option.some.inj (recorded.symm.trans otherRecorded)
    exact isRecord

/-- Applications in another order leave the same records, if those to each path keep theirs. -/
theorem recordsOf_perm {table : SymbolTable} {applications others : List Application}
    (reordered : IsReordering Application.path applications others) :
    (table.recordsOf applications).Perm (table.recordsOf others) := by
  rw [List.perm_ext_iff_of_nodup ((nodup_paths_recordsOf table applications).of_map Change.path)
    ((nodup_paths_recordsOf table others).of_map Change.path)]
  intro change
  rw [mem_recordsOf_iff, mem_recordsOf_iff, ← List.head?_filter, ← List.head?_filter,
    reordered.kept]

theorem changes_applyAll_of_isReordering (table : SymbolTable)
    {applications others : List Application}
    (reordered : IsReordering Application.path applications others) :
    (table.applyAll applications).changes = (table.applyAll others).changes := by
  unfold changes
  rw [log?_applyAll, log?_applyAll]
  cases table.log? with
  | none => rfl
  | some log =>
      -- A path has one new record, which comes after those it had, so ties are listed alike.
      have newRecords : IsReordering Change.path (table.recordsOf applications)
          (table.recordsOf others) :=
        isReordering_of_pairwise (recordsOf_perm reordered)
          (List.pairwise_map.1 (nodup_paths_recordsOf table applications))
          (List.pairwise_map.1 (nodup_paths_recordsOf table others))
          fun _ _ _ _ samePath different => absurd samePath different
      have sorted := isStableSort_mergeSort Change.compareBySite
        (log ++ table.recordsOf applications)
      exact (sorted.of_isReordering
        (fun _ _ alike => (Change.path_eq_of_compareBySite alike).symm)
        (newRecords.append_left log)).unique (isStableSort_mergeSort _ _)

/-- Applications that were made already change nothing when they are made again. -/
theorem applyAll_applyAll (table : SymbolTable) (applications : List Application) :
    (table.applyAll applications).applyAll applications = table.applyAll applications := by
  have sameRegistry : ((table.applyAll applications).applyAll applications).registry =
      (table.applyAll applications).registry := by
    rw [← applyAll_append]
    exact registry_applyAll_congr table (by simp)
  have noRecords : (table.applyAll applications).recordsOf applications = [] := by
    rw [← List.map_eq_nil_iff (f := Change.path), List.eq_nil_iff_forall_not_mem]
    intro path isRecorded
    obtain ⟨isApplied, stillOpen⟩ := mem_paths_recordsOf_iff.1 isRecorded
    exact ((makesPrivate_applyAll table applications).open_iff.1 stillOpen).1 isApplied
  have sameLog := (table.applyAll applications).log?_applyAll applications
  rw [noRecords] at sameLog
  simp only [List.append_nil, Option.map_id'] at sameLog
  exact eq_of_parts_eq sameRegistry sameLog

/-- Applications record each symbol they change, and record it once. -/
theorem exists_records_applyAll (table : SymbolTable) (applications : List Application) :
    ∃ records, Records table (table.applyAll applications) records := by
  refine ⟨table.recordsOf applications, table.log?_applyAll applications,
    nodup_paths_recordsOf table applications, ?_⟩
  intro path
  rw [mem_paths_recordsOf_iff, (makesPrivate_applyAll table applications).differs_iff]

/-- The recorded paths of a table. -/
theorem mem_paths_changes_iff {table : SymbolTable} {path : Path} :
    path ∈ table.changes.map Change.path ↔
      path ∈ (table.log?.getD []).map Change.path := by
  unfold changes
  exact ((List.mergeSort_perm _ _).map Change.path).mem_iff

/-- What is recorded afterwards depends on what was recorded before and on the symbols alone. -/
theorem mem_paths_changes_iff_of_records {before after before' after' : SymbolTable}
    {records records' : List Change} (recorded : Records before after records)
    (recorded' : Records before' after' records') (sameLog : before.log? = before'.log?)
    (sameBefore : ∀ path, before.get? path = before'.get? path)
    (sameAfter : ∀ path, after.get? path = after'.get? path) (path : Path) :
    path ∈ after.changes.map Change.path ↔ path ∈ after'.changes.map Change.path := by
  have sameDifference : Differs before after path ↔ Differs before' after' path := by
    unfold Differs
    rw [sameBefore, sameAfter]
  rw [mem_paths_changes_iff, mem_paths_changes_iff, recorded.logged, recorded'.logged, sameLog]
  cases before'.log? with
  | none => rfl
  | some log =>
      simp only [Option.map_some, Option.getD_some, List.map_append, List.mem_append,
        recorded.effective, recorded'.effective, sameDifference]

end SymbolTable

end Annotations
