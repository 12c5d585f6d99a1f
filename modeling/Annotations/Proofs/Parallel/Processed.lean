import Annotations.Repository
import Annotations.Proofs.AdditionOrder
import Annotations.Proofs.Parallel.Analysis
import Annotations.Proofs.Separation

/-!
Contract: a run over units whose workers step in turn.

The turns decide two things only: which unit registers a path that several of them
declare, and which directive the record of a change names. Failures and symbols
follow from where paths are registered, ranges from the units alone. Two runs over
the same units are therefore compared by their sites.

Owns:

- `Run.HasProcessed`, what every schedule of the workers leads to;
- `analyzeUnits_eq`, the run as the replay of one batch, where the workers take the
  units in order;
- what two runs over the same units have in common.
-/

namespace Annotations

/-- A run has processed some units, whose declarations are in this table. Everything follows from
the sites of the table, but for the calls that the records of changes name. -/
structure Run.HasProcessed (run : Run) (options : RunOptions) (declared : SymbolTable)
    (units : List SourceUnit) : Prop where
  hasOptions : run.options = options
  hasUnits : run.units = units
  settled : run.pending = []
  hasDeclared : (SymbolTable.empty options.tracksChanges).HasDeclared units declared
  answers : ∀ path, run.table.get? path = (declared.applyAll (History.batchApplications
    options.catalog declared.site? units)).get? path
  recorded : ∃ records, SymbolTable.Records declared run.table records
  unitReports : run.unitReports = units.map (History.unitReport options declared.site?)
  ranges : run.report.asMapping = (Run.collect .empty run.unitReports).asMapping
  named : ∀ change ∈ run.changes, change.NamesCallOf units

/-! ## Processing -/

section Processing

variable {schedule : Schedule} {options : RunOptions} {units : List SourceUnit}

/-- A run to which units of their own identifiers are added, and then analysed. -/
theorem analyzeUnits_of_distinct (schedule : Schedule) (positive : 1 ≤ options.workers)
    (distinct : (units.map SourceUnit.unitId).Nodup) :
    (History.replay options ⟨[], units⟩).pendingUnits = units ∧
      analyzeUnits schedule options units =
        ((History.replay options ⟨[], units⟩).analyzeUnder schedule).map Prod.snd := by
  have isNew : ((History.units ⟨[], units⟩).map SourceUnit.unitId).Nodup := by
    simpa [History.units] using distinct
  have started : Run.start options = .ok (History.replay options ⟨[], []⟩) :=
    if_neg (Int.not_lt.2 positive)
  have added := History.addUnits_replay options ⟨[], []⟩ units
    (by simpa [History.units] using distinct)
  refine ⟨History.pendingUnits_replay options ⟨[], units⟩ isNew, ?_⟩
  unfold analyzeUnits
  rw [started]
  simp only [bind, Except.bind, added, List.nil_append]
  cases (History.replay options ⟨[], units⟩).analyzeUnder schedule <;> rfl

/-- Units with identifiers of their own are processed under every schedule. -/
theorem exists_analyzeUnits (schedule : Schedule) (positive : 1 ≤ options.workers)
    (distinct : (units.map SourceUnit.unitId).Nodup) :
    ∃ run, analyzeUnits schedule options units = .ok run ∧
      run.HasProcessed options (schedule.declared options.workers
        ⟨SymbolTable.empty options.tracksChanges, SuppressionReport.empty⟩ units) units := by
  obtain ⟨isPending, isAnalysis⟩ := analyzeUnits_of_distinct schedule positive distinct
  obtain ⟨reports, run, analysed, into⟩ :=
    (History.replay options ⟨[], units⟩).exists_analyzeUnder schedule
  rw [isPending] at into
  have sameReports : run.unitReports = reports := into.unitReports
  refine ⟨run, by rw [isAnalysis, analysed]; rfl, ?_⟩
  constructor
  case hasOptions => exact into.options
  case hasUnits => exact into.units
  case settled => exact into.pending
  case hasDeclared =>
    have hasDeclared := into.hasDeclared
    rwa [isPending] at hasDeclared
  case answers =>
    have answers := into.answers
    rwa [isPending] at answers
  case recorded => exact into.recorded
  case unitReports =>
    rw [sameReports, into.reported, isPending]
    rfl
  case ranges =>
    rw [sameReports]
    exact into.ranges
  case named =>
    have noChanges : (History.replay options ⟨[], units⟩).changes = [] :=
      SymbolTable.changes_empty options.tracksChanges
    intro change isChange
    have ofCall := (into.named change isChange).resolve_left (by simp [noChanges])
    rwa [isPending] at ofCall

/-- In order they are analysed as one batch. -/
theorem analyzeUnits_eq (inOrder : schedule = .inOrder ∨ options.workers = 1 ∨ units.length < 2)
    (positive : 1 ≤ options.workers) (distinct : (units.map SourceUnit.unitId).Nodup) :
    analyzeUnits schedule options units = .ok (History.replay options ⟨[units], []⟩) := by
  obtain ⟨isPending, isAnalysis⟩ := analyzeUnits_of_distinct schedule positive distinct
  have analysed := History.analyze_replay options ⟨[], units⟩
    (by simpa [History.IsDistinct, History.units] using distinct)
  rw [isAnalysis, Run.analyzeUnder_eq_analyze (by rw [isPending]; exact inOrder), analysed]
  rfl

end Processing

/-! ## Two runs over the same units -/

namespace Run.HasProcessed

variable {run other : Run} {options others : RunOptions} {declared otherwise : SymbolTable}
  {units : List SourceUnit}

theorem site?_eq (processed : run.HasProcessed options declared units) :
    run.table.site? = declared.site? := by
  rw [← declared.site?_applyAll]
  funext path
  exact congrArg (Option.map Symbol.site) (processed.answers path)

/-- A path that one unit alone declares is registered where it comes first in the units. -/
theorem site?_of_apart (processed : run.HasProcessed options declared units)
    (apart : DeclaredApart units) : run.table.site? = firstSite? units := by
  rw [processed.site?_eq]
  funext path
  cases sited : declared.site? path with
  | some site =>
      obtain ⟨unit, isUnit, first⟩ := processed.hasDeclared.exists_unit_of_site? sited
      have declares := isSome_firstSite?_iff.1 (Option.isSome_of_eq_some first)
      rw [firstSite?_of_apart apart isUnit declares, first]
  | none =>
      have notDeclared : ¬ Declares units path := by
        rw [← processed.hasDeclared.isSome_site?_iff, sited]
        exact Bool.false_ne_true
      rw [← isSome_firstSite?_iff] at notDeclared
      exact (Option.not_isSome_iff_eq_none.1 notDeclared).symm

variable (processed : run.HasProcessed options declared units)
  (otherProcessed : other.HasProcessed others otherwise units)

include processed otherProcessed

/-- The failures follow from the sites and the call names. -/
theorem diagnostics_eq (sameNames : options.catalog = others.catalog)
    (sameSites : run.table.site? = other.table.site?) : run.diagnostics = other.diagnostics := by
  rw [processed.site?_eq, otherProcessed.site?_eq] at sameSites
  apply diagnostics_congr
  rw [processed.unitReports, otherProcessed.unitReports, List.map_map, List.map_map]
  apply List.map_congr_left
  intro unit _
  simp only [Function.comp_apply, History.unitReport, sameNames, sameSites]

/-- The ranges follow from how markers are read. -/
theorem asMapping_eq (sameSwitch : options.suppressionsEnabled = others.suppressionsEnabled)
    (sameTracker : options.tracker = others.tracker) :
    run.report.asMapping = other.report.asMapping := by
  rw [processed.ranges, otherProcessed.ranges]
  apply SuppressionReport.asMapping_eq_of_perm
  rw [SuppressionReport.filed_collect, SuppressionReport.filed_collect, processed.unitReports,
    otherProcessed.unitReports, List.flatMap_map, List.flatMap_map]
  simp only [History.unitReport, History.unitSuppressions, sameSwitch, sameTracker, List.Perm.refl]

/-- The changed paths follow from the sites, the call names and the switch for records. -/
theorem mem_paths_changes_iff (sameNames : options.catalog = others.catalog)
    (sameSwitch : options.tracksChanges = others.tracksChanges)
    (sameSites : run.table.site? = other.table.site?) (path : Path) :
    path ∈ run.changes.map Change.path ↔ path ∈ other.changes.map Change.path := by
  rw [processed.site?_eq, otherProcessed.site?_eq] at sameSites
  have sameDeclared (path : Path) : declared.get? path = otherwise.get? path := by
    rw [processed.hasDeclared.get?_eq, otherProcessed.hasDeclared.get?_eq, sameSites]
  obtain ⟨records, recorded⟩ := processed.recorded
  obtain ⟨otherRecords, otherRecorded⟩ := otherProcessed.recorded
  refine SymbolTable.mem_paths_changes_iff_of_records recorded otherRecorded ?_ sameDeclared ?_ path
  · rw [processed.hasDeclared.logged, otherProcessed.hasDeclared.logged, sameSwitch]
  · intro path
    rw [processed.answers, otherProcessed.answers, SymbolTable.get?_applyAll,
      SymbolTable.get?_applyAll, sameDeclared, sameSites, sameNames]

end Run.HasProcessed

end Annotations
