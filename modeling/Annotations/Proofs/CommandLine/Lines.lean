import Annotations.Payload
import Annotations.Proofs.Invariant
import Annotations.Proofs.Repository
import Annotations.Proofs.Source.Placement

/-!
Contract: the line numbers in the results of a run are numbers that JSON can
carry.

Every line that a run reports is one of a call or of a range, and stands inside
its unit. A file holds at least one octet for each of its lines but the last. So
the lines of files whose sizes are machine integers are machine integers.

Owns:
- `SourceUnit.lineCount_read_le`, the lines of a file by its size;
- `Run.LinesFit` and `Run.HasProcessed.linesFit`.
-/

namespace Annotations

/-! ## Lines by octets -/

theorem Text.Utf8.length_pieces_le (octets : List UInt8) :
    (pieces octets).length ≤ octets.length := by
  induction octets using pieces.induct with
  | case1 => simp [pieces]
  | case2 octet rest piece used first inductionHypothesis =>
      rw [pieces, first, List.length_cons, List.length_cons]
      rw [List.length_drop] at inductionHypothesis
      omega

theorem Source.countLines_le (source : List Char) : countLines source ≤ source.length + 1 := by
  have breaks := source.count_le_length (a := '\n')
  unfold countLines
  dsimp only
  split <;> omega

/-- A source has at most one line more than octets. -/
theorem SourceUnit.lineCount_read_le (octets : List UInt8) (unitId : UnitId) (moduleName : String) :
    (SourceUnit.read octets unitId moduleName).lineCount ≤ octets.length + 1 := by
  have lines := Source.countLines_le (Text.Utf8.decodeReplacing octets)
  have pieces := Text.Utf8.length_pieces_le octets
  rw [Text.Utf8.decodeReplacing, List.length_map] at lines
  change (Source.countLines (Text.Utf8.decodeReplacing octets) : Int) ≤ _
  unfold Text.Utf8.decodeReplacing
  omega

/-! ## Results -/

/-- The unit is well placed, and its lines are signed machine integers. -/
structure SourceUnit.IsMeasured (unit : SourceUnit) : Prop where
  wellPlaced : unit.IsWellPlaced
  lineCount : unit.lineCount ≤ 0x8000000000000000

theorem SourceUnit.isMeasured_read {octets : List UInt8} (size : octets.length < 0x8000000000000000)
    (unitId : UnitId) (moduleName : String) :
    (SourceUnit.read octets unitId moduleName).IsMeasured where
  wellPlaced := isWellPlaced_ofTree (Source.isTreeOf_moduleNode _) unitId moduleName
  lineCount := by
    have lines := lineCount_read_le octets unitId moduleName
    omega

/-- The line can be written as JSON if it is one of a unit. -/
theorem SourceUnit.IsMeasured.fits {unit : SourceUnit} (measured : unit.IsMeasured) {line : Line}
    (inside : 1 ≤ line ∧ line ≤ unit.lineCount) : fitsSixtyFourBits line = true := by
  have first : (1 : Int) ≤ line := inside.1
  have last := Int.le_trans inside.2 measured.lineCount
  unfold fitsSixtyFourBits
  simp only [Bool.and_eq_true, decide_eq_true_eq]
  omega

structure Run.LinesFit (run : Run) : Prop where
  diagnostics : ∀ failure ∈ run.diagnostics, fitsSixtyFourBits failure.line = true
  report : ∀ group ∈ run.report.asMapping, ∀ entry ∈ group.2,
    fitsSixtyFourBits entry.range.startLine = true ∧ fitsSixtyFourBits entry.range.endLine = true
  changes : ∀ change ∈ run.changes, fitsSixtyFourBits change.line = true

namespace Run.HasProcessed

variable {run : Run} {options : RunOptions} {declared : SymbolTable} {units : List SourceUnit}

/-- A failure stands on the line of a call of a processed unit. -/
theorem exists_call_of_mem_diagnostics (processed : run.HasProcessed options declared units)
    {failure : Failure} (isFailure : failure ∈ run.diagnostics) :
    ∃ unit ∈ units, ∃ call ∈ unit.calls, failure.line = call.line := by
  obtain ⟨report, isReport, isFailure⟩ := mem_diagnostics_iff.1 isFailure
  rw [processed.unitReports] at isReport
  obtain ⟨unit, isUnit, rfl⟩ := List.mem_map.1 isReport
  obtain ⟨call, isCall, failed⟩ := List.mem_filterMap.1 isFailure
  exact ⟨unit, isUnit, call, (mem_sortByLine Call.line).1 isCall,
    (Resolver.located_of_failure? failed).2⟩

/-- An entry of the report is a range of a processed unit. -/
theorem exists_range_of_mem_report (processed : run.HasProcessed options declared units)
    {group : String × List ReportEntry} {entry : ReportEntry}
    (isGroup : group ∈ run.report.asMapping) (isEntry : entry ∈ group.2) :
    ∃ unit ∈ units, ∃ ranges ∈ History.unitSuppressions options unit, entry.range ∈ ranges.2 := by
  rw [processed.ranges] at isGroup
  rw [items_of_mem_groupByRule isGroup, List.mem_mergeSort] at isEntry
  obtain ⟨filed, isFiled, rfl⟩ := List.mem_map.1 isEntry
  have isFiled := (List.mem_filter.1 isFiled).1
  rw [SuppressionReport.filed_collect, processed.unitReports] at isFiled
  obtain ⟨report, isReport, isLocated⟩ := List.mem_flatMap.1 isFiled
  obtain ⟨unit, isUnit, rfl⟩ := List.mem_map.1 isReport
  obtain ⟨⟨rule, range⟩, isUnfiled, rfl⟩ := List.mem_map.1 isLocated
  obtain ⟨⟨other, ranges⟩, isRanges, ofRule⟩ := List.mem_flatMap.1 isUnfiled
  obtain ⟨_, isRange, same⟩ := List.mem_map.1 ofRule
  obtain ⟨-, rfl⟩ := Prod.mk.inj same
  exact ⟨unit, isUnit, (other, ranges), isRanges, isRange⟩

/-- The results of a run over measured units have lines that fit. -/
theorem linesFit (processed : run.HasProcessed options declared units)
    (measured : ∀ unit ∈ units, unit.IsMeasured) : run.LinesFit where
  diagnostics := by
    intro failure isFailure
    obtain ⟨unit, isUnit, call, isCall, onLine⟩ :=
      processed.exists_call_of_mem_diagnostics isFailure
    rw [onLine]
    exact (measured unit isUnit).fits ((measured unit isUnit).wellPlaced.calls call isCall)
  report := by
    intro group isGroup entry isEntry
    obtain ⟨unit, isUnit, ranges, isRanges, isRange⟩ :=
      processed.exists_range_of_mem_report isGroup isEntry
    have enabled : options.suppressionsEnabled = true := by
      cases tracked : options.suppressionsEnabled with
      | true => rfl
      | false => simp [History.unitSuppressions, tracked] at isRanges
    obtain ⟨tracked, succeeded, areApart⟩ :=
      (measured unit isUnit).wellPlaced.tracked options.tracker
    rw [History.processUnit_eq_unitSuppressions enabled] at succeeded
    obtain rfl := Except.ok.inj succeeded
    obtain ⟨⟨startsInside, startsFirst⟩, endsInside⟩ :=
      areApart.proper ranges isRanges entry.range isRange
    exact ⟨(measured unit isUnit).fits ⟨startsInside, Int.le_trans startsFirst endsInside⟩,
      (measured unit isUnit).fits ⟨Int.le_trans startsInside startsFirst, endsInside⟩⟩
  changes := by
    intro change isChange
    obtain ⟨unit, isUnit, call, isCall, -, onLine⟩ := processed.named change isChange
    rw [onLine]
    exact (measured unit isUnit).fits ((measured unit isUnit).wellPlaced.calls call isCall)

end Run.HasProcessed

end Annotations
