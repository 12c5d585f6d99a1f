import Annotations.Proofs.Invariant
import Annotations.Proofs.Visibility

/-!
Contract: runs that were given the same units in another order.

A directive sees where a path was first declared. Where no path is declared by
two units, that place does not depend on the order of the units, so neither does
any outcome: the same arguments are applied and the same errors found. What is
left of the order are the positions of results, and all results are listed
sorted. Both runs process their units in the order of addition: the number of
workers is an option that no step reads here.

Owns:

- `Run.AgreesWith`, that two runs show the same results;
- `History.agrees_of_permuted`, that the order of addition does not matter.
-/

namespace Annotations

/-- Two runs show the same results. Records of changes may name different directives, but are about
the same paths. -/
structure Run.AgreesWith (run other : Run) : Prop where
  symbols : run.symbols = other.symbols
  unitReports : run.sortedUnitReports = other.sortedUnitReports
  diagnostics : run.diagnostics = other.diagnostics
  suppressions : ∃ mapping, (run.perform .suppressions).1 = .ok (.suppressions mapping) ∧
    (other.perform .suppressions).1 = .ok (.suppressions mapping)
  changedPaths : ∀ path, path ∈ run.changes.map Change.path ↔
    path ∈ other.changes.map Change.path

/-- No path is declared by two of the units. -/
def DeclaredApart (units : List SourceUnit) : Prop :=
  ∀ first ∈ units, ∀ second ∈ units, ∀ path,
    Declares [first] path → Declares [second] path → first = second

/-! ## First declarations -/

theorem firstSite?_cons_of_declares {unit : SourceUnit} {path : Path}
    (declares : Declares [unit] path) (rest : List SourceUnit) :
    firstSite? (unit :: rest) path = firstSite? [unit] path := by
  obtain ⟨site, found⟩ := Option.isSome_iff_exists.1 (isSome_firstSite?_iff.2 declares)
  rw [found]
  exact firstSite?_append_of_some found rest

theorem firstSite?_cons_of_not_declares {unit : SourceUnit} {path : Path}
    (notDeclares : ¬ Declares [unit] path) (rest : List SourceUnit) :
    firstSite? (unit :: rest) path = firstSite? rest path := by
  have absent : firstSite? [unit] path = none := by
    rw [← isSome_firstSite?_iff] at notDeclares
    simpa using notDeclares
  rw [← List.singleton_append, firstSite?_append, absent, Option.none_or]

/-- A path that one unit alone declares is first declared there, whatever units stand before it. -/
theorem firstSite?_of_apart {units : List SourceUnit} {unit : SourceUnit} {path : Path}
    (apart : DeclaredApart units) (isUnit : unit ∈ units) (declares : Declares [unit] path) :
    firstSite? units path = firstSite? [unit] path := by
  induction units with
  | nil => contradiction
  | cons head rest inductionHypothesis =>
      by_cases headDeclares : Declares [head] path
      · have sameUnit : head = unit :=
          apart head (List.mem_cons_self ..) unit isUnit path headDeclares declares
        rw [firstSite?_cons_of_declares headDeclares, sameUnit]
      · have inRest : unit ∈ rest := by
          rcases List.mem_cons.1 isUnit with rfl | inRest
          · exact absurd declares headDeclares
          · exact inRest
        have apartRest : DeclaredApart rest := fun first isFirst second isSecond =>
          apart first (List.mem_cons_of_mem head isFirst) second
            (List.mem_cons_of_mem head isSecond)
        rw [firstSite?_cons_of_not_declares headDeclares]
        exact inductionHypothesis apartRest inRest

theorem DeclaredApart.of_perm {units reordered : List SourceUnit} (apart : DeclaredApart units)
    (permuted : units.Perm reordered) : DeclaredApart reordered := by
  intro first isFirst second isSecond
  exact apart first (permuted.mem_iff.2 isFirst) second (permuted.mem_iff.2 isSecond)

theorem firstSite?_of_perm {units reordered : List SourceUnit} (apart : DeclaredApart units)
    (permuted : units.Perm reordered) : firstSite? units = firstSite? reordered := by
  funext path
  by_cases declared : Declares units path
  · obtain ⟨unit, isUnit, declaration, isDeclaration, ofPath⟩ := declared
    have declares : Declares [unit] path :=
      ⟨unit, List.mem_singleton.2 rfl, declaration, isDeclaration, ofPath⟩
    rw [firstSite?_of_apart apart isUnit declares,
      firstSite?_of_apart (apart.of_perm permuted) (permuted.mem_iff.1 isUnit) declares]
  · have notDeclared : ¬ Declares reordered path := by
      intro declaredAfter
      obtain ⟨unit, isUnit, declaration, isDeclaration, ofPath⟩ := declaredAfter
      exact declared ⟨unit, permuted.mem_iff.2 isUnit, declaration, isDeclaration, ofPath⟩
    rw [← isSome_firstSite?_iff] at declared notDeclared
    rw [Option.not_isSome_iff_eq_none.1 declared, Option.not_isSome_iff_eq_none.1 notDeclared]

namespace History

/-! ## One batch in two orders -/

section Permuted

variable {options : RunOptions} {units reordered : List SourceUnit}

theorem appliedIn_singleton {catalog : Catalog} {path : Path} :
    AppliedIn catalog [units] path ↔
      path ∈ (batchApplications catalog (firstSite? units) units).map Application.path := by
  have noneEarlier : ¬ AppliedIn catalog [] path := by
    rintro ⟨entry, isEntry, -⟩
    contradiction
  rw [← List.nil_append [units], appliedIn_append_singleton]
  simp [noneEarlier]

theorem get?_tableAfter_of_perm (apart : DeclaredApart units) (permuted : units.Perm reordered)
    (path : Path) :
    (tableAfter options [units]).get? path = (tableAfter options [reordered]).get? path := by
  have sameSites := firstSite?_of_perm apart permuted
  refine get?_tableAfter_eq ?_ ?_ path
  · rw [List.flatten_singleton, List.flatten_singleton, sameSites]
  · intro path
    rw [appliedIn_singleton, appliedIn_singleton, ← sameSites]
    exact ((permuted.flatMap_right _).map Application.path).mem_iff

theorem reportsAfter_singleton (options : RunOptions) (units : List SourceUnit) :
    reportsAfter options [units] = units.map (unitReport options (firstSite? units)) := by
  rw [← List.nil_append [units], reportsAfter_append_singleton]
  rfl

theorem sortedUnitReports_of_perm (distinct : (units.map SourceUnit.unitId).Nodup)
    (apart : DeclaredApart units) (permuted : units.Perm reordered) :
    (replay options ⟨[units], []⟩).sortedUnitReports =
      (replay options ⟨[reordered], []⟩).sortedUnitReports := by
  have reportsPermuted :
      (reportsAfter options [units]).Perm (reportsAfter options [reordered]) := by
    rw [reportsAfter_singleton, reportsAfter_singleton, ← firstSite?_of_perm apart permuted]
    exact permuted.map _
  apply mergeSort_eq_of_perm UnitReport.unitId reportsPermuted
  intro first isFirst second isSecond sameId
  have distinctReports : ((reportsAfter options [units]).map UnitReport.unitId).Nodup := by
    rw [unitIds_reportsAfter, List.flatten_singleton]
    exact distinct
  exact List.inj_on_of_nodup_map distinctReports isFirst isSecond sameId

theorem changedPaths_of_perm (apart : DeclaredApart units) (permuted : units.Perm reordered)
    (path : Path) :
    path ∈ (tableAfter options [units]).changes.map Change.path ↔
      path ∈ (tableAfter options [reordered]).changes.map Change.path := by
  have recorded := fun batch => SymbolTable.exists_records_applyAll
    (Run.declareUnits (SymbolTable.empty options.tracksChanges) batch)
    (batchApplications options.catalog
      (Run.declareUnits (SymbolTable.empty options.tracksChanges) batch).site? batch)
  obtain ⟨records, ofUnits⟩ := recorded units
  obtain ⟨otherRecords, ofReordered⟩ := recorded reordered
  refine SymbolTable.mem_paths_changes_iff_of_records ofUnits ofReordered ?_ ?_
    (get?_tableAfter_of_perm apart permuted) path
  · rw [SymbolTable.log?_declareUnits, SymbolTable.log?_declareUnits]
  · intro declaredPath
    rw [Run.get?_declareUnits, Run.get?_declareUnits, firstSite?_of_perm apart permuted]

end Permuted

/-- Units with distinct identifiers may be added in any order, as long as no path is declared by two
of them: the analysis shows the same results. -/
theorem agrees_of_permuted (options : RunOptions) {units reordered : List SourceUnit}
    (distinct : (units.map SourceUnit.unitId).Nodup) (apart : DeclaredApart units)
    (permuted : units.Perm reordered) :
    ∃ answers run otherAnswers other,
      (Run.fresh options).performAll [.addMany units, .analyze] = (answers, run) ∧
        (Run.fresh options).performAll [.addMany reordered, .analyze] = (otherAnswers, other) ∧
        (∀ answer ∈ answers ++ otherAnswers, ∃ value, answer = .ok value) ∧
        run.AgreesWith other := by
  have distinctReordered : (reordered.map SourceUnit.unitId).Nodup :=
    (permuted.map SourceUnit.unitId).nodup_iff.1 distinct
  obtain ⟨answers, performed, answered⟩ := performAll_batches options [units] (by simpa)
  obtain ⟨otherAnswers, otherPerformed, otherAnswered⟩ :=
    performAll_batches options [reordered] (by simpa)
  refine ⟨answers, _, otherAnswers, _, performed, otherPerformed,
    List.forall_mem_append.2 ⟨answered, otherAnswered⟩, ?_⟩
  have sameReports : (replay options ⟨[units], []⟩).sortedUnitReports =
      (replay options ⟨[reordered], []⟩).sortedUnitReports :=
    sortedUnitReports_of_perm distinct apart permuted
  constructor
  case symbols => exact SymbolTable.symbols_eq_of_get?_eq (get?_tableAfter_of_perm apart permuted)
  case unitReports => exact sameReports
  case diagnostics =>
    unfold Run.diagnostics
    rw [sameReports]
  case suppressions =>
    exact exists_suppressions_of_perm options (by simpa) (by simpa using permuted)
  case changedPaths => exact changedPaths_of_perm apart permuted

private def declaresLimit : SourceUnit where
  unitId := "a.py"
  lineCount := 4
  declarations := [⟨["lib"], "LIMIT", .constant, 4⟩]
  calls := []
  comments := []
  scope := ["lib"]

/-- A unit with a directive on the constant of the other, and one on a path declared nowhere. -/
private def hidesLimit : SourceUnit where
  unitId := "b.py"
  lineCount := 2
  declarations := [⟨["lib"], "run", .instanceMethod, 2⟩]
  calls := [⟨["lib"], "private_constant", 1, [⟨.identifier, "LIMIT", some (.text "LIMIT")⟩,
    ⟨.identifier, "OTHER", some (.text "OTHER")⟩]⟩]
  comments := []
  scope := ["lib"]

/-- The directive may be added before or after the unit that declares what it names. -/
theorem directive_before_or_after_its_target :
    (([declaresLimit, hidesLimit]).map SourceUnit.unitId).Nodup ∧
      DeclaredApart [declaresLimit, hidesLimit] ∧
      [declaresLimit, hidesLimit].Perm [hidesLimit, declaresLimit] ∧
      ∃ answers run otherAnswers other,
        (Run.fresh ⟨Catalog.standard, true, ⟨"annotate", []⟩, true, 1⟩).performAll
            [.addMany [declaresLimit, hidesLimit], .analyze] = (answers, run) ∧
          (Run.fresh ⟨Catalog.standard, true, ⟨"annotate", []⟩, true, 1⟩).performAll
            [.addMany [hidesLimit, declaresLimit], .analyze] = (otherAnswers, other) ∧
          run.AgreesWith other := by
  have distinct : (([declaresLimit, hidesLimit]).map SourceUnit.unitId).Nodup := by decide
  have apart : DeclaredApart [declaresLimit, hidesLimit] := by
    have differ : ∀ path, Declares [declaresLimit] path → ¬ Declares [hidesLimit] path := by
      intro path inFirst inSecond
      simp only [Declares, declaresLimit, List.mem_singleton, exists_eq_left] at inFirst
      simp only [Declares, hidesLimit, List.mem_singleton, exists_eq_left] at inSecond
      rw [← inFirst] at inSecond
      exact absurd inSecond (by decide)
    intro first isFirst second isSecond path firstDeclares secondDeclares
    simp only [List.mem_cons, List.not_mem_nil, or_false] at isFirst isSecond
    rcases isFirst with rfl | rfl <;> rcases isSecond with rfl | rfl
    · rfl
    · exact absurd secondDeclares (differ path firstDeclares)
    · exact absurd firstDeclares (differ path secondDeclares)
    · rfl
  have permuted : [declaresLimit, hidesLimit].Perm [hidesLimit, declaresLimit] :=
    List.Perm.swap hidesLimit declaresLimit []
  obtain ⟨answers, run, otherAnswers, other, performed, otherPerformed, -, agrees⟩ :=
    agrees_of_permuted ⟨Catalog.standard, true, ⟨"annotate", []⟩, true, 1⟩ distinct apart permuted
  exact ⟨distinct, apart, permuted, answers, run, otherAnswers, other, performed, otherPerformed,
    agrees⟩

end History

end Annotations
