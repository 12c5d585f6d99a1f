import Mathlib.Data.List.Perm.Subperm
import Annotations.Proofs.Diagnostics
import Annotations.Proofs.Invariant

/-!
Contract: a run only moves forward until it is reset.

An analysis adds one batch at the end of what was analysed before. Declaring
keeps the symbols that are there, directives change visibilities to private only,
and reports, records and ranges are appended. So whatever a run has shown once it
goes on to show, in every later state before a reset.

Owns:
- `SymbolTable.IsExtendedBy` and `Run.IsExtendedBy`, what a later state keeps;
- `History.isExtendedBy_of_requests`, that every request but a reset keeps it.

Does not own: which states a run can reach; see `Annotations.Proofs.Reachable`.
-/

namespace Annotations

/-! ## Tables -/

/-- Every symbol stays registered where it was declared, a private one stays private, and a log
keeps its records. -/
structure SymbolTable.IsExtendedBy (before after : SymbolTable) : Prop where
  symbols : ∀ path symbol, before.get? path = some symbol →
    ∃ kept, after.get? path = some kept ∧ kept.site = symbol.site ∧
      (symbol.visibility = .isPrivate → kept.visibility = .isPrivate)
  log : ∃ records, after.log? = before.log?.map (· ++ records)

namespace SymbolTable.IsExtendedBy

theorem refl (table : SymbolTable) : table.IsExtendedBy table where
  symbols := fun _ symbol registered => ⟨symbol, registered, rfl, id⟩
  log := ⟨[], by simp⟩

theorem trans {before middle after : SymbolTable} (first : before.IsExtendedBy middle)
    (second : middle.IsExtendedBy after) : before.IsExtendedBy after where
  symbols := by
    intro path symbol registered
    obtain ⟨kept, isKept, sameSite, staysPrivate⟩ := first.symbols path symbol registered
    obtain ⟨last, isLast, lastSite, lastPrivate⟩ := second.symbols path kept isKept
    exact ⟨last, isLast, lastSite.trans sameSite, lastPrivate ∘ staysPrivate⟩
  log := by
    obtain ⟨records, logged⟩ := first.log
    obtain ⟨more, loggedMore⟩ := second.log
    refine ⟨records ++ more, ?_⟩
    rw [loggedMore, logged, Option.map_map]
    simp only [Function.comp_def, List.append_assoc]

theorem declareUnits (table : SymbolTable) (units : List SourceUnit) :
    table.IsExtendedBy (Run.declareUnits table units) where
  symbols := by
    intro path symbol registered
    refine ⟨symbol, ?_, rfl, id⟩
    rw [Run.get?_declareUnits, registered, Option.some_or]
  log := ⟨[], by simp [log?_declareUnits]⟩

theorem applyAll (table : SymbolTable) (applications : List Application) :
    table.IsExtendedBy (table.applyAll applications) where
  symbols := by
    intro path symbol registered
    rw [get?_applyAll, registered]
    refine ⟨_, rfl, ?_, ?_⟩ <;> split <;> simp [Symbol.site]
  log := ⟨_, log?_applyAll table applications⟩

theorem changes {before after : SymbolTable} (extended : before.IsExtendedBy after) :
    before.changes.Subperm after.changes := by
  obtain ⟨records, logged⟩ := extended.log
  have prefixed : (before.log?.getD []).Sublist (after.log?.getD []) := by
    rw [logged]
    cases before.log? with
    | none => exact List.Sublist.refl []
    | some log => exact List.sublist_append_left log records
  exact ((List.mergeSort_perm _ _).subperm.trans prefixed.subperm).trans
    (List.mergeSort_perm _ _).symm.subperm

end SymbolTable.IsExtendedBy

/-! ## Runs -/

/-- A later state of a run shows all that an earlier one shows: its symbols at their places, private
ones private, its unit reports unchanged, and its failures, records and collected ranges as often as
before. -/
structure Run.IsExtendedBy (before after : Run) : Prop where
  symbols : ∀ symbol ∈ before.symbols, ∃ kept ∈ after.symbols,
    kept.path = symbol.path ∧ kept.unitId = symbol.unitId ∧ kept.line = symbol.line ∧
      (symbol.visibility = .isPrivate → kept.visibility = .isPrivate)
  unitReports : ∀ report ∈ before.sortedUnitReports, report ∈ after.sortedUnitReports
  reportedOnce : (after.sortedUnitReports.map UnitReport.unitId).Nodup
  diagnostics : before.diagnostics.Subperm after.diagnostics
  changes : before.changes.Subperm after.changes
  ranges : (unfiled before.report.asMapping).Subperm (unfiled after.report.asMapping)

theorem Run.sortedUnitReports_perm (run : Run) : run.sortedUnitReports.Perm run.unitReports :=
  List.mergeSort_perm _ _

namespace History

/-! ## Batches are only added -/

theorem analysed_add (history : History) (units : List SourceUnit) :
    (history.add units).analysed = history.analysed := by
  induction units generalizing history with
  | nil => rfl
  | cons unit rest inductionHypothesis =>
      rw [add]
      split
      · rfl
      · exact inductionHypothesis (history.push unit)

/-- A request other than a reset leaves the analysed batches, and adds one at most. -/
theorem prefix_after (options : RunOptions) (history : History) {request : Request}
    (keeps : request ≠ .reset) :
    history.analysed <+: (history.after options request).analysed := by
  have analysing : history.analysed <+: history.analyse.analysed :=
    List.prefix_append history.analysed [history.pending]
  cases request with
  | reset => contradiction
  | add unit => exact (analysed_add history [unit]).symm ▸ List.prefix_rfl
  | addMany units => exact (analysed_add history units).symm ▸ List.prefix_rfl
  | analyze | resolve => exact analysing
  | suppressions =>
      rw [after]
      split
      · exact analysing
      · exact List.prefix_rfl
  | units | unitReports | diagnostics | symbols | changes => exact List.prefix_rfl

theorem prefix_foldl_after (options : RunOptions) (history : History) {requests : List Request}
    (keeps : .reset ∉ requests) :
    history.analysed <+: (requests.foldl (after options) history).analysed := by
  induction requests generalizing history with
  | nil => exact List.prefix_rfl
  | cons request rest inductionHypothesis =>
      rw [List.mem_cons, not_or] at keeps
      exact (prefix_after options history (Ne.symm keeps.1)).trans
        (inductionHypothesis (history.after options request) keeps.2)

/-! ## What batches leave is kept -/

theorem isExtendedBy_tableAfter (options : RunOptions) (batches more : List (List SourceUnit)) :
    (tableAfter options batches).IsExtendedBy (tableAfter options (batches ++ more)) := by
  induction more using List.reverseRecOn with
  | nil =>
      rw [List.append_nil]
      exact .refl _
  | append_singleton more batch inductionHypothesis =>
      rw [← List.append_assoc, tableAfter_append_singleton, analyseBatch]
      exact inductionHypothesis.trans ((SymbolTable.IsExtendedBy.declareUnits _ batch).trans
        (SymbolTable.IsExtendedBy.applyAll _ _))

theorem prefix_reportsAfter (options : RunOptions) (batches more : List (List SourceUnit)) :
    reportsAfter options batches <+: reportsAfter options (batches ++ more) := by
  induction more using List.reverseRecOn with
  | nil => exact (List.append_nil batches).symm ▸ List.prefix_rfl
  | append_singleton more batch inductionHypothesis =>
      rw [← List.append_assoc, reportsAfter_append_singleton]
      exact inductionHypothesis.trans (List.prefix_append _ _)

theorem isExtendedBy_replay (options : RunOptions) {history later : History}
    (distinct : later.IsDistinct) (grown : history.analysed <+: later.analysed) :
    (replay options history).IsExtendedBy (replay options later) := by
  obtain ⟨more, batches⟩ := grown
  have tables : (replay options history).table.IsExtendedBy (replay options later).table := by
    show (tableAfter options history.analysed).IsExtendedBy (tableAfter options later.analysed)
    rw [← batches]
    exact isExtendedBy_tableAfter options history.analysed more
  have reports : (replay options history).unitReports <+: (replay options later).unitReports := by
    show reportsAfter options history.analysed <+: reportsAfter options later.analysed
    rw [← batches]
    exact prefix_reportsAfter options history.analysed more
  have distinctReports := (isConsistent_replay options distinct).distinct.sublist
    (List.sublist_append_right _ _)
  constructor
  case symbols =>
    intro symbol isSymbol
    obtain ⟨kept, isKept, sameSite, staysPrivate⟩ :=
      tables.symbols symbol.path symbol (SymbolTable.mem_symbols_iff.1 isSymbol)
    have samePath : kept.path = symbol.path := Registry.path_of_get? isKept
    obtain ⟨sameUnit, sameLine⟩ := Site.mk.inj sameSite
    exact ⟨kept, SymbolTable.mem_symbols_iff.2 (samePath ▸ isKept), samePath, sameUnit, sameLine,
      staysPrivate⟩
  case unitReports =>
    intro report isReport
    rw [(Run.sortedUnitReports_perm _).mem_iff] at isReport ⊢
    exact reports.subset isReport
  case reportedOnce =>
    exact ((Run.sortedUnitReports_perm _).map UnitReport.unitId).nodup_iff.2 distinctReports
  case diagnostics =>
    obtain ⟨rest, appended⟩ := reports
    have listed := (replay options later).diagnostics_perm
    rw [← appended, List.flatMap_append] at listed
    exact ((replay options history).diagnostics_perm.subperm.trans
      (List.sublist_append_left _ _).subperm).trans listed.symm.subperm
  case changes => exact tables.changes
  case ranges =>
    have filed : (replay options history).report.filed.Sublist
        (replay options later).report.filed := by
      rw [filed_replay, filed_replay, ← batches, List.flatten_append, List.flatMap_append]
      exact List.sublist_append_left _ _
    exact ((SuppressionReport.unfiled_asMapping_perm _).subperm.trans filed.subperm).trans
      (SuppressionReport.unfiled_asMapping_perm _).symm.subperm

/-- Whatever requests brought a run to a state, further requests without a reset, refused ones
included, lead to states that show all that it shows. -/
theorem isExtendedBy_of_requests (options : RunOptions) (earlier later : List Request)
    (keeps : .reset ∉ later) :
    ((Run.fresh options).performAll earlier).2.IsExtendedBy
      ((Run.fresh options).performAll (earlier ++ later)).2 := by
  rw [snd_performAll_fresh, snd_performAll_fresh]
  apply isExtendedBy_replay options (isDistinct_ofRequests options (earlier ++ later))
  unfold ofRequests
  rw [List.foldl_append]
  exact prefix_foldl_after options _ keeps

private def loggedOptions : RunOptions where
  catalog := Catalog.standard
  suppressionsEnabled := true
  tracker := ⟨"annotate", []⟩
  tracksChanges := true
  workers := 1

private def firstLimit : SourceUnit where
  unitId := "b.py"
  lineCount := 4
  declarations := [⟨["b"], "Limit", .constant, 2⟩]
  calls := [⟨["b"], "private_constant", 3, [⟨.string, "'Limit'", some (.text "Limit")⟩]⟩]
  comments := []
  scope := ["b"]

private def laterLimit : SourceUnit where
  unitId := "a.py"
  lineCount := 1
  declarations := [⟨["b"], "Limit", .constant, 1⟩]
  calls := []
  comments := []
  scope := ["b"]

/-- Neither a refused unit nor a unit that declares the path again moves the symbol. -/
theorem redeclared_symbol_stays :
    Request.reset ∉ [.add firstLimit, .add laterLimit, .analyze] ∧
      ∃ kept ∈ ((Run.fresh loggedOptions).performAll
          ([.add firstLimit, .analyze] ++ [.add firstLimit, .add laterLimit, .analyze])).2.symbols,
        kept.path = ⟨["b"], "Limit", .constant⟩ ∧ kept.unitId = "b.py" ∧ kept.line = 2 := by
  have keeps : Request.reset ∉ [.add firstLimit, .add laterLimit, .analyze] := by decide
  have extended := isExtendedBy_of_requests loggedOptions
    [.add firstLimit, .analyze] [.add firstLimit, .add laterLimit, .analyze] keeps
  have sited : (tableAfter loggedOptions
      [[firstLimit]]).site? ⟨["b"], "Limit", .constant⟩ = some ⟨"b.py", 2⟩ := by
    rw [site?_tableAfter]
    decide
  obtain ⟨symbol, registered, atSite⟩ := Option.map_eq_some_iff.1 sited
  obtain ⟨sameUnit, sameLine⟩ := Site.mk.inj atSite
  have ofPath : symbol.path = ⟨["b"], "Limit", .constant⟩ := Registry.path_of_get? registered
  have isSymbol : symbol ∈ ((Run.fresh loggedOptions).performAll
      [.add firstLimit, .analyze]).2.symbols := by
    rw [snd_performAll_fresh]
    exact SymbolTable.mem_symbols_iff.2 (ofPath ▸ registered)
  obtain ⟨kept, isKept, keptPath, keptUnit, keptLine, -⟩ := extended.symbols symbol isSymbol
  exact ⟨keeps, kept, isKept, keptPath.trans ofPath, keptUnit.trans sameUnit,
    keptLine.trans sameLine⟩

end History

end Annotations
