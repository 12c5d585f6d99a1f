import Annotations.Ignore
import Annotations.Proofs.Config.Overrides
import Annotations.Proofs.Discovery
import Annotations.Proofs.Parallel.Processed

/-!
Contract: what the analysis of a repository hands to its run, and what the run
registers.

A run refuses too few workers and units with an identifier in use. Neither
occurs: a configuration that was accepted has a worker, and the identifiers of
units are relative paths, which no two files share. The paths ascend, so of
several files that declare a symbol the smallest path registers it, where the
units are analysed in order. Files of the same module are no exception. Workers
that run beside each other may leave the symbol to another of these files.

Owns:
- `Run.HasAnalysed`, what a run over files has registered, and `Run.IsAnalysisOf`
  where it took the files in order;
- `analyzeRepository_meets_preconditions`, for all trees and configurations.

Does not own:
- which files are found, and the order of their paths; see
  `Annotations.Proofs.Discovery`;
- the run over the units; see `Annotations.Proofs.Parallel.Processed`.
-/

namespace Annotations

section Repository

variable {parse : IgnoreParser} {schedule : Schedule} {root : FileTree} {base : FilePath}
  {config : Config}

/-- The files that are found are analysed as units. -/
theorem analyzeRepository_of_ok {files : List SourceFile}
    (found : discover parse root base config.selection = .ok files) :
    analyzeRepository parse schedule root base config =
      (analyzeUnits schedule config.runOptions (files.map SourceFile.toUnit)).mapError .run := by
  unfold analyzeRepository collectUnits
  rw [found]
  rfl

/-- What cannot be discovered is not analysed. -/
theorem analyzeRepository_of_error {error : IgnoreError}
    (failed : discover parse root base config.selection = .error error) :
    analyzeRepository parse schedule root base config = .error (.ignoreFile error) := by
  unfold analyzeRepository collectUnits
  rw [failed]
  rfl

end Repository

/-! ## What is registered -/

def SourceFile.Declares (file : SourceFile) (path : Path) : Prop :=
  ∃ declaration ∈ file.toUnit.declarations, declaration.path = path

def SourceFile.firstLine? (file : SourceFile) (path : Path) : Option Line :=
  (file.toUnit.declarations.find? fun declaration => decide (declaration.path = path)).map
    Declaration.line

/-- The run has analysed the files as units, in strictly ascending order of their relative paths,
and lists one symbol for each path that a file declares, at its first declaration in such a file. -/
structure Run.HasAnalysed (run : Run) (files : List SourceFile) : Prop where
  unitIds : run.unitIds = files.map SourceFile.relativePath
  ascending : run.unitIds.Pairwise fun left right => compare left right = .lt
  settled : run.pending = []
  paths : ∀ path, path ∈ run.symbols.map Symbol.path ↔ ∃ file ∈ files, file.Declares path
  distinct : (run.symbols.map Symbol.path).Nodup
  declared : ∀ symbol ∈ run.symbols, ∃ file ∈ files, file.relativePath = symbol.unitId ∧
    file.firstLine? symbol.path = some symbol.line

/-- Each symbol is moreover that of the smallest relative path. -/
structure Run.IsAnalysisOf (run : Run) (files : List SourceFile) : Prop extends
    run.HasAnalysed files where
  first : ∀ symbol ∈ run.symbols, ∃ file ∈ files, file.relativePath = symbol.unitId ∧
    file.firstLine? symbol.path = some symbol.line ∧
    ∀ other ∈ files, other.Declares symbol.path →
      (compare file.relativePath other.relativePath).isLE = true

theorem declares_map_toUnit_iff {files : List SourceFile} {path : Path} :
    Declares (files.map SourceFile.toUnit) path ↔ ∃ file ∈ files, file.Declares path := by
  simp [Declares, SourceFile.Declares]

/-- The first declaration of a path in files of ascending relative paths is that of the smallest of
them. -/
theorem exists_file_of_firstSite? {files : List SourceFile}
    (ascending : (files.map SourceFile.relativePath).Pairwise fun left right =>
      compare left right = .lt) {path : Path} {site : Site}
    (found : firstSite? (files.map SourceFile.toUnit) path = some site) :
    ∃ file ∈ files, file.relativePath = site.unitId ∧ file.firstLine? path = some site.line ∧
      ∀ other ∈ files, other.Declares path →
        (compare file.relativePath other.relativePath).isLE = true := by
  obtain ⟨before, unit, after, units, notBefore, ofUnit, first⟩ := exists_split_of_firstSite? found
  obtain ⟨earlier, rest, rfl, rfl, fromUnit⟩ := List.map_eq_append_iff.1 units
  obtain ⟨file, later, rfl, rfl, rfl⟩ := List.map_eq_cons_iff.1 fromUnit
  refine ⟨file, by simp, ofUnit, first, ?_⟩
  intro other isOther declares
  rcases List.mem_append.1 isOther with isEarlier | inRest
  · exact absurd (declares_map_toUnit_iff.2 ⟨other, isEarlier, declares⟩) notBefore
  · rcases List.mem_cons.1 inRest with rfl | isLater
    · exact Std.ReflCmp.isLE_rfl
    · have inOrder := (List.pairwise_append.1 (List.pairwise_map.1 ascending)).2.1
      rw [(List.pairwise_cons.1 inOrder).1 other isLater]
      rfl

/-- Files whose relative paths ascend are analysed when their units are processed. -/
theorem Run.HasProcessed.hasAnalysed {run : Run} {options : RunOptions} {declared : SymbolTable}
    {files : List SourceFile}
    (processed : run.HasProcessed options declared (files.map SourceFile.toUnit))
    (ascending : (files.map SourceFile.relativePath).Pairwise fun left right =>
      compare left right = .lt) : run.HasAnalysed files := by
  have unitIds : run.unitIds = files.map SourceFile.relativePath := by
    rw [Run.unitIds, processed.hasUnits, map_unitId_toUnit]
  constructor
  case unitIds => exact unitIds
  case ascending => exact unitIds ▸ ascending
  case settled => exact processed.settled
  case paths =>
    intro path
    rw [← declares_map_toUnit_iff, ← processed.hasDeclared.isSome_site?_iff, ← processed.site?_eq]
    exact SymbolTable.mem_paths_symbols_iff
  case distinct => exact Registry.nodup_symbols _
  case declared =>
    intro symbol isSymbol
    have sited : run.table.site? symbol.path = some symbol.site :=
      congrArg (Option.map Symbol.site) (SymbolTable.mem_symbols_iff.1 isSymbol)
    rw [processed.site?_eq] at sited
    obtain ⟨unit, isUnit, first⟩ := processed.hasDeclared.exists_unit_of_site? sited
    obtain ⟨file, isFile, rfl⟩ := List.mem_map.1 isUnit
    rw [firstSite?_singleton] at first
    obtain ⟨declaration, isFirst, same⟩ := Option.map_eq_some_iff.1 first
    refine ⟨file, isFile, congrArg Site.unitId same, ?_⟩
    rw [SourceFile.firstLine?, isFirst]
    exact congrArg (some ∘ Site.line) same

/-- In order the symbol of a path is that of the smallest file. -/
theorem first_replay (options : RunOptions) {files : List SourceFile}
    (ascending : (files.map SourceFile.relativePath).Pairwise fun left right =>
      compare left right = .lt) {symbol : Symbol}
    (isSymbol : symbol ∈ (History.replay options ⟨[files.map SourceFile.toUnit], []⟩).symbols) :
    ∃ file ∈ files, file.relativePath = symbol.unitId ∧
      file.firstLine? symbol.path = some symbol.line ∧
      ∀ other ∈ files, other.Declares symbol.path →
        (compare file.relativePath other.relativePath).isLE = true := by
  have sited := History.firstSite?_of_registered (SymbolTable.mem_symbols_iff.1 isSymbol)
  rw [List.flatten_singleton] at sited
  exact exists_file_of_firstSite? ascending sited

/-- Files of ascending relative paths are analysed, whichever they are. -/
theorem exists_hasAnalysed (schedule : Schedule) {options : RunOptions}
    (positive : 1 ≤ options.workers) {files : List SourceFile}
    (ascending : (files.map SourceFile.relativePath).Pairwise fun left right =>
      compare left right = .lt) :
    ∃ run, analyzeUnits schedule options (files.map SourceFile.toUnit) = .ok run ∧
      run.HasAnalysed files ∧
      (schedule = .inOrder ∨ options.workers = 1 ∨ files.length < 2 → run.IsAnalysisOf files) := by
  have distinct : ((files.map SourceFile.toUnit).map SourceUnit.unitId).Nodup := by
    rw [map_unitId_toUnit]
    exact nodup_of_pairwise_lt ascending
  obtain ⟨run, succeeded, processed⟩ := exists_analyzeUnits schedule positive distinct
  have hasAnalysed := processed.hasAnalysed ascending
  refine ⟨run, succeeded, hasAnalysed, fun inOrder => ⟨hasAnalysed, ?_⟩⟩
  rw [← List.length_map (f := SourceFile.toUnit)] at inOrder
  rw [analyzeUnits_eq inOrder positive distinct] at succeeded
  obtain rfl := Except.ok.inj succeeded
  intro symbol isSymbol
  exact first_replay options ascending isSymbol

/-! ## The analysis of a repository -/

/-- Whatever the tree and the place in it, and in whatever turns the workers step, the analysis
under an accepted configuration meets what a run asks of it. It fails only where an ignore file
cannot be read, before the run begins. Otherwise the run has analysed the files that are found or,
where some of them cannot be read, the others; in order, the smallest path registers a symbol. -/
theorem analyzeRepository_meets_preconditions {root : FileTree} {table : Table} {config : Config}
    (named : root.IsNamed) (accepted : Config.validate table = .ok config) (parse : IgnoreParser)
    (schedule : Schedule) (base : FilePath) :
    1 ≤ config.runOptions.workers ∧
      (∀ error, analyzeRepository parse schedule root base config = .error error →
        ∃ unreadable, discover parse root base config.selection = .error unreadable ∧
          error = .ignoreFile unreadable) ∧
      ∀ files, discover parse root base config.selection = .ok files →
        (∃ run, analyzeRepository parse schedule root base config = .ok run ∧
          run.HasAnalysed files ∧
          (schedule = .inOrder ∨ config.workers = 1 ∨ files.length < 2 →
            run.IsAnalysisOf files)) ∧
        ∀ isReadable : SourceFile → Bool, ∃ run,
          analyzeUnits schedule config.runOptions
              ((files.filter isReadable).map SourceFile.toUnit) = .ok run ∧
            run.HasAnalysed (files.filter isReadable) ∧
            (schedule = .inOrder ∨ config.workers = 1 ∨ (files.filter isReadable).length < 2 →
              run.IsAnalysisOf (files.filter isReadable)) := by
  have positive : 1 ≤ config.runOptions.workers :=
    (Config.validate_eq_ok_iff.1 accepted).workers_pos
  have analysed : ∀ files, discover parse root base config.selection = .ok files →
      ∃ run, analyzeRepository parse schedule root base config = .ok run ∧
        run.HasAnalysed files ∧
        (schedule = .inOrder ∨ config.workers = 1 ∨ files.length < 2 →
          run.IsAnalysisOf files) := by
    intro files found
    obtain ⟨run, succeeded, isAnalysis⟩ :=
      exists_hasAnalysed schedule positive (pairwise_relativePaths_discover named found)
    exact ⟨run, by rw [analyzeRepository_of_ok found, succeeded]; rfl, isAnalysis⟩
  refine ⟨positive, ?_, ?_⟩
  · intro error failed
    cases found : discover parse root base config.selection with
    | error unreadable =>
        rw [analyzeRepository_of_error found] at failed
        exact ⟨unreadable, rfl, (Except.error.inj failed).symm⟩
    | ok files =>
        obtain ⟨run, succeeded, -⟩ := analysed files found
        rw [succeeded] at failed
        contradiction
  · intro files found
    refine ⟨analysed files found, ?_⟩
    intro isReadable
    exact exists_hasAnalysed schedule positive
      ((pairwise_relativePaths_discover named found).sublist
        (List.filter_sublist.map SourceFile.relativePath))

/-- Two files of one module, listed against the order of their relative paths. -/
def oneModule (upper lower : List UInt8) : FileTree :=
  .directory [("src", .directory [("m.py", .file lower)]), ("m.py", .file upper)]

theorem isProper_oneModule {upper lower : List UInt8}
    (upperSize : upper.length < 0x8000000000000000)
    (lowerSize : lower.length < 0x8000000000000000) : (oneModule upper lower).IsProper := by
  simp [oneModule, FileTree.IsProper, FileTree.AreProper, upperSize, lowerSize]

theorem upper_below_lower (upper lower : List UInt8) :
    compare (SourceFile.relativePath ⟨["m.py"], upper⟩)
      (SourceFile.relativePath ⟨["src", "m.py"], lower⟩) = .lt := by
  change compare ("/".intercalate ["m.py"]) ("/".intercalate ["src", "m.py"]) = .lt
  decide +kernel

theorem discover_oneModule (parse : IgnoreParser) (upper lower : List UInt8) :
    discover parse (oneModule upper lower) [] Config.standard.selection =
      .ok [⟨["m.py"], upper⟩, ⟨["src", "m.py"], lower⟩] := by
  have noIgnoreFiles :
      readIgnoreFiles parse (oneModule upper lower) [] false (oneModule upper lower) = .ok [] := by
    simp [readIgnoreFiles, ignoreFilePlaces, FileTree.octets?, FileTree.entry?, FileTree.follow,
      FileTree.at?, FileTree.child?, oneModule, ignoreFileName, List.lookup_cons]
    rfl
  have isEntry : FileTree.entry? (oneModule upper lower) [] = some (oneModule upper lower) := by
    simp [FileTree.entry?, FileTree.follow, FileTree.at?]
  have selectsUpper : Config.standard.selection.selects [] [] ⟨["m.py"], upper⟩ = true := by
    change Config.standard.selection.selects [] [] ⟨["m.py"], []⟩ = true
    decide +kernel
  have selectsLower : Config.standard.selection.selects [] [] ⟨["src", "m.py"], lower⟩ = true := by
    change Config.standard.selection.selects [] [] ⟨["src", "m.py"], []⟩ = true
    decide +kernel
  have listed : filesBelow (oneModule upper lower) =
      [⟨["src", "m.py"], lower⟩, ⟨["m.py"], upper⟩] := rfl
  have sorted : discoverIn Config.standard.selection [] [] (oneModule upper lower) =
      [⟨["m.py"], upper⟩, ⟨["src", "m.py"], lower⟩] := by
    unfold discoverIn
    rw [listed, List.filter_cons, if_pos selectsLower, List.filter_cons, if_pos selectsUpper]
    simp [List.mergeSort, Std.OrientedCmp.gt_of_lt (upper_below_lower upper lower)]
  have rootOnly : Config.standard.selection.nestedIgnoreFiles = false := rfl
  simp only [discover, isEntry, Option.getD_some, rootOnly, noIgnoreFiles, bind, Except.bind,
    sorted]

def asciiOctets (text : String) : List UInt8 :=
  text.toList.map fun c => c.val.toUInt8

private def upper : SourceFile := ⟨["m.py"], asciiOctets "\nA = 2\n"⟩

private def lower : SourceFile := ⟨["src", "m.py"], asciiOctets "A = 1\n"⟩

private theorem declarations_upper : upper.toUnit.declarations = [⟨["m"], "A", .constant, 2⟩] := by
  decide +kernel

/-- The file above registers the symbol, at its own line. -/
theorem analyzeRepository_one_module :
    ∃ run,
      analyzeRepository IgnoreFile.parser .inOrder (oneModule upper.octets lower.octets) []
          Config.standard = .ok run ∧
      run.unitIds = ["m.py", "src/m.py"] ∧
      ∃ symbol ∈ run.symbols, symbol.path = ⟨["m"], "A", .constant⟩ ∧
        symbol.unitId = "m.py" ∧ symbol.line = 2 := by
  have proper : (oneModule upper.octets lower.octets).IsProper :=
    isProper_oneModule (by decide) (by decide)
  have accepted : Config.validate [] = .ok Config.standard := rfl
  obtain ⟨-, -, analysed⟩ :=
    analyzeRepository_meets_preconditions proper.isNamed accepted IgnoreFile.parser .inOrder []
  obtain ⟨⟨run, succeeded, -, inOrder⟩, -⟩ :=
    analysed [upper, lower] (discover_oneModule IgnoreFile.parser upper.octets lower.octets)
  have isAnalysis := inOrder (Or.inl rfl)
  have declares : upper.Declares ⟨["m"], "A", .constant⟩ := by
    refine ⟨⟨["m"], "A", .constant, 2⟩, ?_, rfl⟩
    rw [declarations_upper]
    exact List.mem_singleton.2 rfl
  obtain ⟨symbol, isSymbol, ofPath⟩ :=
    List.mem_map.1 ((isAnalysis.paths _).2 ⟨upper, List.mem_cons_self .., declares⟩)
  obtain ⟨file, isFile, ofUnit, first, smallest⟩ := isAnalysis.first symbol isSymbol
  have notAbove := smallest upper (List.mem_cons_self ..) (ofPath ▸ declares)
  have above : compare lower.relativePath upper.relativePath = .gt :=
    Std.OrientedCmp.gt_of_lt (upper_below_lower upper.octets lower.octets)
  have isUpper : file = upper := by
    rcases List.mem_pair.1 isFile with rfl | rfl
    · rfl
    · rw [above] at notAbove
      contradiction
  subst isUpper
  have onLine : upper.firstLine? ⟨["m"], "A", .constant⟩ = some 2 := by
    rw [SourceFile.firstLine?, declarations_upper]
    rfl
  rw [ofPath, onLine] at first
  exact ⟨run, succeeded, isAnalysis.unitIds, symbol, isSymbol, ofPath, ofUnit.symm,
    (Option.some.inj first).symm⟩

end Annotations
