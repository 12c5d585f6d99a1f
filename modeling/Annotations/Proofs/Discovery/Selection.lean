import Annotations.Ignore
import Annotations.Proofs.Discovery.Enumeration
import Annotations.Proofs.Text.Runs

/-!
Contract: discovery finds exactly the files that are asked for.

Each check on a file is a condition on its path and on the tree. A file is found
if and only if it meets all of them, whatever the order in which entries are
listed. The ignore files of directories further down only take files away.

Owns:
- `FileTree.LoadsIgnoreFile`, the ignore files in force;
- `Selection.IsFound`, the conditions on a file;
- `Selection.IsResult` and `discover_isResult`.

Does not own: what a pattern or an ignore file accepts.
-/

namespace Annotations

/-! ## Names that end as asked for -/

namespace Glob

/-- The character stands for itself in a pattern. -/
def IsPlain (c : Char) : Prop :=
  c ≠ '*' ∧ c ≠ '?' ∧ c ≠ '['

theorem parse_of_plain {text : List Char} (plain : ∀ c ∈ text, IsPlain c) :
    parse text = text.map .character := by
  induction text with
  | nil => rw [parse]; rfl
  | cons c rest inductionHypothesis =>
      obtain ⟨⟨notStar, notMark, notBracket⟩, plainRest⟩ := List.forall_mem_cons.1 plain
      rw [parse, inductionHypothesis plainRest, List.map_cons]
      · exact notStar
      · exact notMark
      · exact notBracket

theorem matchesItems_characters (expected text : List Char) :
    matchesItems (expected.map .character) text = decide (text = expected) := by
  induction expected generalizing text with
  | nil => cases text <;> simp [matchesItems]
  | cons c rest inductionHypothesis =>
      cases text with
      | nil => simp [matchesItems]
      | cons first more =>
          rw [List.map_cons, matchesItems, inductionHypothesis, Bool.eq_iff_iff]
          simp

/-- A star before plain characters accepts the texts that end with these. -/
theorem accepts_star_iff {suffix name : String} (plain : ∀ c ∈ suffix.toList, IsPlain c) :
    accepts ("*" ++ suffix) name = true ↔ suffix.toList <:+ name.toList := by
  have written : ("*" ++ suffix).toList = '*' :: suffix.toList := by simp
  rw [accepts, written, parse, parse_of_plain plain, matchesItems, List.any_eq_true]
  simp only [matchesItems_characters, decide_eq_true_eq, Text.suffixes, Text.mem_afterRun_iff]
  constructor
  · rintro ⟨rest, ⟨run, isName, -⟩, rfl⟩
    exact ⟨run, isName.symm⟩
  · rintro ⟨run, isName⟩
    exact ⟨_, ⟨run, isName.symm, fun _ _ => trivial⟩, rfl⟩

end Glob

/-! ## Ignore files in force -/

/-- An ignore file of these octets is in force for a directory: its own one or, where those of all
directories count, one that is listed at a place below. Its octets are read with links followed. -/
structure FileTree.LoadsIgnoreFile (root : FileTree) (base : FilePath) (nested : Bool)
    (directory : FileTree) (place : FilePath) (octets : List UInt8) : Prop where
  inForce : place = [] ∨
    nested = true ∧ (directory.at? (place ++ [ignoreFileName])).isSome = true
  isRead : root.octets? (base ++ (place ++ [ignoreFileName])) = some octets

/-- Where only the directory's own ignore file counts, it is the one that is loaded. -/
theorem FileTree.LoadsIgnoreFile.place_eq {root directory : FileTree} {base place : FilePath}
    {octets : List UInt8} (loaded : root.LoadsIgnoreFile base false directory place octets) :
    place = [] :=
  loaded.inForce.resolve_right fun isNested => Bool.false_ne_true isNested.1

theorem FileTree.LoadsIgnoreFile.nested {root directory : FileTree} {base place : FilePath}
    {octets : List UInt8} (loaded : root.LoadsIgnoreFile base false directory place octets)
    (nested : Bool) : root.LoadsIgnoreFile base nested directory place octets where
  inForce := Or.inl loaded.place_eq
  isRead := loaded.isRead

/-- If every item can be translated, so can the list, and these are its items. -/
theorem exists_mapM_eq_ok {Item Value Error : Type} {translate : Item → Except Error Value}
    {items : List Item} (translated : ∀ item ∈ items, ∃ value, translate item = .ok value) :
    ∃ values, items.mapM translate = .ok values ∧
      ∀ value, value ∈ values ↔ ∃ item ∈ items, translate item = .ok value := by
  induction items with
  | nil => exact ⟨[], rfl, by simp⟩
  | cons item rest inductionHypothesis =>
      obtain ⟨⟨first, isFirst⟩, restTranslated⟩ := List.forall_mem_cons.1 translated
      obtain ⟨values, areRest, mem_iff⟩ := inductionHypothesis restTranslated
      refine ⟨first :: values, ?_, ?_⟩
      · rw [List.mapM_cons, isFirst, areRest]
        rfl
      · intro value
        rw [List.mem_cons, mem_iff, List.exists_mem_cons_iff, isFirst, Except.ok.injEq, eq_comm]

section Loaded

variable {root directory : FileTree} {base : FilePath}

/-- The ignore files that are read, by ascending path, each with its directory. -/
def ignoreFileOctets (root : FileTree) (base : FilePath) (nested : Bool) (directory : FileTree) :
    List (FilePath × List UInt8) :=
  ((ignoreFilePlaces nested directory).mergeSort fun left right =>
    (compare ("/".intercalate left) ("/".intercalate right)).isLE).filterMap fun path =>
      (root.octets? (base ++ path)).map fun octets => (path.dropLast, octets)

theorem mem_ignoreFileOctets_iff_exists {nested : Bool} {place : FilePath} {octets : List UInt8} :
    (place, octets) ∈ ignoreFileOctets root base nested directory ↔
      ∃ path ∈ ignoreFilePlaces nested directory,
        root.octets? (base ++ path) = some octets ∧ path.dropLast = place := by
  unfold ignoreFileOctets
  simp only [List.mem_filterMap, List.mem_mergeSort, Option.map_eq_some_iff, Prod.mk.injEq]
  constructor
  · rintro ⟨path, isPlace, _, isRead, isPath, rfl⟩
    exact ⟨path, isPlace, isRead, isPath⟩
  · rintro ⟨path, isPlace, isRead, isPath⟩
    exact ⟨path, isPlace, octets, isRead, isPath, rfl⟩

/-- The ignore files that are read are those in force. -/
theorem mem_ignoreFileOctets_iff (isEntry : root.entry? base = some directory)
    (named : directory.IsNamed) (avoids : directory.AvoidsParent) {nested : Bool}
    {place : FilePath} {octets : List UInt8} :
    (place, octets) ∈ ignoreFileOctets root base nested directory ↔
      root.LoadsIgnoreFile base nested directory place octets := by
  simp only [mem_ignoreFileOctets_iff_exists, mem_ignoreFilePlaces_iff named]
  constructor
  · rintro ⟨path, isPlace, isRead, rfl⟩
    cases nested with
    | false =>
        obtain rfl : path = [ignoreFileName] := isPlace
        exact ⟨Or.inl rfl, isRead⟩
    | true =>
        obtain ⟨⟨entry, reached, -⟩, isIgnoreFile⟩ := isPlace
        have isPath : path.dropLast ++ [ignoreFileName] = path :=
          List.dropLast_append_getLast? _ isIgnoreFile
        refine ⟨Or.inr ⟨rfl, ?_⟩, ?_⟩
        · rw [isPath, reached]
          rfl
        · rwa [isPath]
  · intro loaded
    refine ⟨place ++ [ignoreFileName], ?_, loaded.isRead, List.dropLast_concat⟩
    cases nested with
    | false =>
        obtain rfl := loaded.place_eq
        rfl
    | true =>
        simp only [if_true, List.getLast?_concat, and_true]
        have isSome := Option.isSome_of_eq_some loaded.isRead
        rcases loaded.inForce with rfl | ⟨-, reached⟩
        · exact FileTree.exists_leaf_of_octets?_name isEntry avoids (by decide) isSome
        · obtain ⟨entry, isAt⟩ := Option.isSome_iff_exists.1 reached
          exact ⟨entry, isAt, FileTree.isLeaf_of_octets? isEntry avoids isAt isSome⟩

/-- The matcher is that of an ignore file in force. -/
def PathMatcher.IsInForce (parse : IgnoreParser) (root : FileTree) (base : FilePath) (nested : Bool)
    (directory : FileTree) (matcher : PathMatcher) : Prop :=
  ∃ place octets, root.LoadsIgnoreFile base nested directory place octets ∧
    parse (base ++ place) octets = .ok matcher

/-- Where the ignore files in force can be read, they are read. -/
theorem exists_readIgnoreFiles {parse : IgnoreParser} (isEntry : root.entry? base = some directory)
    (named : directory.IsNamed) (avoids : directory.AvoidsParent) {nested : Bool}
    (readable : ∀ place octets, root.LoadsIgnoreFile base nested directory place octets →
      ∃ matcher, parse (base ++ place) octets = .ok matcher) :
    ∃ matchers, readIgnoreFiles parse root base nested directory = .ok matchers ∧
      ∀ matcher, matcher ∈ matchers ↔
        PathMatcher.IsInForce parse root base nested directory matcher := by
  have mem_iff := @mem_ignoreFileOctets_iff root directory base isEntry named avoids nested
  have translated : ∀ entry ∈ ignoreFileOctets root base nested directory,
      ∃ matcher, parse (base ++ entry.1) entry.2 = .ok matcher :=
    fun entry isListed => readable entry.1 entry.2 (mem_iff.1 isListed)
  obtain ⟨matchers, areRead, areMatchers⟩ := exists_mapM_eq_ok translated
  refine ⟨matchers, areRead, ?_⟩
  intro matcher
  rw [areMatchers]
  constructor
  · rintro ⟨⟨place, octets⟩, isListed, isRead⟩
    exact ⟨place, octets, mem_iff.1 isListed, isRead⟩
  · rintro ⟨place, octets, loaded, isRead⟩
    exact ⟨(place, octets), mem_iff.2 loaded, isRead⟩

end Loaded

/-! ## Files that are found -/

/-- A file is there, reached through real directories alone, and meets every condition: its name
ends as asked for, no directory on its way is skipped, no ignore file in force passes over it, some
include pattern accepts it, if there are any, and no exclude pattern does. -/
structure Selection.IsFound (selection : Selection) (parse : IgnoreParser) (root : FileTree)
    (base : FilePath) (directory : FileTree) (file : SourceFile) : Prop where
  reached : directory.at? file.path = some (.file file.octets)
  named : ∃ name, file.path.getLast? = some name ∧ selection.suffix.toList <:+ name.toList
  entered : ∀ name ∈ file.path.dropLast, name ∉ skippedDirectories
  kept : ∀ matcher,
    PathMatcher.IsInForce parse root base selection.nestedIgnoreFiles directory matcher →
      matcher (base ++ file.path) ≠ .ok true
  included : selection.included = [] ∨
    ∃ pattern ∈ selection.included, Glob.accepts pattern file.relativePath = true
  notExcluded : ∀ pattern ∈ selection.excluded, Glob.accepts pattern file.relativePath = false

theorem Selection.acceptsName_iff {selection : Selection}
    (plain : ∀ c ∈ selection.suffix.toList, Glob.IsPlain c) {file : SourceFile} :
    selection.acceptsName file = true ↔
      ∃ name, file.path.getLast? = some name ∧ selection.suffix.toList <:+ name.toList := by
  unfold acceptsName
  rw [Option.any_eq_true]
  simp only [Glob.accepts_star_iff plain]

theorem Selection.acceptsPath_iff {selection : Selection} {file : SourceFile} :
    selection.acceptsPath file = true ↔
      (selection.included = [] ∨
          ∃ pattern ∈ selection.included, Glob.accepts pattern file.relativePath = true) ∧
        ∀ pattern ∈ selection.excluded, Glob.accepts pattern file.relativePath = false := by
  unfold acceptsPath
  simp

theorem PathMatcher.passesOver_iff {matcher : PathMatcher} {path : FilePath} :
    matcher.passesOver path = true ↔ matcher path = .ok true := by
  unfold passesOver
  cases matcher path <;> simp

theorem Selection.selects_iff {selection : Selection} {base : FilePath}
    {matchers : List PathMatcher} {file : SourceFile} :
    selection.selects base matchers file = true ↔
      selection.acceptsName file = true ∧
        (∀ name ∈ file.path.dropLast, name ∉ skippedDirectories) ∧
        (∀ matcher ∈ matchers, matcher (base ++ file.path) ≠ .ok true) ∧
        selection.acceptsPath file = true := by
  unfold selects
  simp [and_assoc, ← PathMatcher.passesOver_iff]

section Discovered

variable {parse : IgnoreParser} {root directory : FileTree} {base : FilePath}
  {selection : Selection}

theorem mem_discoverIn_iff_isFound (named : directory.IsNamed)
    (plain : ∀ c ∈ selection.suffix.toList, Glob.IsPlain c) {matchers : List PathMatcher}
    (inForce : ∀ matcher, matcher ∈ matchers ↔
      PathMatcher.IsInForce parse root base selection.nestedIgnoreFiles directory matcher)
    {file : SourceFile} :
    file ∈ discoverIn selection base matchers directory ↔
      selection.IsFound parse root base directory file := by
  rw [mem_discoverIn_iff, mem_filesBelow_iff_at? named, Selection.selects_iff,
    Selection.acceptsName_iff plain, Selection.acceptsPath_iff]
  simp only [inForce]
  constructor
  · rintro ⟨reached, isNamed, entered, kept, included, notExcluded⟩
    exact ⟨reached, isNamed, entered, kept, included, notExcluded⟩
  · rintro ⟨reached, isNamed, entered, kept, included, notExcluded⟩
    exact ⟨reached, isNamed, entered, kept, included, notExcluded⟩

theorem exists_discover_eq_ok (isEntry : root.entry? base = some directory)
    (named : directory.IsNamed) (avoids : directory.AvoidsParent)
    (plain : ∀ c ∈ selection.suffix.toList, Glob.IsPlain c)
    (readable : ∀ place octets,
      root.LoadsIgnoreFile base selection.nestedIgnoreFiles directory place octets →
        ∃ matcher, parse (base ++ place) octets = .ok matcher) :
    ∃ files, discover parse root base selection = .ok files ∧
      ∀ file, file ∈ files ↔ selection.IsFound parse root base directory file := by
  obtain ⟨matchers, areRead, inForce⟩ := exists_readIgnoreFiles isEntry named avoids readable
  refine ⟨discoverIn selection base matchers directory, ?_, ?_⟩
  · simp only [discover, isEntry, Option.getD_some, areRead]
    rfl
  · intro file
    exact mem_discoverIn_iff_isFound named plain inForce

end Discovered

/-- A file that is found while all ignore files count is found where only one does. -/
theorem Selection.IsFound.rootOnly {selection : Selection} {parse : IgnoreParser}
    {root directory : FileTree} {base : FilePath} {file : SourceFile}
    (found : selection.IsFound parse root base directory file) :
    ({ selection with nestedIgnoreFiles := false } : Selection).IsFound parse root base directory
      file where
  reached := found.reached
  named := found.named
  entered := found.entered
  kept := by
    rintro matcher ⟨place, octets, loaded, isRead⟩
    exact found.kept matcher ⟨place, octets, loaded.nested _, isRead⟩
  included := found.included
  notExcluded := found.notExcluded

/-- What discovery has to give: by strictly ascending relative path, exactly the files that meet the
conditions. Every list of the entries gives the same, and counting the ignore files of the directory
alone takes no file away. -/
structure Selection.IsResult (selection : Selection) (parse : IgnoreParser) (root : FileTree)
    (base : FilePath) (directory : FileTree) (files : List SourceFile) : Prop where
  ascending : (files.map SourceFile.relativePath).Pairwise fun left right =>
    compare left right = .lt
  mem_iff : ∀ file, file ∈ files ↔ selection.IsFound parse root base directory file
  inAnyOrder : ∀ listed, directory.Enumerates listed →
    discoverAmong parse root base selection listed = .ok files
  rootOnly : ∃ more,
    discover parse root base { selection with nestedIgnoreFiles := false } = .ok more ∧ files ⊆ more

/-- In a tree as a file system has it, where the ignore files in force can be read, discovery gives
what it has to. -/
theorem discover_isResult {parse : IgnoreParser} {root directory : FileTree} {base : FilePath}
    {selection : Selection} (named : root.IsNamed) (avoids : root.AvoidsParent)
    (isEntry : root.entry? base = some directory)
    (plain : ∀ c ∈ selection.suffix.toList, Glob.IsPlain c)
    (readable : ∀ place octets,
      root.LoadsIgnoreFile base selection.nestedIgnoreFiles directory place octets →
        ∃ matcher, parse (base ++ place) octets = .ok matcher) :
    ∃ files, discover parse root base selection = .ok files ∧
      selection.IsResult parse root base directory files := by
  have namedBelow := FileTree.isInherited_isNamed.entry? named isEntry
  have avoidsBelow := FileTree.isInherited_avoidsParent.entry? avoids isEntry
  obtain ⟨files, discovered, mem_iff⟩ :=
    exists_discover_eq_ok isEntry namedBelow avoidsBelow plain readable
  refine ⟨files, discovered, ?_⟩
  constructor
  case ascending => exact pairwise_relativePaths_discover named discovered
  case mem_iff => exact mem_iff
  case inAnyOrder =>
    intro listed enumerates
    rw [discoverAmong_eq parse isEntry namedBelow avoidsBelow enumerates, discovered]
  case rootOnly =>
    have readableRoot : ∀ place octets, root.LoadsIgnoreFile base false directory place octets →
        ∃ matcher, parse (base ++ place) octets = .ok matcher :=
      fun place octets loaded => readable place octets (loaded.nested _)
    obtain ⟨more, discoveredMore, mem_more_iff⟩ :=
      @exists_discover_eq_ok parse root directory base { selection with nestedIgnoreFiles := false }
        isEntry namedBelow avoidsBelow plain readableRoot
    refine ⟨more, discoveredMore, ?_⟩
    intro file isFile
    exact (mem_more_iff file).2 ((mem_iff file).1 isFile).rootOnly

private def ignoringOctets : List UInt8 :=
  "b.py\n".toList.map fun c => c.val.toUInt8

/-- Two files, one of them ignored, and a link to the other. -/
private def linkedFiles : FileTree :=
  .directory [(".gitignore", .file ignoringOctets), ("link.py", .link "a.py"), ("b.py", .file []),
    ("a.py", .file [])]

private def ignoringFile : IgnoreFile :=
  ((IgnoreFile.read [] ignoringOctets).toOption).getD ⟨[], []⟩

private theorem parser_ignoringOctets :
    IgnoreFile.parser [] ignoringOctets = .ok ignoringFile.matcher := by
  have isOk : (IgnoreFile.read [] ignoringOctets).toOption.isSome = true := by decide +kernel
  unfold IgnoreFile.parser ignoringFile
  cases isRead : IgnoreFile.read [] ignoringOctets with
  | error error => simp [isRead, Except.toOption] at isOk
  | ok file => rfl

private theorem matcher_ignoringFile :
    ignoringFile.matcher ["a.py"] ≠ .ok true ∧ ignoringFile.matcher ["b.py"] = .ok true := by
  have answers : (ignoringFile.matcher ["a.py"]).toOption = some false ∧
      (ignoringFile.matcher ["b.py"]).toOption = some true := by decide +kernel
  constructor
  · intro ignored
    rw [ignored] at answers
    exact absurd answers.1 (by decide)
  · cases answer : ignoringFile.matcher ["b.py"] with
    | error error => simp [answer, Except.toOption] at answers
    | ok ignored => simpa [answer, Except.toOption] using answers.2

/-- With the reader of ignore files that the program runs with, the file that is not ignored is
found, in whatever order the entries are listed; the other one and the link are not. -/
theorem discover_linkedFiles :
    ∃ files, discover IgnoreFile.parser linkedFiles [] Config.standard.selection = .ok files ∧
      discoverAmong IgnoreFile.parser linkedFiles [] Config.standard.selection
          linkedFiles.paths.reverse = .ok files ∧
      ⟨["a.py"], []⟩ ∈ files ∧
      ∀ file ∈ files, file.path ≠ ["b.py"] ∧ file.path ≠ ["link.py"] := by
  have named : linkedFiles.IsNamed := by
    simp [linkedFiles, FileTree.IsNamed, FileTree.AreNamed]
  have avoids : linkedFiles.AvoidsParent := by
    simp [linkedFiles, FileTree.AvoidsParent, FileTree.AllAvoidParent]
  have isEntry : linkedFiles.entry? [] = some linkedFiles := by
    simp [FileTree.entry?, FileTree.follow, FileTree.at?]
  have plain : ∀ c ∈ ".py".toList, Glob.IsPlain c := by simp [Glob.IsPlain]
  have octets : linkedFiles.octets? [ignoreFileName] = some ignoringOctets := by
    simp [FileTree.octets?, FileTree.entry?, FileTree.follow, FileTree.at?, FileTree.child?,
      linkedFiles, ignoreFileName]
  have loaded {place : FilePath} {found : List UInt8}
      (isLoaded : linkedFiles.LoadsIgnoreFile [] false linkedFiles place found) :
      IgnoreFile.parser ([] ++ place) found = .ok ignoringFile.matcher := by
    obtain rfl := isLoaded.place_eq
    obtain rfl := Option.some.inj (isLoaded.isRead.symm.trans octets)
    exact parser_ignoringOctets
  have readable : ∀ place found,
      linkedFiles.LoadsIgnoreFile [] Config.standard.selection.nestedIgnoreFiles linkedFiles
          place found →
        ∃ matcher, IgnoreFile.parser ([] ++ place) found = .ok matcher :=
    fun _ _ isLoaded => ⟨ignoringFile.matcher, loaded isLoaded⟩
  have enumerates := FileTree.enumerates_of_perm named linkedFiles.paths.reverse_perm
  obtain ⟨files, discovered, isResult⟩ := discover_isResult named avoids isEntry plain readable
  refine ⟨files, discovered, isResult.inAnyOrder _ enumerates, (isResult.mem_iff _).2 ?_, ?_⟩
  · constructor
    case reached => rfl
    case named => exact ⟨"a.py", rfl, by decide⟩
    case entered => simp
    case kept =>
      rintro matcher ⟨place, found, isLoaded, isRead⟩
      obtain rfl := Except.ok.inj ((loaded isLoaded).symm.trans isRead)
      exact matcher_ignoringFile.1
    case included => exact Or.inl rfl
    case notExcluded => simp [Config.selection, Config.standard]
  · intro file isFile
    have found := (isResult.mem_iff file).1 isFile
    constructor
    · intro isIgnored
      have inForce : PathMatcher.IsInForce IgnoreFile.parser linkedFiles [] false linkedFiles
          ignoringFile.matcher :=
        ⟨[], ignoringOctets, ⟨Or.inl rfl, octets⟩, parser_ignoringOctets⟩
      apply found.kept _ inForce
      rw [isIgnored]
      exact matcher_ignoringFile.2
    · intro isLink
      have reached := found.reached
      have isThere : linkedFiles.at? ["link.py"] = some (.link "a.py") := rfl
      rw [isLink, isThere] at reached
      simp at reached

end Annotations
