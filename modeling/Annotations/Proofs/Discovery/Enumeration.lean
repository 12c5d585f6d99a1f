import Annotations.Proofs.Discovery.Places

/-!
Contract: the files that are found do not depend on the order in which entries
are listed.

A directory may list what is below it in any order, each entry once, without
going into links. Picking the files from such a list, each with the checks that
are made on its place, and sorting them gives what `discover` finds; so does
picking the ignore files.

Owns:
- `FileTree.Enumerates`, the lists of what is below a directory, and
  `FileTree.paths`, one of them;
- `discoverAmong`, discovery among listed entries;
- `discoverAmong_eq`.

Does not own: which files these are; see `Annotations.Proofs.Discovery.Selection`.
-/

namespace Annotations

/-- The list has every path below a directory, each once. Links are among them, but nothing that
they lead to. -/
structure FileTree.Enumerates (directory : FileTree) (listed : List FilePath) : Prop where
  distinct : listed.Nodup
  mem_iff : ∀ path, path ∈ listed ↔ path ≠ [] ∧ (directory.at? path).isSome = true

namespace FileTree

mutual

/-- The paths of all entries of a directory, each before those below it. -/
def paths : FileTree → List FilePath
  | .directory entries => pathsOfAll entries
  | _ => []

def pathsOfAll : List (String × FileTree) → List FilePath
  | [] => []
  | (name, entry) :: rest => ([] :: paths entry).map (name :: ·) ++ pathsOfAll rest

end

/-- A path begins with the name of an entry. -/
theorem exists_cons_of_mem_pathsOfAll {entries : List (String × FileTree)} {path : FilePath}
    (isPath : path ∈ pathsOfAll entries) :
    ∃ name below, path = name :: below ∧ name ∈ entries.map Prod.fst := by
  induction entries with
  | nil => simp [pathsOfAll] at isPath
  | cons listed rest inductionHypothesis =>
      obtain ⟨first, entry⟩ := listed
      rw [pathsOfAll] at isPath
      rcases List.mem_append.1 isPath with inEntry | inRest
      · obtain ⟨below, -, rfl⟩ := List.mem_map.1 inEntry
        exact ⟨first, below, rfl, List.mem_cons_self⟩
      · obtain ⟨name, below, rfl, isName⟩ := inductionHypothesis inRest
        exact ⟨name, below, rfl, List.mem_cons_of_mem _ isName⟩

mutual

theorem mem_paths_iff : ∀ tree : FileTree, tree.IsNamed → ∀ {path : FilePath},
    path ∈ tree.paths ↔ path ≠ [] ∧ (tree.at? path).isSome = true
  | .file octets, _, path => by cases path <;> simp [paths, at?, child?]
  | .link target, _, path => by cases path <;> simp [paths, at?, child?]
  | .directory entries, named, path => by
      rw [paths]
      cases path with
      | nil =>
          refine iff_of_false ?_ (fun isPath => isPath.1 rfl)
          intro isPath
          obtain ⟨name, below, isCons, -⟩ := exists_cons_of_mem_pathsOfAll isPath
          contradiction
      | cons name below =>
          rw [mem_pathsOfAll_iff entries named.1 named.2]
          exact (and_iff_right (List.cons_ne_nil name below)).symm

theorem mem_pathsOfAll_iff : ∀ entries : List (String × FileTree),
    (entries.map Prod.fst).Nodup → AreNamed entries → ∀ {name : String} {below : FilePath},
      name :: below ∈ pathsOfAll entries ↔
        ((entries.lookup name).bind fun entry => entry.at? below).isSome = true
  | [], _, _, name, below => by simp [pathsOfAll]
  | (first, entry) :: rest, distinct, named, name, below => by
      obtain ⟨-, isNamed, namedRest⟩ := named
      obtain ⟨isNew, distinctRest⟩ := List.nodup_cons.1 distinct
      rw [pathsOfAll, List.mem_append, List.lookup_cons]
      by_cases isFirst : name = first
      · subst isFirst
        have notInRest : name :: below ∉ pathsOfAll rest := by
          intro inRest
          obtain ⟨other, more, same, isName⟩ := exists_cons_of_mem_pathsOfAll inRest
          exact isNew (List.head_eq_of_cons_eq same ▸ isName)
        have inEntry : name :: below ∈ ([] :: paths entry).map (name :: ·) ↔
            below ∈ [] :: paths entry := by simp
        rw [inEntry, List.mem_cons, mem_paths_iff entry isNamed, or_iff_left notInRest,
          beq_self_eq_true]
        cases below with
        | nil => simp [at?]
        | cons next more => simp
      · have notInEntry : name :: below ∉ ([] :: paths entry).map (first :: ·) := by
          intro inFirst
          obtain ⟨_, -, same⟩ := List.mem_map.1 inFirst
          exact isFirst (List.cons.inj same).1.symm
        rw [or_iff_right notInEntry, mem_pathsOfAll_iff rest distinctRest namedRest,
          beq_false_of_ne isFirst]

end

mutual

theorem nodup_paths : ∀ tree : FileTree, tree.IsNamed → tree.paths.Nodup
  | .file _, _ => List.nodup_nil
  | .link _, _ => List.nodup_nil
  | .directory entries, named => by
      rw [paths]
      exact nodup_pathsOfAll entries named.1 named.2

theorem nodup_pathsOfAll : ∀ entries : List (String × FileTree),
    (entries.map Prod.fst).Nodup → AreNamed entries → (pathsOfAll entries).Nodup
  | [], _, _ => List.nodup_nil
  | (first, entry) :: rest, distinct, named => by
      obtain ⟨-, isNamed, namedRest⟩ := named
      obtain ⟨isNew, distinctRest⟩ := List.nodup_cons.1 distinct
      have noRoot : [] ∉ paths entry := fun isPath => ((mem_paths_iff entry isNamed).1 isPath).1 rfl
      have inEntry : ([] :: paths entry).Nodup :=
        List.nodup_cons.2 ⟨noRoot, nodup_paths entry isNamed⟩
      rw [pathsOfAll, List.nodup_append]
      refine ⟨inEntry.map fun _ _ same => (List.cons.inj same).2,
        nodup_pathsOfAll rest distinctRest namedRest, ?_⟩
      rintro path inFirst _ inRest rfl
      obtain ⟨below, -, rfl⟩ := List.mem_map.1 inFirst
      obtain ⟨name, more, same, isName⟩ := exists_cons_of_mem_pathsOfAll inRest
      exact isNew (List.head_eq_of_cons_eq same ▸ isName)

end

/-- Every directory can be listed, in any rearrangement of its paths. -/
theorem enumerates_of_perm {directory : FileTree} (named : directory.IsNamed)
    {listed : List FilePath} (permuted : listed.Perm directory.paths) :
    directory.Enumerates listed where
  distinct := permuted.nodup_iff.2 (nodup_paths directory named)
  mem_iff := fun _ => permuted.mem_iff.trans (mem_paths_iff directory named)

end FileTree

/-! ## Discovery among listed entries -/

def ignoreFilesAmong (root : FileTree) (base : FilePath) (nested : Bool) (listed : List FilePath) :
    List FilePath :=
  let candidates := [ignoreFileName] ::
    if nested then listed.filter fun path => path.getLast? = some ignoreFileName else []
  let present := candidates.filter fun place => (root.octets? (base ++ place)).isSome
  present.eraseDups.mergeSort fun left right =>
    (compare ("/".intercalate left) ("/".intercalate right)).isLE

def readIgnoreFilesAmong (parse : IgnoreParser) (root : FileTree) (base : FilePath) (nested : Bool)
    (listed : List FilePath) : Except IgnoreError (List PathMatcher) :=
  let files := (ignoreFilesAmong root base nested listed).filterMap fun place =>
    (root.octets? (base ++ place)).map fun octets => (place.dropLast, octets)
  files.mapM fun (place, octets) => parse (base ++ place) octets

/-- A path leads to a place below that of the directory. -/
def FileTree.resolvesInside (root : FileTree) (base path : FilePath) : Bool :=
  match root.follow linkLimit [] base, root.follow linkLimit [] (base ++ path) with
  | some top, some place => top.isPrefixOf place
  | _, _ => false

/-- The file at a listed path, if it is one, is no link, lies inside and is selected. -/
def Selection.pick? (selection : Selection) (root : FileTree) (base : FilePath)
    (matchers : List PathMatcher) (path : FilePath) : Option SourceFile :=
  let isLink := (((root.entry? base).bind fun directory => directory.at? path).map
    FileTree.isLink).getD false
  if isLink then none
  else
    match root.octets? (base ++ path) with
    | none => none
    | some octets =>
        if root.resolvesInside base path && selection.selects base matchers ⟨path, octets⟩ then
          some ⟨path, octets⟩
        else none

def discoverAmong (parse : IgnoreParser) (root : FileTree) (base : FilePath)
    (selection : Selection) (listed : List FilePath) : Except IgnoreError (List SourceFile) := do
  let matchers ← readIgnoreFilesAmong parse root base selection.nestedIgnoreFiles listed
  .ok ((listed.filterMap (selection.pick? root base matchers)).mergeSort fun left right =>
    (compare left.relativePath right.relativePath).isLE)

/-! ## Picking the files -/

theorem mem_filesBelow_iff_at? {tree : FileTree} (named : tree.IsNamed) {file : SourceFile} :
    file ∈ filesBelow tree ↔ tree.at? file.path = some (.file file.octets) := by
  rw [mem_filesBelow_iff, FileTree.mem_leaves_nil_iff named]
  exact and_iff_left rfl

section Listed

variable {root directory : FileTree} {base : FilePath} {listed : List FilePath}

/-- A file that is reached through real directories lies inside. -/
theorem FileTree.resolvesInside_of_at? (isEntry : root.entry? base = some directory)
    {path : FilePath} {entry : FileTree} (reached : directory.at? path = some entry)
    (notLink : entry.isLink = false) (noParent : ".." ∉ path) :
    root.resolvesInside base path = true := by
  obtain ⟨place, left, followed, isAt, continued⟩ := exists_place_of_entry? isEntry
  unfold resolvesInside
  rw [continued, follow_of_at? isAt reached notLink noParent, followed]
  exact List.isPrefixOf_iff_prefix.2 (List.prefix_append place path)

theorem Selection.path_of_pick? (selection : Selection) {matchers : List PathMatcher}
    {path : FilePath} {file : SourceFile}
    (picked : selection.pick? root base matchers path = some file) : file.path = path := by
  unfold pick? at picked
  simp only at picked
  split at picked
  · contradiction
  · split at picked
    · contradiction
    · split at picked
      · rw [← Option.some.inj picked]
      · contradiction

/-- What is picked at a listed path is the file there, if it is selected. -/
theorem Selection.pick?_eq_some_iff (selection : Selection) (matchers : List PathMatcher)
    (isEntry : root.entry? base = some directory) (avoids : directory.AvoidsParent)
    {path : FilePath} (isListed : (directory.at? path).isSome = true) {file : SourceFile} :
    selection.pick? root base matchers path = some file ↔
      file.path = path ∧ directory.at? path = some (.file file.octets) ∧
        selection.selects base matchers file = true := by
  have noParent := avoids.notMem isListed
  obtain ⟨entry, reached⟩ := Option.isSome_iff_exists.1 isListed
  obtain ⟨filePath, octets⟩ := file
  unfold pick?
  rw [isEntry, Option.bind_some, reached, Option.map_some, Option.getD_some]
  cases entry with
  | link target => simp [FileTree.isLink]
  | directory entries =>
      simp [FileTree.isLink, FileTree.octets?_append_of_directory isEntry reached noParent]
  | file found =>
      have inside := FileTree.resolvesInside_of_at? isEntry reached rfl noParent
      simp only [FileTree.isLink, FileTree.octets?_append_of_isFile isEntry reached noParent,
        inside, Bool.true_and, Bool.false_eq_true, if_false, Option.ite_none_right_eq_some,
        Option.some.injEq, SourceFile.mk.injEq, FileTree.file.injEq]
      constructor
      · rintro ⟨isSelected, rfl, rfl⟩
        exact ⟨rfl, rfl, isSelected⟩
      · rintro ⟨rfl, rfl, isSelected⟩
        exact ⟨isSelected, rfl, rfl⟩

/-- The files picked among listed entries are the selected files below the directory. -/
theorem Selection.filterMap_pick?_perm (selection : Selection) (matchers : List PathMatcher)
    (isEntry : root.entry? base = some directory) (named : directory.IsNamed)
    (avoids : directory.AvoidsParent) (enumerates : directory.Enumerates listed) :
    (listed.filterMap (selection.pick? root base matchers)).Perm
      ((filesBelow directory).filter (selection.selects base matchers)) := by
  have picked : (listed.filterMap (selection.pick? root base matchers)).Nodup := by
    refine enumerates.distinct.filterMap ?_
    intro path other file ofPath ofOther
    exact (selection.path_of_pick? ofPath).symm.trans (selection.path_of_pick? ofOther)
  have below : (filesBelow directory).Nodup := .of_map _ (nodup_paths_filesBelow named)
  rw [List.perm_ext_iff_of_nodup picked (below.filter _)]
  intro file
  rw [List.mem_filterMap, List.mem_filter, mem_filesBelow_iff_at? named]
  constructor
  · rintro ⟨path, isListed, ofPath⟩
    obtain ⟨rfl, isFile, isSelected⟩ := (selection.pick?_eq_some_iff matchers isEntry avoids
      ((enumerates.mem_iff path).1 isListed).2).1 ofPath
    exact ⟨isFile, isSelected⟩
  · rintro ⟨isFile, isSelected⟩
    have reached : (directory.at? file.path).isSome = true := by rw [isFile]; rfl
    refine ⟨file.path, (enumerates.mem_iff _).2 ⟨?_, reached⟩, ?_⟩
    · -- A file that is selected has a name, so it is not the directory itself.
      intro isRoot
      simp [selects, acceptsName, isRoot] at isSelected
    · exact (selection.pick?_eq_some_iff matchers isEntry avoids reached).2
        ⟨rfl, isFile, isSelected⟩

/-! ## Picking the ignore files -/

theorem mem_ignoreFilesAmong_iff {nested : Bool} {place : FilePath} :
    place ∈ ignoreFilesAmong root base nested listed ↔
      (place = [ignoreFileName] ∨
        nested = true ∧ place ∈ listed ∧ place.getLast? = some ignoreFileName) ∧
        (root.octets? (base ++ place)).isSome = true := by
  unfold ignoreFilesAmong
  rw [List.mem_mergeSort, List.mem_eraseDups, List.mem_filter, List.mem_cons]
  cases nested <;> simp

theorem mem_ignoreFilePlaces_iff (named : directory.IsNamed) {nested : Bool} {place : FilePath} :
    place ∈ ignoreFilePlaces nested directory ↔
      if nested then
        (∃ entry, directory.at? place = some entry ∧ entry.isLeaf = true) ∧
          place.getLast? = some ignoreFileName
      else place = [ignoreFileName] := by
  unfold ignoreFilePlaces
  cases nested with
  | false => simp
  | true => simp [FileTree.mem_leaves_nil_iff named]

/-- A place that is read is no directory, so all ignore files among the entries are leaves. -/
theorem mem_ignoreFilesAmong_iff_mem_places (isEntry : root.entry? base = some directory)
    (named : directory.IsNamed) (avoids : directory.AvoidsParent)
    (enumerates : directory.Enumerates listed) {nested : Bool} {place : FilePath} :
    place ∈ ignoreFilesAmong root base nested listed ↔
      place ∈ ignoreFilePlaces nested directory ∧
        (root.octets? (base ++ place)).isSome = true := by
  rw [mem_ignoreFilesAmong_iff, mem_ignoreFilePlaces_iff named]
  refine and_congr_left ?_
  intro isRead
  cases nested with
  | false => simp
  | true =>
      simp only [if_true, true_and]
      constructor
      · rintro (rfl | ⟨isListed, isIgnoreFile⟩)
        · exact ⟨FileTree.exists_leaf_of_octets?_name isEntry avoids (by decide) isRead, rfl⟩
        · obtain ⟨entry, reached⟩ :=
            Option.isSome_iff_exists.1 ((enumerates.mem_iff place).1 isListed).2
          exact ⟨⟨entry, reached, FileTree.isLeaf_of_octets? isEntry avoids reached isRead⟩,
            isIgnoreFile⟩
      · rintro ⟨⟨entry, reached, -⟩, isIgnoreFile⟩
        refine Or.inr ⟨(enumerates.mem_iff place).2 ⟨?_, by simp [reached]⟩, isIgnoreFile⟩
        rintro rfl
        contradiction

theorem nodup_ignoreFilePlaces (named : directory.IsNamed) (nested : Bool) :
    (ignoreFilePlaces nested directory).Nodup := by
  unfold ignoreFilePlaces
  cases nested with
  | false => simp
  | true => exact (FileTree.nodup_paths_leaves [] directory named).filter _

/-- The places of ignore files are told apart by their paths. -/
theorem isNamed_of_mem_ignoreFilePlaces (named : directory.IsNamed) {nested : Bool}
    {place : FilePath} (isPlace : place ∈ ignoreFilePlaces nested directory) :
    (⟨place, []⟩ : SourceFile).IsNamed := by
  rw [mem_ignoreFilePlaces_iff named] at isPlace
  cases nested with
  | false =>
      obtain rfl : place = [ignoreFileName] := isPlace
      exact ⟨nofun, by decide⟩
  | true =>
      obtain ⟨⟨entry, reached, -⟩, isIgnoreFile⟩ := isPlace
      refine ⟨?_, named.noSlash (Option.isSome_of_eq_some reached)⟩
      rintro rfl
      contradiction

/-- The ignore files in force are those that are picked among listed entries. -/
theorem ignoreFilesAmong_eq (isEntry : root.entry? base = some directory)
    (named : directory.IsNamed) (avoids : directory.AvoidsParent)
    (enumerates : directory.Enumerates listed) (nested : Bool) :
    ignoreFilesAmong root base nested listed =
      (((ignoreFilePlaces nested directory).mergeSort fun left right =>
        (compare ("/".intercalate left) ("/".intercalate right)).isLE).filter fun place =>
          (root.octets? (base ++ place)).isSome) := by
  have filtered := ((isStableSort_mergeSort (compareOn fun place => "/".intercalate place)
    (ignoreFilePlaces nested directory)).filter fun place =>
      (root.octets? (base ++ place)).isSome).unique (isStableSort_mergeSort _ _)
  refine Eq.trans ?_ filtered.symm
  have distinct : (ignoreFilesAmong root base nested listed).Nodup :=
    (List.mergeSort_perm _ _).nodup_iff.2 (nodup_eraseDups _)
  have permuted : (ignoreFilesAmong root base nested listed).Perm
      ((ignoreFilePlaces nested directory).filter fun place =>
        (root.octets? (base ++ place)).isSome) := by
    rw [List.perm_ext_iff_of_nodup distinct ((nodup_ignoreFilePlaces named nested).filter _)]
    intro place
    rw [mem_ignoreFilesAmong_iff_mem_places isEntry named avoids enumerates, List.mem_filter]
  refine mergeSort_eq_of_perm (fun place => "/".intercalate place)
    ((List.mergeSort_perm _ _).symm.trans permuted) ?_
  intro first isFirst second isSecond same
  have isNamed {place : FilePath} (isPlace : place ∈ ignoreFilesAmong root base nested listed) :
      (⟨place, []⟩ : SourceFile).IsNamed :=
    isNamed_of_mem_ignoreFilePlaces named (List.mem_filter.1 (permuted.mem_iff.1 isPlace)).1
  exact (isNamed (List.mem_mergeSort.2 isFirst)).path_eq (isNamed (List.mem_mergeSort.2 isSecond))
    same

theorem readIgnoreFilesAmong_eq (parse : IgnoreParser) (isEntry : root.entry? base = some directory)
    (named : directory.IsNamed) (avoids : directory.AvoidsParent)
    (enumerates : directory.Enumerates listed) (nested : Bool) :
    readIgnoreFilesAmong parse root base nested listed =
      readIgnoreFiles parse root base nested directory := by
  unfold readIgnoreFilesAmong readIgnoreFiles
  simp only [ignoreFilesAmong_eq isEntry named avoids enumerates, List.filterMap_filter]
  congr 2
  funext place
  cases root.octets? (base ++ place) <;> rfl

/-- Whatever the order in which the entries are listed, discovery finds the same files. -/
theorem discoverAmong_eq (parse : IgnoreParser) (isEntry : root.entry? base = some directory)
    (named : directory.IsNamed) (avoids : directory.AvoidsParent)
    (enumerates : directory.Enumerates listed) (selection : Selection) :
    discoverAmong parse root base selection listed = discover parse root base selection := by
  unfold discoverAmong discover
  rw [readIgnoreFilesAmong_eq parse isEntry named avoids enumerates, isEntry, Option.getD_some]
  congr 1
  funext matchers
  have permuted :=
    selection.filterMap_pick?_perm matchers isEntry named avoids enumerates
  refine congrArg Except.ok (mergeSort_eq_of_perm SourceFile.relativePath permuted ?_)
  intro first isFirst second isSecond same
  have toldApart := List.inj_on_of_nodup_map (nodup_relativePaths_filesBelow named)
  exact toldApart (List.mem_filter.1 (permuted.mem_iff.1 isFirst)).1
    (List.mem_filter.1 (permuted.mem_iff.1 isSecond)).1 same

end Listed

end Annotations
