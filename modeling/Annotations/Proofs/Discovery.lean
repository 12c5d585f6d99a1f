import Mathlib.Data.List.Nodup
import Annotations.Repository
import Annotations.Proofs.Sorting
import Annotations.Proofs.Text.Runs

/-!
Contract: source files are told apart by their relative paths.

In a tree as a file system has it, the names in a directory differ and hold no
slash. So no path leads to two files, and since names can be read off again
between slashes, no two files have the same relative path. This makes the units
of a repository distinct, and leaves them one order.

Owns:
- `FileTree.IsNamed` and `FileTree.IsProper`, what a file system grants of a tree;
- `FileTree.IsInherited`, for what holds of a tree and of all that is in it;
- `pairwise_relativePaths_discover` and `nodup_relativePaths_discover`, for the
  files that are found.

Does not own: which files are selected.
-/

namespace Annotations

namespace FileTree

mutual

def IsNamed : FileTree → Prop
  | .file _ => True
  | .directory entries => (entries.map Prod.fst).Nodup ∧ AreNamed entries
  | .link _ => True

def AreNamed : List (String × FileTree) → Prop
  | [] => True
  | (name, entry) :: rest => '/' ∉ name.toList ∧ entry.IsNamed ∧ AreNamed rest

end

mutual

/-- The names in a directory are distinct and hold no slash, and the size of a file is a signed
machine integer. -/
def IsProper : FileTree → Prop
  | .file octets => octets.length < 0x8000000000000000
  | .directory entries => (entries.map Prod.fst).Nodup ∧ AreProper entries
  | .link _ => True

def AreProper : List (String × FileTree) → Prop
  | [] => True
  | (name, entry) :: rest => '/' ∉ name.toList ∧ entry.IsProper ∧ AreProper rest

end

mutual

theorem IsProper.isNamed : ∀ {tree : FileTree}, tree.IsProper → tree.IsNamed
  | .file _, _ => trivial
  | .directory _, proper => ⟨proper.1, proper.2.areNamed⟩
  | .link _, _ => trivial

theorem AreProper.areNamed : ∀ {entries : List (String × FileTree)},
    AreProper entries → AreNamed entries
  | [], _ => trivial
  | _ :: _, ⟨noSlash, proper, properRest⟩ => ⟨noSlash, proper.isNamed, properRest.areNamed⟩

end

/-! ## What is in a tree -/

/-- What holds of a directory holds of its entries. -/
def IsInherited (holds : FileTree → Prop) : Prop :=
  ∀ entries, holds (.directory entries) → ∀ listed ∈ entries, holds listed.2

theorem AreNamed.of_mem {entries : List (String × FileTree)} (named : AreNamed entries) :
    ∀ listed ∈ entries, listed.2.IsNamed := by
  induction entries with
  | nil => simp
  | cons first rest inductionHypothesis =>
      exact List.forall_mem_cons.2 ⟨named.2.1, inductionHypothesis named.2.2⟩

theorem AreProper.of_mem {entries : List (String × FileTree)} (proper : AreProper entries) :
    ∀ listed ∈ entries, listed.2.IsProper := by
  induction entries with
  | nil => simp
  | cons first rest inductionHypothesis =>
      exact List.forall_mem_cons.2 ⟨proper.2.1, inductionHypothesis proper.2.2⟩

theorem isInherited_isNamed : IsInherited IsNamed := fun _ named => named.2.of_mem

theorem isInherited_isProper : IsInherited IsProper := fun _ proper => proper.2.of_mem

namespace IsInherited

variable {holds : FileTree → Prop}

theorem child? (inherited : IsInherited holds) {tree entry : FileTree} {name : String}
    (ofTree : holds tree) (isChild : tree.child? name = some entry) : holds entry := by
  cases tree with
  | file octets => contradiction
  | link target => contradiction
  | directory entries =>
      obtain ⟨before, after, rfl, -⟩ := List.lookup_eq_some_iff.1 isChild
      exact inherited _ ofTree (name, entry) (List.mem_append_right _ List.mem_cons_self)

theorem at? (inherited : IsInherited holds) {tree entry : FileTree} {place : FilePath}
    (ofTree : holds tree) (isAt : tree.at? place = some entry) : holds entry := by
  induction place generalizing tree with
  | nil => exact Option.some.inj isAt ▸ ofTree
  | cons name rest inductionHypothesis =>
      obtain ⟨child, isChild, isBelow⟩ := Option.bind_eq_some_iff.1 isAt
      exact inductionHypothesis (inherited.child? ofTree isChild) isBelow

theorem entry? (inherited : IsInherited holds) {root entry : FileTree} {place : FilePath}
    (ofRoot : holds root) (isEntry : root.entry? place = some entry) : holds entry := by
  obtain ⟨target, -, isAt⟩ := Option.bind_eq_some_iff.1 isEntry
  exact inherited.at? ofRoot isAt

mutual

theorem leaves (inherited : IsInherited holds) (path : FilePath) : ∀ tree : FileTree, holds tree →
    ∀ listed ∈ tree.leaves path, holds listed.2
  | .file octets, ofTree, listed, isListed => by
      obtain rfl := List.mem_singleton.1 isListed
      exact ofTree
  | .link target, ofTree, listed, isListed => by
      obtain rfl := List.mem_singleton.1 isListed
      exact ofTree
  | .directory entries, ofTree, listed, isListed => by
      rw [FileTree.leaves] at isListed
      exact leavesOfAll inherited path entries (inherited entries ofTree) listed isListed

theorem leavesOfAll (inherited : IsInherited holds) (path : FilePath) :
    ∀ entries : List (String × FileTree), (∀ listed ∈ entries, holds listed.2) →
      ∀ listed ∈ FileTree.leavesOfAll path entries, holds listed.2
  | [], _, listed, isListed => by simp [FileTree.leavesOfAll] at isListed
  | (name, entry) :: rest, ofEntries, listed, isListed => by
      obtain ⟨ofEntry, ofRest⟩ := List.forall_mem_cons.1 ofEntries
      rw [FileTree.leavesOfAll] at isListed
      rcases List.mem_append.1 isListed with inEntry | inRest
      · exact leaves inherited (path ++ [name]) entry ofEntry listed inEntry
      · exact leavesOfAll inherited path rest ofRest listed inRest

end

end IsInherited

/-! ## Leaves -/

/-- What is listed below a path: names without slashes lead to it. -/
structure IsBelow (path : FilePath) (listed : FilePath × FileTree) (names : List String) :
    Prop where
  path : listed.1 = path ++ names
  apart : ∀ name ∈ names, '/' ∉ name.toList

mutual

theorem isBelow_leaves (path : FilePath) : ∀ tree : FileTree, tree.IsNamed →
    ∀ listed ∈ leaves path tree, ∃ names, IsBelow path listed names
  | .file octets, _, listed, isListed => by
      obtain rfl := List.mem_singleton.1 isListed
      exact ⟨[], by simp, by simp⟩
  | .link target, _, listed, isListed => by
      obtain rfl := List.mem_singleton.1 isListed
      exact ⟨[], by simp, by simp⟩
  | .directory entries, named, listed, isListed => by
      rw [leaves] at isListed
      obtain ⟨name, names, below, -⟩ := isBelow_leavesOfAll path entries named.2 listed isListed
      exact ⟨name :: names, below⟩

/-- What is listed of a directory lies below one of its names. -/
theorem isBelow_leavesOfAll (path : FilePath) : ∀ entries : List (String × FileTree),
    AreNamed entries → ∀ listed ∈ leavesOfAll path entries,
      ∃ name names, IsBelow path listed (name :: names) ∧ name ∈ entries.map Prod.fst
  | [], _, listed, isListed => by simp [leavesOfAll] at isListed
  | (name, entry) :: rest, named, listed, isListed => by
      obtain ⟨noSlash, isNamed, namedRest⟩ := named
      rw [leavesOfAll] at isListed
      rcases List.mem_append.1 isListed with inEntry | inRest
      · obtain ⟨names, below⟩ := isBelow_leaves (path ++ [name]) entry isNamed listed inEntry
        refine ⟨name, names, ⟨?_, ?_⟩, List.mem_cons_self⟩
        · rw [below.path, List.append_assoc, List.singleton_append]
        · exact List.forall_mem_cons.2 ⟨noSlash, below.apart⟩
      · obtain ⟨other, names, below, isName⟩ :=
          isBelow_leavesOfAll path rest namedRest listed inRest
        exact ⟨other, names, below, List.mem_cons_of_mem _ isName⟩

end

mutual

theorem nodup_paths_leaves (path : FilePath) : ∀ tree : FileTree, tree.IsNamed →
    ((leaves path tree).map Prod.fst).Nodup
  | .file octets, _ => by simp [leaves]
  | .link target, _ => by simp [leaves]
  | .directory entries, named => by
      rw [leaves]
      exact nodup_paths_leavesOfAll path entries named.1 named.2

/-- No path is listed twice: two entries of a directory part at their names. -/
theorem nodup_paths_leavesOfAll (path : FilePath) : ∀ entries : List (String × FileTree),
    (entries.map Prod.fst).Nodup → AreNamed entries →
      ((leavesOfAll path entries).map Prod.fst).Nodup
  | [], _, _ => by simp [leavesOfAll]
  | (name, entry) :: rest, distinct, named => by
      obtain ⟨noSlash, isNamed, namedRest⟩ := named
      obtain ⟨isNew, distinctRest⟩ := List.nodup_cons.1 distinct
      rw [leavesOfAll, List.map_append, List.nodup_append]
      refine ⟨nodup_paths_leaves _ entry isNamed,
        nodup_paths_leavesOfAll path rest distinctRest namedRest, ?_⟩
      -- A path below two entries would begin with the names of both.
      rintro first inEntry second inRest rfl
      obtain ⟨listed, isListed, rfl⟩ := List.mem_map.1 inEntry
      obtain ⟨names, below⟩ := isBelow_leaves (path ++ [name]) entry isNamed listed isListed
      obtain ⟨other, isOther, samePath⟩ := List.mem_map.1 inRest
      obtain ⟨otherName, otherNames, otherBelow, isName⟩ :=
        isBelow_leavesOfAll path rest namedRest other isOther
      rw [below.path, otherBelow.path, List.append_assoc, List.append_cancel_left_eq] at samePath
      exact isNew (List.head_eq_of_cons_eq samePath ▸ isName)

end

end FileTree

/-! ## Relative paths -/

/-- Names without slashes are read off again between slashes. -/
theorem splitOn_relativePath {file : SourceFile} (nonempty : file.path ≠ [])
    (apart : ∀ name ∈ file.path, '/' ∉ name.toList) :
    file.relativePath.toList.splitOn '/' = file.path.map String.toList := by
  exact Text.splitOn_intercalate_names rfl nonempty apart

structure SourceFile.IsNamed (file : SourceFile) : Prop where
  nonempty : file.path ≠ []
  apart : ∀ name ∈ file.path, '/' ∉ name.toList

/-- What a file system grants of a file below a directory. -/
structure SourceFile.IsProper (file : SourceFile) : Prop extends file.IsNamed where
  size : file.octets.length < 0x8000000000000000

theorem SourceFile.IsNamed.path_eq {file other : SourceFile} (named : file.IsNamed)
    (otherNamed : other.IsNamed) (same : file.relativePath = other.relativePath) :
    file.path = other.path := by
  have parts := splitOn_relativePath named.nonempty named.apart
  rw [same, splitOn_relativePath otherNamed.nonempty otherNamed.apart] at parts
  exact ((List.map_inj_right fun _ _ => String.toList_inj.1).1 parts).symm

theorem mem_filesBelow_iff {tree : FileTree} {file : SourceFile} :
    file ∈ filesBelow tree ↔ (file.path, .file file.octets) ∈ tree.leaves [] := by
  unfold filesBelow
  rw [List.mem_filterMap]
  constructor
  · rintro ⟨⟨path, leaf⟩, isListed, ofLeaf⟩
    cases leaf with
    | file octets =>
        obtain rfl := Option.some.inj ofLeaf
        exact isListed
    | directory entries => contradiction
    | link target => contradiction
  · intro isListed
    exact ⟨_, isListed, rfl⟩

theorem filesBelow_isNamed {entries : List (String × FileTree)}
    (named : (FileTree.directory entries).IsNamed) :
    ∀ file ∈ filesBelow (.directory entries), file.IsNamed := by
  intro file isFile
  have isListed := mem_filesBelow_iff.1 isFile
  rw [FileTree.leaves] at isListed
  obtain ⟨name, names, below, -⟩ := FileTree.isBelow_leavesOfAll [] entries named.2 _ isListed
  have isPath : file.path = name :: names := below.path
  exact ⟨by simp [isPath], isPath ▸ below.apart⟩

theorem filesBelow_isProper {entries : List (String × FileTree)}
    (proper : (FileTree.directory entries).IsProper) :
    ∀ file ∈ filesBelow (.directory entries), file.IsProper := by
  intro file isFile
  have ofLeaf := FileTree.isInherited_isProper.leaves [] _ proper _ (mem_filesBelow_iff.1 isFile)
  exact ⟨filesBelow_isNamed proper.isNamed file isFile, ofLeaf⟩

theorem nodup_paths_filesBelow {tree : FileTree} (named : tree.IsNamed) :
    ((filesBelow tree).map SourceFile.path).Nodup := by
  refine (FileTree.nodup_paths_leaves [] tree named).sublist ?_
  unfold filesBelow
  induction tree.leaves [] with
  | nil => simp
  | cons listed rest inductionHypothesis =>
      obtain ⟨path, leaf⟩ := listed
      cases leaf with
      | file octets => exact inductionHypothesis.cons_cons path
      | directory entries => exact inductionHypothesis.cons path
      | link target => exact inductionHypothesis.cons path

theorem nodup_relativePaths_filesBelow {tree : FileTree} (named : tree.IsNamed) :
    ((filesBelow tree).map SourceFile.relativePath).Nodup := by
  have distinct := nodup_paths_filesBelow named
  cases tree with
  | file octets => simp [filesBelow, FileTree.leaves]
  | link target => simp [filesBelow, FileTree.leaves]
  | directory entries =>
      rw [List.Nodup, List.pairwise_map] at distinct ⊢
      refine distinct.imp_of_mem ?_
      intro file other isFile isOther different same
      exact different ((filesBelow_isNamed named file isFile).path_eq
        (filesBelow_isNamed named other isOther) same)

/-! ## Found files -/

section Found

variable {selection : Selection} {base : FilePath} {matchers : List PathMatcher}
  {directory : FileTree}

theorem mem_discoverIn_iff {file : SourceFile} :
    file ∈ discoverIn selection base matchers directory ↔
      file ∈ filesBelow directory ∧ selection.selects base matchers file = true := by
  unfold discoverIn
  rw [List.mem_mergeSort, List.mem_filter]

/-- The files that are found below a directory have relative paths of their own, in their order. -/
theorem pairwise_relativePaths_discoverIn (named : directory.IsNamed) :
    ((discoverIn selection base matchers directory).map SourceFile.relativePath).Pairwise
      fun left right => compare left right = .lt := by
  have distinct :
      ((discoverIn selection base matchers directory).map SourceFile.relativePath).Nodup := by
    unfold discoverIn
    rw [((List.mergeSort_perm _ _).map SourceFile.relativePath).nodup_iff]
    exact (nodup_relativePaths_filesBelow named).sublist
      (List.filter_sublist.map SourceFile.relativePath)
  have ascending := pairwise_mergeSort_compare SourceFile.relativePath
    ((filesBelow directory).filter (selection.selects base matchers))
  exact ((List.pairwise_map.2 ascending).and distinct).imp fun both =>
    compare_eq_lt_of_ne both.1 both.2

end Found

section Discovered

variable {parse : IgnoreParser} {root : FileTree} {base : FilePath} {selection : Selection}
  {files : List SourceFile}

theorem exists_matchers_of_discover (found : discover parse root base selection = .ok files) :
    ∃ matchers,
      files = discoverIn selection base matchers ((root.entry? base).getD (.directory [])) := by
  unfold discover at found
  cases read : readIgnoreFiles parse root base selection.nestedIgnoreFiles
      ((root.entry? base).getD (.directory [])) with
  | error error => simp [read, bind, Except.bind] at found
  | ok matchers =>
      simp only [read, bind, Except.bind, Except.ok.injEq] at found
      exact ⟨matchers, found.symm⟩

/-- No two files that are found have the same relative path. -/
theorem pairwise_relativePaths_discover (named : root.IsNamed)
    (found : discover parse root base selection = .ok files) :
    (files.map SourceFile.relativePath).Pairwise fun left right => compare left right = .lt := by
  obtain ⟨matchers, rfl⟩ := exists_matchers_of_discover found
  apply pairwise_relativePaths_discoverIn
  cases isEntry : root.entry? base with
  | none => exact ⟨List.nodup_nil, trivial⟩
  | some entry => exact FileTree.isInherited_isNamed.entry? named isEntry

/-- The files that are found below a directory have relative paths of their own. -/
theorem nodup_relativePaths_discover (proper : root.IsProper)
    (isDirectory : root.isDirectory base = true)
    (found : discover parse root base selection = .ok files) :
    (files.map SourceFile.relativePath).Nodup ∧ ∀ file ∈ files, file.IsProper := by
  constructor
  · exact nodup_of_pairwise_lt (pairwise_relativePaths_discover proper.isNamed found)
  · unfold FileTree.isDirectory at isDirectory
    split at isDirectory
    next entries isEntry =>
      have properEntry := FileTree.isInherited_isProper.entry? proper isEntry
      obtain ⟨matchers, rfl⟩ := exists_matchers_of_discover found
      rw [isEntry, Option.getD_some]
      intro file isFile
      exact filesBelow_isProper properEntry file (mem_discoverIn_iff.1 isFile).1
    next => contradiction

end Discovered

theorem map_unitId_toUnit (files : List SourceFile) :
    (files.map SourceFile.toUnit).map SourceUnit.unitId = files.map SourceFile.relativePath := by
  rw [List.map_map]
  rfl

end Annotations
