import Annotations.Proofs.Discovery

/-!
Contract: what is below a directory, told by the paths that lead to it.

The leaves that are listed of a tree are the entries at its paths that are no
directories. A path that is followed from the root goes through real directories
as it is written; only where it meets a link does it lead elsewhere.

Owns:
- `FileTree.mem_leaves_iff`, the leaves of a tree by their paths;
- `FileTree.AvoidsParent`, that no entry has the name of the directory above;
- `FileTree.follow_append` and `FileTree.follow_of_at?`;
- `FileTree.octets?_append_of_at?`, the octets at a path below a place.

Does not own: which of the entries are source files to be found; see
`Annotations.Proofs.Discovery.Selection`.
-/

namespace Annotations.FileTree

/-! ## Paths into a tree -/

theorem at?_append (tree : FileTree) (front back : FilePath) :
    tree.at? (front ++ back) = (tree.at? front).bind fun entry => entry.at? back := by
  induction front generalizing tree with
  | nil => rfl
  | cons name rest inductionHypothesis =>
      rw [List.cons_append, at?, at?, Option.bind_assoc]
      exact Option.bind_congr fun entry _ => inductionHypothesis entry

theorem at?_cons_eq_some_iff {tree entry : FileTree} {name : String} {rest : FilePath} :
    tree.at? (name :: rest) = some entry ↔
      ∃ child, tree.child? name = some child ∧ child.at? rest = some entry := by
  rw [at?, Option.bind_eq_some_iff]

def isLeaf : FileTree → Bool
  | .directory _ => false
  | _ => true

theorem at?_eq_some_of_isLeaf {leaf entry : FileTree} (isLeaf : leaf.isLeaf = true)
    {path : FilePath} (reached : leaf.at? path = some entry) : path = [] ∧ entry = leaf := by
  cases path with
  | nil => exact ⟨rfl, (Option.some.inj reached).symm⟩
  | cons name rest =>
      obtain ⟨child, isChild, -⟩ := at?_cons_eq_some_iff.1 reached
      cases leaf <;> contradiction

theorem mem_leaves_of_isLeaf {leaf : FileTree} (isLeaf : leaf.isLeaf = true) (path : FilePath)
    {listed : FilePath × FileTree} :
    listed ∈ [(path, leaf)] ↔
      ∃ names, listed.1 = path ++ names ∧ leaf.at? names = some listed.2 ∧
        listed.2.isLeaf = true := by
  rw [List.mem_singleton]
  constructor
  · rintro rfl
    exact ⟨[], (List.append_nil path).symm, rfl, isLeaf⟩
  · rintro ⟨names, isPath, reached, -⟩
    obtain ⟨rfl, isEntry⟩ := at?_eq_some_of_isLeaf isLeaf reached
    exact Prod.ext (isPath.trans (List.append_nil path)) isEntry

mutual

/-- The leaves of a tree are the entries at its paths that hold no others. -/
theorem mem_leaves_iff (path : FilePath) : ∀ tree : FileTree, tree.IsNamed →
    ∀ {listed : FilePath × FileTree}, listed ∈ leaves path tree ↔
      ∃ names, listed.1 = path ++ names ∧ tree.at? names = some listed.2 ∧
        listed.2.isLeaf = true
  | .file _, _, _ => mem_leaves_of_isLeaf rfl path
  | .link _, _, _ => mem_leaves_of_isLeaf rfl path
  | .directory entries, named, listed => by
      rw [leaves, mem_leavesOfAll_iff path entries named.1 named.2]
      constructor
      · rintro ⟨name, names, isPath, reached, isLeaf⟩
        exact ⟨name :: names, isPath, reached, isLeaf⟩
      · rintro ⟨names, isPath, reached, isLeaf⟩
        cases names with
        | nil =>
            rw [← Option.some.inj reached] at isLeaf
            contradiction
        | cons name names => exact ⟨name, names, isPath, reached, isLeaf⟩

theorem mem_leavesOfAll_iff (path : FilePath) : ∀ entries : List (String × FileTree),
    (entries.map Prod.fst).Nodup → AreNamed entries →
      ∀ {listed : FilePath × FileTree}, listed ∈ leavesOfAll path entries ↔
        ∃ name names, listed.1 = path ++ name :: names ∧
          ((entries.lookup name).bind fun entry => entry.at? names) = some listed.2 ∧
          listed.2.isLeaf = true
  | [], _, _, listed => by simp [leavesOfAll]
  | (first, entry) :: rest, distinct, named, listed => by
      obtain ⟨-, isNamed, namedRest⟩ := named
      obtain ⟨isNew, distinctRest⟩ := List.nodup_cons.1 distinct
      rw [leavesOfAll, List.mem_append, mem_leaves_iff (path ++ [first]) entry isNamed,
        mem_leavesOfAll_iff path rest distinctRest namedRest]
      simp only [List.lookup_cons]
      constructor
      · rintro (⟨names, isPath, reached, isLeaf⟩ | ⟨name, names, isPath, reached, isLeaf⟩)
        · refine ⟨first, names, ?_, by simpa using reached, isLeaf⟩
          rw [isPath, List.append_assoc, List.singleton_append]
        · obtain ⟨other, isOther, -⟩ := Option.bind_eq_some_iff.1 reached
          obtain ⟨before, after, rfl, -⟩ := List.lookup_eq_some_iff.1 isOther
          have otherName : name ≠ first := by
            rintro rfl
            simp at isNew
          refine ⟨name, names, isPath, ?_, isLeaf⟩
          rwa [beq_false_of_ne otherName]
      · rintro ⟨name, names, isPath, reached, isLeaf⟩
        by_cases isFirst : name = first
        · subst isFirst
          rw [beq_self_eq_true] at reached
          refine Or.inl ⟨names, ?_, reached, isLeaf⟩
          rw [isPath, List.append_assoc, List.singleton_append]
        · rw [beq_false_of_ne isFirst] at reached
          exact Or.inr ⟨name, names, isPath, reached, isLeaf⟩

end

theorem mem_leaves_nil_iff {tree : FileTree} (named : tree.IsNamed) {path : FilePath}
    {entry : FileTree} :
    (path, entry) ∈ tree.leaves [] ↔ tree.at? path = some entry ∧ entry.isLeaf = true := by
  rw [mem_leaves_iff [] tree named]
  constructor
  · rintro ⟨names, rfl, reached, isLeaf⟩
    exact ⟨reached, isLeaf⟩
  · rintro ⟨reached, isLeaf⟩
    exact ⟨path, rfl, reached, isLeaf⟩

/-! ## Names that lead back -/

mutual

/-- No entry has the name of two dots, by which the directory above is meant. -/
def AvoidsParent : FileTree → Prop
  | .file _ => True
  | .directory entries => AllAvoidParent entries
  | .link _ => True

def AllAvoidParent : List (String × FileTree) → Prop
  | [] => True
  | (name, entry) :: rest => name ≠ ".." ∧ entry.AvoidsParent ∧ AllAvoidParent rest

end

theorem AllAvoidParent.of_mem {entries : List (String × FileTree)}
    (avoid : AllAvoidParent entries) :
    ∀ listed ∈ entries, listed.1 ≠ ".." ∧ listed.2.AvoidsParent := by
  induction entries with
  | nil => simp
  | cons first rest inductionHypothesis =>
      exact List.forall_mem_cons.2 ⟨⟨avoid.1, avoid.2.1⟩, inductionHypothesis avoid.2.2⟩

theorem isInherited_avoidsParent : IsInherited AvoidsParent :=
  fun _ avoid listed isListed => (AllAvoidParent.of_mem avoid listed isListed).2

/-- What is granted of every name in a directory holds of all names on a path. -/
theorem forall_mem_of_at? {holds : FileTree → Prop} (inherited : IsInherited holds)
    {granted : String → Prop}
    (names : ∀ entries, holds (.directory entries) → ∀ listed ∈ entries, granted listed.1)
    {tree : FileTree} (ofTree : holds tree) {path : FilePath} (reached : (tree.at? path).isSome) :
    ∀ name ∈ path, granted name := by
  induction path generalizing tree with
  | nil => simp
  | cons name rest inductionHypothesis =>
      obtain ⟨entry, isEntry⟩ := Option.isSome_iff_exists.1 reached
      obtain ⟨child, isChild, isBelow⟩ := at?_cons_eq_some_iff.1 isEntry
      have ofChild := inherited.child? ofTree isChild
      refine List.forall_mem_cons.2 ⟨?_, inductionHypothesis ofChild (by simp [isBelow])⟩
      cases tree with
      | file octets => contradiction
      | link target => contradiction
      | directory entries =>
          obtain ⟨before, after, rfl, -⟩ := List.lookup_eq_some_iff.1 isChild
          exact names _ ofTree (name, child) (List.mem_append_right _ List.mem_cons_self)

theorem AvoidsParent.notMem {tree : FileTree} (avoids : tree.AvoidsParent) {path : FilePath}
    (reached : (tree.at? path).isSome) : ".." ∉ path := by
  have names : ∀ name ∈ path, name ≠ ".." := by
    refine forall_mem_of_at? isInherited_avoidsParent ?_ avoids reached
    intro entries avoid listed isListed
    exact (AllAvoidParent.of_mem avoid listed isListed).1
  exact fun isName => names ".." isName rfl

theorem AreNamed.noSlash {entries : List (String × FileTree)} (named : AreNamed entries) :
    ∀ listed ∈ entries, '/' ∉ listed.1.toList := by
  induction entries with
  | nil => simp
  | cons first rest inductionHypothesis =>
      exact List.forall_mem_cons.2 ⟨named.1, inductionHypothesis named.2.2⟩

theorem IsNamed.noSlash {tree : FileTree} (named : tree.IsNamed) {path : FilePath}
    (reached : (tree.at? path).isSome) : ∀ name ∈ path, '/' ∉ name.toList :=
  forall_mem_of_at? isInherited_isNamed (fun _ named => named.2.noSlash) named reached

/-! ## Following a path -/

/-- A path that can be followed is followed first wherever it is continued. -/
theorem follow_append {root : FileTree} {links : Nat} {place target : FilePath}
    {names : List String} (followed : root.follow links place names = some target) :
    ∃ left, ∀ more, root.follow links place (names ++ more) = root.follow left target more := by
  fun_induction FileTree.follow root links place names with
  | case1 links place =>
      obtain rfl := Option.some.inj followed
      exact ⟨links, fun more => rfl⟩
  | case2 links place rest inductionHypothesis =>
      obtain ⟨left, continued⟩ := inductionHypothesis followed
      refine ⟨left, ?_⟩
      intro more
      rw [List.cons_append, follow, if_pos rfl, continued]
  | case3 => contradiction
  | case4 place name rest isName link isLink links start inductionHypothesis =>
      obtain ⟨left, continued⟩ := inductionHypothesis followed
      refine ⟨left, ?_⟩
      intro more
      rw [List.cons_append, follow, if_neg isName, isLink, ← continued more, List.append_assoc]
      rfl
  | case5 links place name rest isName noLink inductionHypothesis =>
      obtain ⟨left, continued⟩ := inductionHypothesis followed
      refine ⟨left, ?_⟩
      intro more
      rw [List.cons_append, follow, if_neg isName, ← continued more]
      split
      next link isLink => exact absurd isLink (noLink link)
      next => rfl

def isLink : FileTree → Bool
  | .link _ => true
  | _ => false

theorem follow_cons_of_at? {root entry : FileTree} {place : FilePath} {name : String}
    (isEntry : root.at? (place ++ [name]) = some entry) (notLink : entry.isLink = false)
    (isName : name ≠ "..") (links : Nat) (rest : List String) :
    root.follow links place (name :: rest) = root.follow links (place ++ [name]) rest := by
  rw [follow, if_neg isName, isEntry]
  cases entry with
  | file octets => rfl
  | directory entries => rfl
  | link target => contradiction

/-- A path of real directories leads to where it is written. -/
theorem follow_of_at? {root directory entry : FileTree} {place path : FilePath}
    (isDirectory : root.at? place = some directory) (reached : directory.at? path = some entry)
    (notLink : entry.isLink = false) (noParent : ".." ∉ path) (links : Nat) :
    root.follow links place path = some (place ++ path) := by
  induction path generalizing directory place with
  | nil => rw [follow, List.append_nil]
  | cons name rest inductionHypothesis =>
      have isName : name ≠ ".." := fun same => noParent (same ▸ List.mem_cons_self)
      have noParentBelow : ".." ∉ rest := fun isBelow => noParent (List.mem_cons_of_mem _ isBelow)
      obtain ⟨child, isChild, isBelow⟩ := at?_cons_eq_some_iff.1 reached
      have isAt : root.at? (place ++ [name]) = some child := by
        rw [at?_append, isDirectory]
        simp [at?, isChild]
      have childNotLink : child.isLink = false := by
        cases child with
        | file octets => rfl
        | directory entries => rfl
        | link target =>
            -- A link holds nothing, so it could only be the entry itself.
            rw [(at?_eq_some_of_isLeaf rfl isBelow).2] at notLink
            exact notLink
      rw [follow_cons_of_at? isAt childNotLink isName,
        inductionHypothesis isAt isBelow noParentBelow, List.append_assoc, List.singleton_append]

/-! ## Entries below a place -/

section Below

variable {root directory : FileTree} {base : FilePath}

/-- The entry at a place is real: the place is reached after some links, if any. -/
theorem exists_place_of_entry? (isEntry : root.entry? base = some directory) :
    ∃ place left, root.follow linkLimit [] base = some place ∧ root.at? place = some directory ∧
      ∀ more, root.follow linkLimit [] (base ++ more) = root.follow left place more := by
  obtain ⟨place, followed, isAt⟩ := Option.bind_eq_some_iff.1 isEntry
  obtain ⟨left, continued⟩ := follow_append followed
  exact ⟨place, left, followed, isAt, continued⟩

theorem entry?_append_of_at? (isEntry : root.entry? base = some directory) {path : FilePath}
    {entry : FileTree} (reached : directory.at? path = some entry)
    (notLink : entry.isLink = false) (noParent : ".." ∉ path) :
    root.entry? (base ++ path) = some entry := by
  obtain ⟨place, left, -, isAt, continued⟩ := exists_place_of_entry? isEntry
  unfold entry?
  rw [continued, follow_of_at? isAt reached notLink noParent, Option.bind_some, at?_append, isAt]
  exact reached

/-- Where nothing is listed under a name, no file can be read. -/
theorem octets?_append_of_child?_none (isEntry : root.entry? base = some directory) {name : String}
    (absent : directory.child? name = none) (isName : name ≠ "..") :
    root.octets? (base ++ [name]) = none := by
  obtain ⟨place, left, -, isAt, continued⟩ := exists_place_of_entry? isEntry
  have notThere : root.at? (place ++ [name]) = none := by
    rw [at?_append, isAt]
    simp [at?, absent]
  have followed : root.follow left place [name] = some (place ++ [name]) := by
    rw [follow, if_neg isName, notThere]
    simp [follow]
  rw [octets?, entry?, continued, followed, Option.bind_some, notThere]

/-- A file that is reached through real directories is read where it is written. -/
theorem octets?_append_of_isFile (isEntry : root.entry? base = some directory) {path : FilePath}
    {octets : List UInt8} (reached : directory.at? path = some (.file octets))
    (noParent : ".." ∉ path) : root.octets? (base ++ path) = some octets := by
  rw [octets?, entry?_append_of_at? isEntry reached rfl noParent]

theorem octets?_append_of_directory (isEntry : root.entry? base = some directory) {path : FilePath}
    {entries : List (String × FileTree)} (reached : directory.at? path = some (.directory entries))
    (noParent : ".." ∉ path) : root.octets? (base ++ path) = none := by
  rw [octets?, entry?_append_of_at? isEntry reached rfl noParent]

/-- Where a file is read, a leaf is listed: the file itself or a link to one. -/
theorem isLeaf_of_octets? (isEntry : root.entry? base = some directory)
    (avoids : directory.AvoidsParent) {path : FilePath} {entry : FileTree}
    (reached : directory.at? path = some entry)
    (isRead : (root.octets? (base ++ path)).isSome = true) : entry.isLeaf = true := by
  cases entry with
  | file octets => rfl
  | link target => rfl
  | directory entries =>
      have noParent := avoids.notMem (Option.isSome_of_eq_some reached)
      rw [octets?_append_of_directory isEntry reached noParent] at isRead
      contradiction

theorem exists_leaf_of_octets?_name (isEntry : root.entry? base = some directory)
    (avoids : directory.AvoidsParent) {name : String} (isName : name ≠ "..")
    (isRead : (root.octets? (base ++ [name])).isSome = true) :
    ∃ entry, directory.at? [name] = some entry ∧ entry.isLeaf = true := by
  cases isChild : directory.child? name with
  | none =>
      rw [octets?_append_of_child?_none isEntry isChild isName] at isRead
      contradiction
  | some entry =>
      have reached : directory.at? [name] = some entry :=
        at?_cons_eq_some_iff.2 ⟨entry, isChild, rfl⟩
      exact ⟨entry, reached, isLeaf_of_octets? isEntry avoids reached isRead⟩

end Below

end Annotations.FileTree
