/-!
Contract: a snapshot of files, directories and symbolic links, and what paths
lead to in it.

A path is followed name by name. Links are replaced by their targets, relative
ones from the directory of the link and absolute ones from the root. A bounded
number of links is followed, so a circle of links leads nowhere.

Owns:

- `FileTree`, and entries below it;
- `FileTree.resolve`, the place a path denotes, whether something is there or
  not;
- building a tree entry by entry.
-/

namespace Annotations

/-- A file with its octets, a directory with its entries, or a symbolic link with its target. -/
inductive FileTree where
  | file (octets : List UInt8)
  | directory (entries : List (String × FileTree))
  | link (target : String)
deriving Repr

/-- The names that lead from the root, outermost first. -/
abbrev FilePath := List String

namespace FileTree

def child? (tree : FileTree) (name : String) : Option FileTree :=
  match tree with
  | .directory entries => entries.lookup name
  | _ => none

/-- The entry at a place, reached through directories only. -/
def at? (tree : FileTree) : FilePath → Option FileTree
  | [] => some tree
  | name :: rest => (tree.child? name).bind fun entry => entry.at? rest

/-- The names of a written path. Empty names and dots have no effect. -/
def namesOf (path : String) : List String :=
  ((path.toList.splitOn '/').map String.ofList).filter fun name => name != "" && name != "."

def isAbsolute (path : String) : Bool :=
  path.toList.head? = some '/'

def linkLimit : Nat := 40

/-- Follow names from a place. Two dots lead to the directory above; a name under which there is no
link leads below, whether it exists or not. -/
def follow (root : FileTree) : Nat → FilePath → List String → Option FilePath
  | _, place, [] => some place
  | links, place, name :: rest =>
      if name = ".." then root.follow links place.dropLast rest
      else
        match root.at? (place ++ [name]) with
        | some (.link target) =>
            match links with
            | 0 => none
            | links + 1 =>
                let start := if isAbsolute target then [] else place
                root.follow links start (namesOf target ++ rest)
        | _ => root.follow links (place ++ [name]) rest
termination_by links _ names => (links, names.length)

/-- The place that a written path denotes from a working directory. -/
def resolve (root : FileTree) (workingDirectory : FilePath) (path : String) : Option FilePath :=
  root.follow linkLimit (if isAbsolute path then [] else workingDirectory) (namesOf path)

/-- The entry at a place, with links followed. -/
def entry? (root : FileTree) (place : FilePath) : Option FileTree :=
  (root.follow linkLimit [] place).bind root.at?

/-- The octets of the file at a place, with links followed. -/
def octets? (root : FileTree) (place : FilePath) : Option (List UInt8) :=
  match root.entry? place with
  | some (.file octets) => some octets
  | _ => none

def isDirectory (root : FileTree) (place : FilePath) : Bool :=
  match root.entry? place with
  | some (.directory _) => true
  | _ => false

/-! ## Building -/

/-- Put an entry under a name, in the place of one that is there. -/
def insert (name : String) (entry : FileTree) :
    List (String × FileTree) → List (String × FileTree)
  | [] => [(name, entry)]
  | (other, old) :: rest =>
      if other = name then (name, entry) :: rest else (other, old) :: insert name entry rest

/-- Put an entry at a place, making the directories on the way. Where a directory is asked for and
one exists, it stays. -/
def put (entry : FileTree) : FilePath → FileTree → FileTree
  | [], old =>
      match entry, old with
      | .directory [], .directory entries => .directory entries
      | _, _ => entry
  | name :: rest, tree =>
      let entries :=
        match tree with
        | .directory entries => entries
        | _ => []
      let below := put entry rest ((entries.lookup name).getD (.directory []))
      .directory (insert name below entries)

end FileTree

end Annotations
