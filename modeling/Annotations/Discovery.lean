import Annotations.Glob
import Annotations.IgnoreParser
import Annotations.ModuleName

/-!
Contract: the source files below a directory.

A file counts if it is reached through directories alone, its name ends as asked
for, no directory on its way is skipped, no ignore file in force passes over it,
some include pattern accepts its relative path, where any are given, and no
exclude pattern does.

Owns:

- `Selection`, what to look for, and `discover`.

The reader of ignore files is a parameter.

Does not own:

- the patterns, see `Annotations.Glob`;
- what an ignore file says, see `Annotations.IgnoreParser`.
-/

namespace Annotations

/-- Directories that hold no sources of the project. -/
def skippedDirectories : List String :=
  [".git", ".hg", ".venv", "__pycache__", ".tox", ".nox"]

structure Selection where
  included : List String
  excluded : List String
  nestedIgnoreFiles : Bool
  suffix : String
deriving DecidableEq, Repr

/-- A source file: the names below the directory searched, and its octets. -/
structure SourceFile where
  path : FilePath
  octets : List UInt8
deriving DecidableEq, Repr

namespace SourceFile

def relativePath (file : SourceFile) : String :=
  "/".intercalate file.path

def moduleName (file : SourceFile) : String :=
  Annotations.moduleName file.relativePath

end SourceFile

namespace FileTree

mutual

/-- The entries below a directory that are no directories, with the names that lead to them; links
are not followed. -/
def leaves (path : FilePath) : FileTree → List (FilePath × FileTree)
  | .directory entries => leavesOfAll path entries
  | leaf => [(path, leaf)]

def leavesOfAll (path : FilePath) : List (String × FileTree) → List (FilePath × FileTree)
  | [] => []
  | (name, entry) :: rest => leaves (path ++ [name]) entry ++ leavesOfAll path rest

end

end FileTree

/-- The regular files below a directory, reached through directories alone. -/
def filesBelow (tree : FileTree) : List SourceFile :=
  (tree.leaves []).filterMap fun (path, leaf) =>
    match leaf with
    | .file octets => some ⟨path, octets⟩
    | _ => none

/-! ## Ignore files -/

def ignoreFileName : String := ".gitignore"

/-- The places of the ignore files in force: that of the directory itself, or those of all
directories below as well. -/
def ignoreFilePlaces (nested : Bool) (directory : FileTree) : List FilePath :=
  if nested then
    ((directory.leaves []).map Prod.fst).filter fun path => path.getLast? = some ignoreFileName
  else [[ignoreFileName]]

/-- Read the ignore files in force, by ascending path. A place that holds no file, links followed,
is passed over. -/
def readIgnoreFiles (parse : IgnoreParser) (root : FileTree) (base : FilePath) (nested : Bool)
    (directory : FileTree) : Except IgnoreError (List PathMatcher) :=
  let places := (ignoreFilePlaces nested directory).mergeSort fun left right =>
    (compare ("/".intercalate left) ("/".intercalate right)).isLE
  let files := places.filterMap fun place =>
    (root.octets? (base ++ place)).map fun octets => (place.dropLast, octets)
  files.mapM fun (place, octets) => parse (base ++ place) octets

/-! ## Selection -/

namespace Selection

def acceptsName (selection : Selection) (file : SourceFile) : Bool :=
  file.path.getLast?.any (Glob.accepts ("*" ++ selection.suffix))

def acceptsPath (selection : Selection) (file : SourceFile) : Bool :=
  let accepts (pattern : String) : Bool := Glob.accepts pattern file.relativePath
  (selection.included.isEmpty || selection.included.any accepts) && !selection.excluded.any accepts

/-- The file below a place is selected, given what the ignore files in force say. -/
def selects (selection : Selection) (base : FilePath) (matchers : List PathMatcher)
    (file : SourceFile) : Bool :=
  selection.acceptsName file &&
    !(file.path.dropLast.any (skippedDirectories.contains ·)) &&
    !(matchers.any fun matcher => matcher.passesOver (base ++ file.path)) &&
    selection.acceptsPath file

end Selection

/-- The selected files below a directory, by ascending relative path. -/
def discoverIn (selection : Selection) (base : FilePath) (matchers : List PathMatcher)
    (directory : FileTree) : List SourceFile :=
  ((filesBelow directory).filter (selection.selects base matchers)).mergeSort fun left right =>
    (compare left.relativePath right.relativePath).isLE

def discover (parse : IgnoreParser) (root : FileTree) (base : FilePath) (selection : Selection) :
    Except IgnoreError (List SourceFile) := do
  let directory := (root.entry? base).getD (.directory [])
  let matchers ← readIgnoreFiles parse root base selection.nestedIgnoreFiles directory
  .ok (discoverIn selection base matchers directory)

end Annotations
