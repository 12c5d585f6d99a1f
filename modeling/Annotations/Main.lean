import Annotations.CommandLine
import Annotations.Ignore

/-!
Contract: the program around the command.

The directory to analyse is read into a snapshot, with the contents of the files
that the analysis may read. Everything else is decided by
`Annotations.CommandLine`. Units are analysed in order, and no log is written.

Owns:

- reading a directory, printing an outcome, and `main`.
-/

namespace Annotations.CommandLine

/-- The contents of a file, or a link that leads nowhere where it cannot be read. -/
def readContents (entry : IO.FS.DirEntry) : IO FileTree := do
  try
    .file <$> ByteArray.toList <$> IO.FS.readBinFile entry.path
  catch _ => return .link ""

/-- The target of a link, with the contents of a file where the analysis may read them. -/
def readLink (entry : IO.FS.DirEntry) : IO FileTree := do
  if readsContents entry.fileName && !Glob.accepts "*.py" entry.fileName then readContents entry
  else
    try
      .link <$> toString <$> IO.FS.realPath entry.path
    catch _ => return .link ""

/-- The snapshot of an entry of a directory. -/
partial def readEntry (entry : IO.FS.DirEntry) : IO FileTree := do
  match (← entry.path.symlinkMetadata).type with
  | .dir =>
      let entries ← entry.path.readDir
      .directory <$> entries.toList.mapM fun inner => do
        return (inner.fileName, ← readEntry inner)
  | .symlink => readLink entry
  | .file => if readsContents entry.fileName then readContents entry else return .file []
  | .other => return .link ""

/-- The place that the argument of the command denotes, and the snapshot of what is there. -/
def readPlace (directory : String) : IO (FilePath × FileTree) := do
  let workingDirectory := FileTree.namesOf (toString (← IO.FS.realPath "."))
  try
    let path ← IO.FS.realPath (if directory = "" then "." else directory)
    let entries ← path.readDir
    let read ← entries.toList.mapM fun entry => do return (entry.fileName, ← readEntry entry)
    return (FileTree.namesOf (toString path), .directory read)
  catch _ =>
    let nothing : FileTree := .directory []
    return ((nothing.resolve workingDirectory directory).getD workingDirectory, .file [])

def printOutcome (outcome : Outcome) : IO UInt32 := do
  IO.print outcome.output
  IO.eprint outcome.errorOutput
  return UInt32.ofNat outcome.exitCode

end Annotations.CommandLine

open Annotations in
def main (arguments : List String) : IO UInt32 := do
  match CommandLine.Arguments.parse arguments with
  | .error _ =>
      IO.eprintln CommandLine.CommandError.usage.message
      return 2
  | .ok (subcommand, read) =>
      let (place, tree) ← CommandLine.readPlace read.directory
      let root := FileTree.put tree place (.directory [])
      let command := CommandLine.executeAt IgnoreFile.parser .inOrder root
      match command place subcommand read with
      | .ok outcome => CommandLine.printOutcome outcome
      | .error error =>
          IO.eprintln error.message
          return 1
