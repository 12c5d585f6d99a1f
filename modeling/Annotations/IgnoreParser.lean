import Annotations.FileTree

/-!
Contract: what discovery takes for granted about ignore files.

The reader of ignore files is a package of its own. Discovery hands it the place
and the octets of a file, and gets back what the file says of a path.

Owns:

- `PathMatcher` and `IgnoreParser`, the two sides of that package;
- the causes for which it gives no matcher.

Does not own:

- one such reader, see `Annotations.Ignore`.
-/

namespace Annotations

inductive IgnoreError where
  | notUtf8
  | exhaustedPattern
deriving DecidableEq, Repr

/-- The path is not below the directory of the ignore file. -/
structure OutsideDirectory where
deriving DecidableEq, Repr

/-- What an ignore file says of a path from the root: to pass over it or not, if it has a say. -/
abbrev PathMatcher := FilePath → Except OutsideDirectory Bool

/-- The matcher of an ignore file, given the directory that holds it and its octets. -/
abbrev IgnoreParser := FilePath → List UInt8 → Except IgnoreError PathMatcher

def PathMatcher.passesOver (matcher : PathMatcher) (path : FilePath) : Bool :=
  match matcher path with
  | .ok ignored => ignored
  | .error _ => false

end Annotations
