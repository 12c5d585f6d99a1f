import Annotations.Glob
import Annotations.IgnoreParser
import Annotations.Text.Blank
import Annotations.Text.Utf8

/-!
Contract: ignore files, which name paths that discovery passes over.

A line is a pattern unless it is blank or starts with `#`. A pattern with a
slash before its end is tied to the directory of the ignore file, any other may
begin after every slash of a path. Where both kinds of rule match, those that
take a path back after `!` included, the last one decides. A line whose pattern
runs out of characters while it is read makes the whole file unreadable.

Owns:

- `IgnoreRule.ofLine?` and `IgnoreRule.accepts`;
- `IgnoreFile`, the rules of one file and the directory they hold for;
- `IgnoreFile.parser`, the reader of ignore files that the program runs with.
-/

namespace Annotations

inductive IgnoreItem where
  /-- Nothing, or any text of one line that ends with a slash. -/
  | folders
  /-- Any text of one line. -/
  | anything
  /-- Any text without a slash. -/
  | nameRun
  /-- A character that is no slash. -/
  | nameCharacter
  | oneOf (characters : CharacterSet)
  | character (c : Char)
deriving DecidableEq, Repr

structure IgnoreRule where
  /-- The rule takes paths back. -/
  negated : Bool
  directoryOnly : Bool
  /-- The pattern begins where the path does. -/
  anchored : Bool
  items : List IgnoreItem
deriving DecidableEq, Repr

namespace IgnoreRule

open Annotations.Text

/-! ## Reading a line -/

def starCount (text : List Char) : Nat :=
  (text.takeWhile (· == '*')).length

/-- Make one star of two or more that follow a character other than a slash. -/
def collapseAfter : List Char → List Char
  | [] => []
  | c :: rest =>
      if c ≠ '/' ∧ 2 ≤ starCount rest then
        c :: '*' :: collapseAfter (rest.drop (starCount rest))
      else c :: collapseAfter rest
termination_by text => text.length
decreasing_by
  · simp only [List.length_drop, List.length_cons]; omega
  · simp only [List.length_cons]; omega

/-- Make one star of two or more that precede a character other than a slash; of three or more, the
last is such a character itself. -/
def collapseBefore : List Char → List Char
  | [] => []
  | c :: rest =>
      let stars := starCount (c :: rest)
      if 2 ≤ stars then
        match rest.drop (stars - 1) with
        | next :: after =>
            if next ≠ '/' then '*' :: next :: collapseBefore (rest.drop stars)
            else if 3 ≤ stars then '*' :: '*' :: collapseBefore (rest.drop (stars - 1))
            else c :: collapseBefore rest
        | [] => if 3 ≤ stars then ['*', '*'] else c :: collapseBefore rest
      else c :: collapseBefore rest
termination_by text => text.length
decreasing_by
  all_goals simp only [List.length_drop, List.length_cons]; omega

def dropLeadingSlash : List Char → List Char
  | '/' :: rest => rest
  | text => text

def dropTrailingSlash (text : List Char) : List Char :=
  if text.getLast? = some '/' then text.dropLast else text

/-- The pattern itself, provided it has a character left. -/
def nonempty (pattern : List Char) : Except IgnoreError (List Char) :=
  if pattern.isEmpty then .error .exhaustedPattern else .ok pattern

def unescapeFirst : List Char → Except IgnoreError (List Char)
  | ['\\'] => .error .exhaustedPattern
  | '\\' :: c :: rest => .ok (if c = '#' ∨ c = '!' then c :: rest else '\\' :: c :: rest)
  | pattern => nonempty pattern

/-- Walk back over spaces from a place beyond the second character. A space after a backslash stays
and loses its backslash; spaces are dropped until such a one is met. -/
def trimSpaces (dropping : Bool) : Nat → List Char → List Char
  | place + 2, pattern =>
      if pattern[place + 2]? = some ' ' then
        if pattern[place + 1]? = some '\\' then
          trimSpaces false place (pattern.eraseIdx (place + 1))
        else
          trimSpaces dropping (place + 1) (if dropping then pattern.take (place + 2) else pattern)
      else pattern
  | _, pattern => pattern

/-- The ranges of a set: a hyphen between two characters makes one. -/
def rangesOf : List Char → List (Char × Char)
  | low :: '-' :: high :: rest => (low, high) :: rangesOf rest
  | c :: rest => (c, c) :: rangesOf rest
  | [] => []

/-- The set that the content of brackets stands for; slashes in it do not count. -/
def setOf (content : List Char) : Except IgnoreError CharacterSet :=
  match content.filter (· != '/') with
  | [] => .error .exhaustedPattern
  | '!' :: rest => .ok ⟨true, rangesOf rest⟩
  | characters => .ok ⟨false, rangesOf characters⟩

def readItems : List Char → Except IgnoreError (List IgnoreItem)
  | [] => .ok []
  | '*' :: '*' :: '/' :: rest => (readItems rest).map (.folders :: ·)
  | '*' :: '*' :: rest => (readItems rest).map (.anything :: ·)
  | '*' :: rest => (readItems rest).map (.nameRun :: ·)
  | '?' :: rest => (readItems rest).map (.nameCharacter :: ·)
  | '[' :: rest =>
      match _closed : bracketContent? rest with
      | some (content, after) => do
          let characters ← setOf content
          (readItems after).map (.oneOf characters :: ·)
      | none => (readItems rest).map (.character '[' :: ·)
  | c :: rest => (readItems rest).map (.character c :: ·)
termination_by text => text.length
decreasing_by
  all_goals simp only [List.length_cons]
  all_goals first
    | omega
    | exact Nat.lt_succ_of_lt (length_of_bracketContent? _closed)

def ofPattern (negated : Bool) (written : List Char) : Except IgnoreError IgnoreRule := do
  let pattern ← nonempty written
  let unrooted ← nonempty (dropLeadingSlash pattern)
  let startsAnywhere := ['*', '*'].isPrefixOf unrooted
  let named ← nonempty (if startsAnywhere then unrooted.drop 2 else unrooted)
  let inner ← nonempty (dropLeadingSlash named)
  let body ← unescapeFirst (dropTrailingSlash inner)
  let items ← readItems (trimSpaces true (body.length - 1) body)
  .ok
    { negated := negated
      directoryOnly := pattern.getLast? = some '/'
      anchored := !startsAnywhere && pattern.dropLast.contains '/'
      items := items }

/-- Read a line. Blank lines, comments and a lone slash are no rules. -/
def ofLine? (line : List Char) : Except IgnoreError (Option IgnoreRule) :=
  if (trim isBlank line).isEmpty || line.head? = some '#' then .ok none
  else
    let negated := line.head? = some '!'
    let pattern := collapseBefore (collapseAfter (if negated then line.drop 1 else line))
    if trimRight isBlank pattern = ['/'] then .ok none
    else (ofPattern negated pattern).map some

/-! ## Matching a path -/

def afterSlashes : List Char → List (List Char)
  | [] => []
  | c :: rest => if c = '/' then rest :: afterSlashes rest else afterSlashes rest

/-- What follows each slash of the first line of a text. -/
def afterFolders (text : List Char) : List (List Char) :=
  let line := text.takeWhile (· != '\n')
  let below := text.drop line.length
  (afterSlashes line).map (· ++ below)

def matchesItems (isEnd : List Char → Bool) : List IgnoreItem → List Char → Bool
  | [], text => isEnd text
  | .folders :: items, text => (text :: afterFolders text).any (matchesItems isEnd items)
  | .anything :: items, text => (afterRun (· != '\n') text).any (matchesItems isEnd items)
  | .nameRun :: items, text => (afterRun (· != '/') text).any (matchesItems isEnd items)
  | .nameCharacter :: items, text =>
      match text with
      | [] => false
      | c :: rest => c != '/' && matchesItems isEnd items rest
  | .oneOf characters :: items, text =>
      match text with
      | [] => false
      | c :: rest => characters.contains c && matchesItems isEnd items rest
  | .character expected :: items, text =>
      match text with
      | [] => false
      | c :: rest => c == expected && matchesItems isEnd items rest

/-- Nothing is left but perhaps a line feed. -/
def isTextEnd (text : List Char) : Bool :=
  text == [] || text == ['\n']

/-- Where a match of the rule may end. -/
def isEnd (rule : IgnoreRule) (text : List Char) : Bool :=
  if rule.directoryOnly then
    if rule.negated then text.head? = some '/' && isTextEnd (text.drop 1)
    else text.head? = some '/' || isTextEnd text
  else isTextEnd text

/-- The rule matches a path, given relative to the directory of the ignore file. -/
def accepts (rule : IgnoreRule) (path : List Char) : Bool :=
  let starts := if rule.anchored then [path] else path :: afterSlashes path
  starts.any (matchesItems rule.isEnd rule.items)

end IgnoreRule

/-- The rules of an ignore file, and the directory that holds it. -/
structure IgnoreFile where
  directory : List String
  rules : List IgnoreRule
deriving DecidableEq, Repr

namespace IgnoreFile

/-- The lines of a text. Carriage returns, alone or before a line feed, end lines too. -/
def lines (text : List Char) : List (List Char) :=
  (joinLineEnds text).splitOn '\n'
where
  /-- Write every line end as a line feed. -/
  joinLineEnds : List Char → List Char
    | '\r' :: '\n' :: rest => '\n' :: joinLineEnds rest
    | '\r' :: rest => '\n' :: joinLineEnds rest
    | c :: rest => c :: joinLineEnds rest
    | [] => []

def read (directory : List String) (octets : List UInt8) : Except IgnoreError IgnoreFile :=
  match Text.Utf8.decode? octets with
  | none => .error .notUtf8
  | some text => do
      let rules ← (lines text).mapM IgnoreRule.ofLine?
      .ok ⟨directory, rules.filterMap id⟩

def matcher (file : IgnoreFile) : PathMatcher := fun path =>
  match file.directory.isPrefixOf? path with
  | none => .error ⟨⟩
  | some below =>
      let text := ("/".intercalate below).toList
      .ok ((file.rules.reverse.find? fun rule => rule.accepts text).any fun rule => !rule.negated)

def parser : IgnoreParser := fun directory octets =>
  (read directory octets).map matcher

end IgnoreFile

end Annotations
