import Annotations.Text.Run

/-!
Contract: shell patterns over whole texts.

A star matches any text, a question mark any character, and brackets one of a
set of characters, or one outside it after `!`. An unclosed bracket stands for
itself, and so does a backslash. A path separator is a character like any other.

Owns:

- `CharacterSet`, also used by `Annotations.Ignore`;
- `Glob.parse` and `Glob.accepts`.
-/

namespace Annotations

/-- A set of characters: those in one of the ranges, or those in none. -/
structure CharacterSet where
  negated : Bool
  ranges : List (Char × Char)
deriving DecidableEq, Repr

def CharacterSet.contains (characters : CharacterSet) (c : Char) : Bool :=
  characters.negated != characters.ranges.any fun range => range.1 ≤ c && c ≤ range.2

/-- What stands between an opening bracket and the bracket that closes it, and what follows. The
closing bracket is the first one that does not come at once or right after `!`. -/
def bracketContent? (text : List Char) : Option (List Char × List Char) :=
  let lead :=
    match text with
    | '!' :: ']' :: _ => 2
    | '!' :: _ => 1
    | ']' :: _ => 1
    | _ => 0
  let content := (text.drop lead).takeWhile (· != ']')
  match text.drop (lead + content.length) with
  | ']' :: rest => some (text.take lead ++ content, rest)
  | _ => none

theorem length_of_bracketContent? {text content after : List Char}
    (closed : bracketContent? text = some (content, after)) : after.length < text.length := by
  unfold bracketContent? at closed
  simp only at closed
  split at closed
  · rename_i rest dropped
    have lengths := congrArg List.length dropped
    simp only [List.length_drop, List.length_cons] at lengths
    simp only [Option.some.injEq, Prod.mk.injEq] at closed
    rw [← closed.2]
    omega
  · simp at closed

inductive GlobItem where
  | star
  | anyCharacter
  | character (c : Char)
  | oneOf (characters : CharacterSet)
deriving DecidableEq, Repr

namespace Glob

/-! ## Sets in brackets -/

/-- Cut the content of brackets at the hyphens that make ranges: the first hyphen after at least
`least` characters, and from there on each at least two characters after the last. A hyphen at the
end stands for itself. -/
def chunks (least : Nat) (content : List Char) : List (List Char) :=
  let lead := content.take least
  let rest := content.drop least
  let upToHyphen := rest.takeWhile (· != '-')
  match _found : rest.drop upToHyphen.length with
  | '-' :: after =>
      if after.isEmpty then [lead ++ upToHyphen ++ ['-']]
      else (lead ++ upToHyphen) :: chunks 2 after
  | _ => [content]
termination_by content.length
decreasing_by
  have lengths := congrArg List.length _found
  simp only [rest, List.length_drop, List.length_cons] at lengths
  omega

/-- Join the chunks around ranges that hold no character, which vanish with their bounds. -/
def joinReversed : List (List Char) → List (List Char)
  | [] => []
  | chunk :: rest =>
      match joinReversed rest with
      | [] => [chunk]
      | next :: more =>
          match chunk.getLast?, next.head? with
          | some low, some high =>
              if high < low then (chunk.dropLast ++ next.drop 1) :: more else chunk :: next :: more
          | _, _ => chunk :: next :: more

/-- The ranges of chunks: each character by itself, and from the end of a chunk to the start of the
next. -/
def rangesOf : List (List Char) → List (Char × Char)
  | [] => []
  | chunk :: rest =>
      let between :=
        match chunk.getLast?, rest.head?.bind List.head? with
        | some low, some high => [(low, high)]
        | _, _ => []
      chunk.map (fun c => (c, c)) ++ between ++ rangesOf rest

def setOf (content : List Char) : CharacterSet :=
  let least := if content.head? = some '!' then 2 else 1
  match joinReversed (chunks least content) with
  | ('!' :: first) :: rest => ⟨true, rangesOf (first :: rest)⟩
  | parts => ⟨false, rangesOf parts⟩

/-! ## Patterns -/

def parse : List Char → List GlobItem
  | [] => []
  | '*' :: rest => .star :: parse rest
  | '?' :: rest => .anyCharacter :: parse rest
  | '[' :: rest =>
      match _closed : bracketContent? rest with
      | some (content, after) => .oneOf (setOf content) :: parse after
      | none => .character '[' :: parse rest
  | c :: rest => .character c :: parse rest
termination_by text => text.length
decreasing_by
  all_goals simp only [List.length_cons]
  all_goals first
    | omega
    | exact Nat.lt_succ_of_lt (length_of_bracketContent? _closed)

def matchesItems : List GlobItem → List Char → Bool
  | [], text => text.isEmpty
  | .star :: items, text => (Text.suffixes text).any (matchesItems items)
  | .anyCharacter :: items, text =>
      match text with
      | [] => false
      | _ :: rest => matchesItems items rest
  | .character expected :: items, text =>
      match text with
      | [] => false
      | c :: rest => c == expected && matchesItems items rest
  | .oneOf characters :: items, text =>
      match text with
      | [] => false
      | c :: rest => characters.contains c && matchesItems items rest

def accepts (pattern text : String) : Bool :=
  matchesItems (parse pattern.toList) text.toList

end Glob

end Annotations
