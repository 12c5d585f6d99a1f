import Annotations.Toml.Scalar

/-!
Contract: TOML 1.0 documents.

A document is a sequence of statements: assignments, headers of tables and
headers of list items. What has been defined in one way may not be extended in
another: a table is opened by one header only, and inline tables and lists are
complete where they stand.

Owns:

- lists, inline tables and dotted keys;
- the marks that keep definitions apart;
- `Toml.parse?`.
-/

namespace Annotations.Toml

abbrev KeyPath := List String

/-! ## Tables within tables -/

/-- Change the table that keys lead to, making the tables on the way. A list on the way stands for
its last item, if lists may be entered. -/
def updateAt (entersLists : Bool) (change : Table → Option Table) :
    KeyPath → Table → Option Table
  | [], table => change table
  | key :: rest, table =>
      match (table.get? key).getD (.table []) with
      | .table inner =>
          (updateAt entersLists change rest inner).map fun inner => table.set key (.table inner)
      | .list items =>
          match entersLists, items.getLast? with
          | true, some (.table inner) =>
              (updateAt entersLists change rest inner).map fun inner =>
                table.set key (.list (items.dropLast ++ [.table inner]))
          | _, _ => none
      | _ => none

def addKey (key : String) (value : Setting) (table : Table) : Option Table :=
  if (table.get? key).isSome then none else some (table.set key value)

def addItem (key : String) (table : Table) : Option Table :=
  match table.get? key with
  | none => some (table.set key (.list [.table []]))
  | some (.list items) => some (table.set key (.list (items ++ [.table []])))
  | some _ => none

/-! ## Marks -/

/-- Why a table may not be defined further. -/
inductive MarkKind where
  /-- It is complete, with all it holds. -/
  | frozen
  /-- It was opened by a header or by a dotted key. -/
  | opened
deriving DecidableEq, Repr

/-- A mark on the table that keys lead to. -/
structure Mark where
  path : KeyPath
  kind : MarkKind
deriving DecidableEq, Repr

/-- The table at these keys is complete, or part of one that is. -/
def isFrozen (marks : List Mark) (path : KeyPath) : Bool :=
  marks.any fun mark => mark.kind = .frozen && mark.path.isPrefixOf path

def isOpened (marks : List Mark) (path : KeyPath) : Bool :=
  marks.contains ⟨path, .opened⟩

/-! ## Keys -/

def isBareKeyChar (c : Char) : Bool :=
  c.isAlphanum || c == '-' || c == '_'

def skipBlanks (text : List Char) : List Char :=
  text.dropWhile isBlank

def keyPart? : Reader String := fun text =>
  match text with
  | '"' :: rest => (basicString? false rest).map fun (value, rest) => (String.ofList value, rest)
  | '\'' :: rest => (literalString? false rest).map fun (value, rest) => (String.ofList value, rest)
  | _ =>
      let bare := text.takeWhile isBareKeyChar
      if bare.isEmpty then none else some (String.ofList bare, text.drop bare.length)

/-- The parts of a key, with dots and blanks between them. The text's length bounds their number. -/
def key? : Nat → Reader KeyPath
  | 0, _ => none
  | fuel + 1, text => do
      let (part, rest) ← keyPart? text
      match skipBlanks rest with
      | '.' :: more =>
          let (parts, rest) ← key? fuel (skipBlanks more)
          some (part :: parts, rest)
      | rest => some ([part], rest)

def dottedKey? : Reader KeyPath := fun text =>
  key? (text.length + 1) text

/-! ## Comments -/

/-- Drop a comment at the start, which holds no control characters. -/
def skipComment? (text : List Char) : Option (List Char) :=
  match text with
  | '#' :: rest =>
      let comment := rest.takeWhile (· != '\n')
      if comment.any isControl then none else some (rest.drop comment.length)
  | _ => some text

/-- Drop blanks, line feeds and comments at the start. The text's length bounds their number. -/
def skipSpace? : Nat → List Char → Option (List Char)
  | 0, _ => none
  | fuel + 1, text =>
      match text.dropWhile isBlankOrBreak with
      | '#' :: rest => (skipComment? ('#' :: rest)).bind (skipSpace? fuel)
      | rest => some rest

def skipListSpace? (text : List Char) : Option (List Char) :=
  skipSpace? (text.length + 1) text

/-! ## Values -/

/-- The table that an inline table has become, and the marks on what it holds. -/
structure InlineTable where
  table : Table
  marks : List Mark

def InlineTable.add? (inline : InlineTable) (path : KeyPath) (value : Setting) :
    Option InlineTable :=
  match path.getLast? with
  | none => none
  | some key =>
      if isFrozen inline.marks path then none
      else
        (updateAt false (addKey key value) path.dropLast inline.table).map fun table =>
          match value with
          | .table _ | .list _ => ⟨table, ⟨path, .frozen⟩ :: inline.marks⟩
          | _ => ⟨table, inline.marks⟩

mutual

/-- A value. Each value in it takes a unit of fuel. -/
def value? : Nat → Reader Setting
  | 0, _ => none
  | fuel + 1, text =>
      match text with
      | '"' :: _ => (string? text).map fun (value, rest) => (.string value, rest)
      | '\'' :: _ => (string? text).map fun (value, rest) => (.string value, rest)
      | '[' :: rest => do
          let (items, rest) ← items? fuel (← skipListSpace? rest)
          some (.list items, rest)
      | '{' :: rest =>
          match skipBlanks rest with
          | '}' :: rest => some (.table [], rest)
          | rest => do
              let (inline, rest) ← inlineFields? fuel ⟨[], []⟩ rest
              some (.table inline.table, rest)
      | _ => (boolean? text).orElse fun _ => scalar? text

/-- The items of a list up to its closing bracket. A comma may follow the last one. -/
def items? : Nat → Reader (List Setting)
  | 0, _ => none
  | fuel + 1, text =>
      match text with
      | ']' :: rest => some ([], rest)
      | _ => do
          let (item, rest) ← value? fuel text
          match ← skipListSpace? rest with
          | ']' :: rest => some ([item], rest)
          | ',' :: rest =>
              let (items, rest) ← items? fuel (← skipListSpace? rest)
              some (item :: items, rest)
          | _ => none

def inlineFields? : Nat → InlineTable → Reader InlineTable
  | 0, _, _ => none
  | fuel + 1, inline, text => do
      let (path, rest) ← dottedKey? text
      let rest ← afterCharacter? '=' rest
      let (value, rest) ← value? fuel (skipBlanks rest)
      let inline ← inline.add? path value
      match skipBlanks rest with
      | '}' :: rest => some (inline, rest)
      | ',' :: rest => inlineFields? fuel inline (skipBlanks rest)
      | _ => none

end

/-! ## Statements -/

/-- What has been read of a document: its table, the marks, those that take effect with the next
header, and the keys of the present header. -/
structure Document where
  table : Table
  marks : List Mark
  pending : List Mark
  header : KeyPath

namespace Document

def empty : Document := ⟨[], [], [], []⟩

/-- The marks of dotted keys take effect. -/
def finalize (document : Document) : Document :=
  { document with marks := document.pending ++ document.marks, pending := [] }

def openTable? (document : Document) (path : KeyPath) : Option Document :=
  if isOpened document.marks path || isFrozen document.marks path then none
  else
    (updateAt true some path document.table).map fun table =>
      { document with
        table := table, marks := ⟨path, .opened⟩ :: document.marks, header := path }

/-- Open a new item of a list of tables by a header. What was marked within the last item is free
again. -/
def openItem? (document : Document) (path : KeyPath) : Option Document :=
  match path.getLast? with
  | none => none
  | some key =>
      if isFrozen document.marks path then none
      else
        let marks := document.marks.filter fun mark => !path.isPrefixOf mark.path
        (updateAt true (addItem key) path.dropLast document.table).map fun table =>
          { document with table := table, marks := ⟨path, .opened⟩ :: marks, header := path }

/-- The keys that lead to the tables a dotted key passes through. -/
def passedTables (header path : KeyPath) : List KeyPath :=
  ((List.range path.length).drop 1).map fun count => header ++ path.take count

def assign? (document : Document) (path : KeyPath) (value : Setting) : Option Document :=
  match path.getLast? with
  | none => none
  | some key =>
      let parent := document.header ++ path.dropLast
      let passed := passedTables document.header path
      if passed.any (isOpened document.marks) || isFrozen document.marks parent then none
      else
        (updateAt true (addKey key value) parent document.table).map fun table =>
          let marks :=
            match value with
            | .table _ | .list _ => ⟨document.header ++ path, .frozen⟩ :: document.marks
            | _ => document.marks
          { document with
            table := table
            marks := marks
            pending := passed.map (fun path => ⟨path, .opened⟩) ++ document.pending }

def statement? (document : Document) (text : List Char) : Option (Document × List Char) :=
  match text with
  | '[' :: '[' :: rest => do
      let (path, rest) ← dottedKey? (skipBlanks rest)
      let document ← document.finalize.openItem? path
      some (document, ← afterCharacter? ']' (← afterCharacter? ']' rest))
  | '[' :: rest => do
      let (path, rest) ← dottedKey? (skipBlanks rest)
      let document ← document.finalize.openTable? path
      some (document, ← afterCharacter? ']' rest)
  | _ => do
      let (path, rest) ← dottedKey? text
      let rest ← afterCharacter? '=' rest
      let (value, rest) ← value? (text.length + 1) (skipBlanks rest)
      some (← document.assign? path value, rest)

/-- The text begins a statement, rather than ending a line. -/
def beginsStatement (text : List Char) : Bool :=
  match text with
  | [] => false
  | c :: _ => c != '\n' && c != '#'

/-- Read the lines of a document. The text's length bounds their number. -/
def lines? : Nat → Document → List Char → Option Document
  | 0, _, _ => none
  | fuel + 1, document, text => do
      let text := skipBlanks text
      let (document, rest) ←
        if beginsStatement text then document.statement? text else some (document, text)
      match ← skipComment? (skipBlanks rest) with
      | [] => some document
      | '\n' :: rest => document.lines? fuel rest
      | _ => none
termination_by fuel => fuel

end Document

/-- Read carriage return and line feed as a line feed. -/
def joinLineBreaks : List Char → List Char
  | '\r' :: '\n' :: rest => '\n' :: joinLineBreaks rest
  | c :: rest => c :: joinLineBreaks rest
  | [] => []

def parse? (text : List Char) : Option Table :=
  let source := joinLineBreaks text
  (Document.empty.lines? (source.length + 1) source).map Document.table

end Annotations.Toml
