/-!
Contract: JSON documents and their indented text.

Owns:

- `Json`, whose objects keep their fields in the order given;
- `Json.sorted`, the same document with the fields of every object in ascending
  order of their names;
- `Json.render`, the text: two spaces a level, one item a line, empty arrays and
  objects closed at once, and characters beyond ASCII as they are.

Does not own:

- how results become documents; see `Annotations.Payload`.
-/

namespace Annotations

/-- A JSON document without fractions. -/
inductive Json where
  | null
  | bool (value : Bool)
  | integer (value : Int)
  | string (value : String)
  | array (items : List Json)
  | object (fields : List (String × Json))
deriving Repr

namespace Json

def sortFields {Value : Type} (fields : List (String × Value)) : List (String × Value) :=
  fields.mergeSort fun left right => (compare left.1 right.1).isLE

mutual

/-- The document with the fields of every object sorted by name. -/
def sorted : Json → Json
  | .array items => .array (sortedItems items)
  | .object fields => .object (sortFields (sortedFields fields))
  | document => document

def sortedItems : List Json → List Json
  | [] => []
  | item :: rest => sorted item :: sortedItems rest

def sortedFields : List (String × Json) → List (String × Json)
  | [] => []
  | (name, value) :: rest => (name, sorted value) :: sortedFields rest

end

def hexDigit (value : Nat) : Char :=
  if value < 10 then Char.ofNat ('0'.toNat + value) else Char.ofNat ('a'.toNat + value - 10)

/-- A character inside a JSON string. Quotes, backslashes and controls below U+0020 are escaped. -/
def escapeChar (c : Char) : List Char :=
  if c = '"' then ['\\', '"']
  else if c = '\\' then ['\\', '\\']
  else if c = '\x08' then ['\\', 'b']
  else if c = '\x0c' then ['\\', 'f']
  else if c = '\n' then ['\\', 'n']
  else if c = '\r' then ['\\', 'r']
  else if c = '\t' then ['\\', 't']
  else if c.toNat < 0x20 then
    ['\\', 'u', '0', '0', hexDigit (c.toNat / 16), hexDigit (c.toNat % 16)]
  else [c]

def quote (text : String) : String :=
  "\"" ++ String.ofList (text.toList.flatMap escapeChar) ++ "\""

def newline (level : Nat) : String :=
  "\n" ++ String.ofList (List.replicate (2 * level) ' ')

/-- Items in brackets, one a line, at the given level. -/
def enclose (opening closing : String) (level : Nat) (items : List String) : String :=
  if items.isEmpty then opening ++ closing
  else
    opening ++ newline (level + 1) ++ ("," ++ newline (level + 1)).intercalate items ++
      newline level ++ closing

mutual

/-- The text of a document that starts at a level of indentation. -/
def renderAt (level : Nat) : Json → String
  | .null => "null"
  | .bool true => "true"
  | .bool false => "false"
  | .integer value => toString value
  | .string value => quote value
  | .array items => enclose "[" "]" level (renderItems (level + 1) items)
  | .object fields => enclose "\x7b" "\x7d" level (renderFields (level + 1) fields)

def renderItems (level : Nat) : List Json → List String
  | [] => []
  | item :: rest => renderAt level item :: renderItems level rest

def renderFields (level : Nat) : List (String × Json) → List String
  | [] => []
  | (name, value) :: rest =>
      (quote name ++ ": " ++ renderAt level value) :: renderFields level rest

end

def render (document : Json) : String :=
  renderAt 0 document

end Json

end Annotations
