import Annotations.Json
import Annotations.Run

/-!
Contract: results as JSON.

Plain objects are written with their fields sorted by name, and so are symbols
and failures, through the objects that describe them. Paths, ranges, changes,
comments and markers are records: they are written field by field, in the order
of their declaration.

Owns:

- the describing object of each result (`toDict`) and of each record
  (`toRecord`);
- `Payload`, nested data in which results may stand anywhere, and `dumps`;
- the causes for which a payload has no text.
-/

namespace Annotations

/-! ## Describing objects -/

def Symbol.toDict (symbol : Symbol) : Json :=
  .object
    [("qualified_name", .string symbol.path.qualifiedName),
      ("kind", .string symbol.path.kind.label),
      ("visibility", .string symbol.visibility.label), ("unit", .string symbol.unitId),
      ("line", .integer symbol.line)]

def Change.toDict (change : Change) : Json :=
  .object
    [("qualified_name", .string change.path.qualifiedName),
      ("kind", .string change.path.kind.label),
      ("before", .string change.before.label), ("after", .string change.after.label),
      ("unit", .string change.unitId), ("line", .integer change.line)]

def DirectiveError.document (error : DirectiveError) : Json :=
  .object [("type", .string error.label), ("message", .string error.message)]

/-- The object that describes a failure whose wording is a text. -/
def Failure.document (failure : Failure) : Json :=
  .object
    [("unit", .string failure.unitId), ("line", .integer failure.line),
      ("directive", .string failure.directive), ("namespace", .string failure.scope.format),
      ("message", .string failure.message),
      ("errors", .array (failure.errors.map DirectiveError.document))]

def DisabledRange.toDict (range : DisabledRange) : Json :=
  .object [("start_line", .integer range.startLine), ("end_line", .integer range.endLine)]

def ReportEntry.toDict (entry : ReportEntry) : Json :=
  .object
    [("unit", .string entry.unitId), ("start_line", .integer entry.range.startLine),
      ("end_line", .integer entry.range.endLine)]

/-! ## Records -/

def Path.toRecord (path : Path) : Json :=
  .object
    [("namespace", .array (path.scope.map Json.string)), ("name", .string path.name),
      ("kind", .string path.kind.label)]

def Change.toRecord (change : Change) : Json :=
  .object
    [("path", change.path.toRecord), ("before", .string change.before.label),
      ("after", .string change.after.label), ("unit_id", .string change.unitId),
      ("line", .integer change.line)]

def Comment.toRecord (comment : Comment) : Json :=
  .object
    [("line", .integer comment.line), ("text", .string comment.text),
      ("trailing", .bool comment.trailing)]

def Marker.toRecord (marker : Marker) : Json :=
  .object
    [("rule", .string marker.rule), ("action", .string marker.action.label),
      ("line", .integer marker.line), ("trailing", .bool marker.trailing)]

/-! ## Payloads -/

/-- Nested data with results in it. -/
inductive Payload where
  | null
  | bool (value : Bool)
  | integer (value : Int)
  | string (value : String)
  /-- A string with surrogates, which are escaped here. It has no JSON form. -/
  | surrogates (escaped : String)
  | array (items : List Payload)
  | object (fields : List (String × Payload))
  | symbol (value : Symbol)
  | failure (value : Failure)
  | range (value : DisabledRange)
  | path (value : Path)
  | change (value : Change)
  | comment (value : Comment)
  | marker (value : Marker)
  /-- An unordered set, which has no JSON form. -/
  | set (items : List Payload)

inductive DumpError where
  | integerTooLarge
  | surrogate
  | unorderedSet
deriving DecidableEq, Repr

def DumpError.message : DumpError → String
  | .integerTooLarge => "Integer exceeds 64-bit range"
  | .surrogate => "str is not valid UTF-8: surrogates not allowed"
  | .unorderedSet => "Type is not JSON serializable: frozenset"

/-- The integers that fit into 64 bits, with or without a sign. -/
def fitsSixtyFourBits (value : Int) : Bool :=
  -0x8000000000000000 ≤ value && value < 0x10000000000000000

namespace Json

mutual

def integersFit : Json → Bool
  | .integer value => fitsSixtyFourBits value
  | .array items => itemsFit items
  | .object fields => fieldsFit fields
  | _ => true

def itemsFit : List Json → Bool
  | [] => true
  | item :: rest => integersFit item && itemsFit rest

def fieldsFit : List (String × Json) → Bool
  | [] => true
  | (_, value) :: rest => integersFit value && fieldsFit rest

end

/-- The document itself, if its integers fit into 64 bits. -/
def checked (document : Json) : Except DumpError Json :=
  if document.integersFit then .ok document else .error .integerTooLarge

end Json

namespace Payload

mutual

/-- The document of a payload. Of several faults the first in the order of the text is given. -/
def toJson : Payload → Except DumpError Json
  | .null => .ok .null
  | .bool value => .ok (.bool value)
  | .integer value => (Json.integer value).checked
  | .string value => .ok (.string value)
  | .surrogates _ => .error .surrogate
  | .array items => (toItems items).map Json.array
  | .object fields => do
      let sorted := Json.sortFields (toFields fields)
      .ok
        (.object
          (← sorted.mapM fun (name, value) => value.map fun document => (name, document)))
  | .symbol value => value.toDict.sorted.checked
  | .failure value => if value.isText then value.document.sorted.checked else .error .surrogate
  | .range value => value.toDict.checked
  | .path value => value.toRecord.checked
  | .change value => value.toRecord.checked
  | .comment value => value.toRecord.checked
  | .marker value => value.toRecord.checked
  | .set _ => .error .unorderedSet

def toItems : List Payload → Except DumpError (List Json)
  | [] => .ok []
  | item :: rest => do
      let document ← toJson item
      let documents ← toItems rest
      .ok (document :: documents)

def toFields : List (String × Payload) → List (String × Except DumpError Json)
  | [] => []
  | (name, value) :: rest => (name, toJson value) :: toFields rest

end

def dumps (payload : Payload) : Except DumpError String :=
  payload.toJson.map Json.render

mutual

def ofJson : Json → Payload
  | .null => .null
  | .bool value => .bool value
  | .integer value => .integer value
  | .string value => .string value
  | .array items => .array (ofItems items)
  | .object fields => .object (ofFields fields)

def ofItems : List Json → List Payload
  | [] => []
  | item :: rest => ofJson item :: ofItems rest

def ofFields : List (String × Json) → List (String × Payload)
  | [] => []
  | (name, value) :: rest => (name, ofJson value) :: ofFields rest

end

/-- The wording of an error or a failure. -/
def ofWording (isText : Bool) (message : String) : Payload :=
  if isText then .string message else .surrogates message

/-- A suppression report as nested data. -/
def ofReport (mapping : ReportMapping) : Payload :=
  .object (mapping.map fun (rule, entries) =>
    (rule, .array (entries.map fun entry => ofJson entry.toDict)))

end Payload

def DirectiveError.toDict (error : DirectiveError) : Payload :=
  .object [("type", .string error.label), ("message", .ofWording error.isText error.message)]

def Failure.toDict (failure : Failure) : Payload :=
  .object
    [("unit", .string failure.unitId), ("line", .integer failure.line),
      ("directive", .string failure.directive), ("namespace", .string failure.scope.format),
      ("message", .ofWording failure.isText failure.message),
      ("errors", .array (failure.errors.map DirectiveError.toDict))]

end Annotations
