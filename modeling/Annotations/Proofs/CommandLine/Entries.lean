import Annotations.CommandLine
import Annotations.Proofs.Payload
import Annotations.Proofs.Sorting

/-!
Contract: the JSON document of a check, and the lines of text that its entries
stand for.

The document and the text are made of the same results along different ways. Here
the lines are read off the document itself, field by field, so that they can be
compared with the text.

Owns:
- `Json.diagnosticLines?`, `Json.suppressionLines?` and `Json.changeLines?`;
- `checkDocument` and what is read off it.

Does not own: which results a check has.
-/

namespace Annotations

/-! ## Lines read off a document -/

namespace Json

/-- The line of an entry of `diagnostics`: unit, line and message. -/
def diagnosticLine? (entry : Json) : Option String := do
  let unit ← (← entry.field? "unit").text?
  let line ← (← entry.field? "line").integer?
  let message ← (← entry.field? "message").text?
  some s!"{unit}:{line}: {message}"

def suppressionLine? (rule : String) (entry : Json) : Option String := do
  let unit ← (← entry.field? "unit").text?
  let startLine ← (← entry.field? "start_line").integer?
  let endLine ← (← entry.field? "end_line").integer?
  let lines := if startLine = endLine then s!"line {startLine}" else s!"lines {startLine}-{endLine}"
  some s!"rule {rule} disabled in unit {unit}, {lines}"

def changeLine? (entry : Json) : Option String := do
  let unit ← (← entry.field? "unit").text?
  let line ← (← entry.field? "line").integer?
  let name ← (← entry.field? "qualified_name").text?
  let before ← (← entry.field? "before").text?
  let after ← (← entry.field? "after").text?
  some s!"{unit}:{line}: {name} {before} -> {after}"

def diagnosticLines? (document : Json) : Option (List String) := do
  (← (← document.field? "diagnostics").items?).mapM diagnosticLine?

def rules? (document : Json) : Option (List String) := do
  some ((← (← document.field? "suppressions").fields?).map Prod.fst)

def ruleLines? (field : String × Json) : Option (List String) := do
  (← field.2.items?).mapM (suppressionLine? field.1)

def suppressionLines? (document : Json) : Option (List String) := do
  some (← (← (← document.field? "suppressions").fields?).mapM ruleLines?).flatten

def changeLines? (document : Json) : Option (List String) := do
  (← (← document.field? "changes").items?).mapM changeLine?

/-- What is written item by item is read off item by item. -/
theorem mapM_map {Item Written Read : Type} {write : Item → Written} {read : Written → Option Read}
    {value : Item → Read} (reads : ∀ item, read (write item) = some (value item))
    (items : List Item) : (items.map write).mapM read = some (items.map value) := by
  induction items with
  | nil => rfl
  | cons item rest inductionHypothesis =>
      rw [List.map_cons, List.mapM_cons, reads, inductionHypothesis]
      rfl

theorem diagnosticLine?_document (failure : Failure) :
    failure.document.sorted.diagnosticLine? = some (Render.diagnosticLine failure) := by
  have found : ∀ name,
      failure.document.sorted.field? name = (failure.document.field? name).map sorted :=
    field?_sorted (by simp)
  rw [diagnosticLine?, found, found, found]
  rfl

theorem suppressionLine?_toDict (rule : String) (entry : ReportEntry) :
    entry.toDict.sorted.suppressionLine? rule = some (Render.suppressionLine rule entry) := by
  have found : ∀ name, entry.toDict.sorted.field? name = (entry.toDict.field? name).map sorted :=
    field?_sorted (by simp)
  rw [suppressionLine?, found, found, found]
  rfl

theorem changeLine?_toDict (change : Change) :
    change.toDict.sorted.changeLine? = some (Render.changeLine change) := by
  have found : ∀ name, change.toDict.sorted.field? name = (change.toDict.field? name).map sorted :=
    field?_sorted (by simp)
  rw [changeLine?, found, found, found, found, found, Render.changeLine, ← String.append_assoc,
    ← String.append_assoc]
  rfl

end Json

/-! ## Entries whose lines fit -/

theorem Failure.integersFit_document {failure : Failure}
    (fits : fitsSixtyFourBits failure.line = true) : failure.document.integersFit = true := by
  have errors : Json.itemsFit (failure.errors.map DirectiveError.document) = true := by
    rw [Json.itemsFit_iff, List.forall_mem_map]
    intro error _
    rfl
  simp [document, Json.integersFit, Json.fieldsFit, errors, fits]

theorem ReportEntry.integersFit_toDict {entry : ReportEntry}
    (starts : fitsSixtyFourBits entry.range.startLine = true)
    (ends : fitsSixtyFourBits entry.range.endLine = true) : entry.toDict.integersFit = true := by
  simp [toDict, Json.integersFit, Json.fieldsFit, starts, ends]

theorem Change.integersFit_toDict {change : Change}
    (fits : fitsSixtyFourBits change.line = true) : change.toDict.integersFit = true := by
  simp [toDict, Json.integersFit, Json.fieldsFit, fits]

/-! ## The document of a check -/

namespace CommandLine

def reportDocument (report : ReportMapping) : Json :=
  .object (report.map fun group => (group.1, .array (group.2.map ReportEntry.toDict)))

/-- The fields of the document of a check, before they are sorted. -/
def checkFields (arguments : Arguments) (failures : List Failure) (report : ReportMapping)
    (changes : List Change) : List (String × Json) :=
  [("diagnostics", .array (failures.map Failure.document)),
      ("suppressions", reportDocument report)] ++
    if arguments.changes then [("changes", .array (changes.map Change.toDict))] else []

def checkDocument (arguments : Arguments) (failures : List Failure) (report : ReportMapping)
    (changes : List Change) : Json :=
  (Json.object (checkFields arguments failures report changes)).sorted

theorem checkPayload_eq (arguments : Arguments) {failures : List Failure} (report : ReportMapping)
    (changes : List Change) (areTexts : ∀ failure ∈ failures, failure.isText = true) :
    checkPayload arguments failures report changes =
      Payload.ofJson (.object (checkFields arguments failures report changes)) := by
  have sameFailures : failures.map Failure.toDict =
      Payload.ofItems (failures.map Failure.document) := by
    rw [Payload.ofItems_eq_map, List.map_map]
    exact List.map_congr_left fun failure isFailure =>
      Failure.toDict_eq_ofJson (areTexts failure isFailure)
  unfold checkPayload checkFields reportDocument Payload.ofReport
  rw [sameFailures]
  cases arguments.changes <;>
    simp [Payload.ofJson, Payload.ofFields_eq_map, Payload.ofItems_eq_map, Function.comp_def]

section Document

variable (arguments : Arguments) (failures : List Failure) (report : ReportMapping)
  (changes : List Change)

theorem nodup_checkFields :
    ((checkFields arguments failures report changes).map Prod.fst).Nodup := by
  unfold checkFields
  cases arguments.changes <;> simp

theorem diagnosticLines?_checkDocument :
    (checkDocument arguments failures report changes).diagnosticLines? =
      some (Render.diagnostics failures) := by
  have found : (checkDocument arguments failures report changes).field? "diagnostics" =
      some (.array (failures.map fun failure => failure.document.sorted)) := by
    unfold checkDocument
    rw [Json.field?_sorted (nodup_checkFields ..)]
    simp [checkFields, Json.field?, Json.sorted, Json.sortedItems_eq_map, Function.comp_def]
  unfold Json.diagnosticLines?
  rw [found]
  exact Json.mapM_map Json.diagnosticLine?_document failures

theorem field?_suppressions_checkDocument (ascending :
      (report.map Prod.fst).Pairwise fun left right => compare left right = .lt) :
    (checkDocument arguments failures report changes).field? "suppressions" =
      some (.object (report.map fun group =>
        (group.1, .array (group.2.map fun entry => entry.toDict.sorted)))) := by
  unfold checkDocument
  rw [Json.field?_sorted (nodup_checkFields ..)]
  have found : (Json.object (checkFields arguments failures report changes)).field? "suppressions" =
      some (reportDocument report) := by
    simp [checkFields, Json.field?, List.lookup_cons]
  rw [found, Option.map_some, reportDocument, Json.sorted, Json.sortedFields_eq_map,
    Json.sortFields_eq_of_pairwise]
  · simp [Json.sorted, Json.sortedItems_eq_map, Function.comp_def]
  · rw [List.pairwise_map] at ascending
    simpa [List.pairwise_map] using ascending

theorem rules?_checkDocument (ascending :
      (report.map Prod.fst).Pairwise fun left right => compare left right = .lt) :
    (checkDocument arguments failures report changes).rules? = some (report.map Prod.fst) := by
  unfold Json.rules?
  rw [field?_suppressions_checkDocument _ _ _ _ ascending]
  simp [Json.fields?, Function.comp_def]

theorem suppressionLines?_checkDocument (ascending :
      (report.map Prod.fst).Pairwise fun left right => compare left right = .lt) :
    (checkDocument arguments failures report changes).suppressionLines? =
      some (Render.suppressions report) := by
  have ofRule : ∀ group : String × List ReportEntry,
      Json.ruleLines? (group.1, .array (group.2.map fun entry => entry.toDict.sorted)) =
        some (group.2.map (Render.suppressionLine group.1)) :=
    fun group => Json.mapM_map (Json.suppressionLine?_toDict group.1) group.2
  unfold Json.suppressionLines?
  rw [field?_suppressions_checkDocument _ _ _ _ ascending]
  simp only [Json.fields?, Option.bind_eq_bind, Option.bind_some, Json.mapM_map ofRule]
  rw [← List.flatMap_def]
  rfl

theorem changeLines?_checkDocument :
    (checkDocument arguments failures report changes).changeLines? =
      if arguments.changes then some (Render.changes changes) else none := by
  unfold Json.changeLines? checkDocument
  rw [Json.field?_sorted (nodup_checkFields ..)]
  cases shown : arguments.changes with
  | false => simp [checkFields, shown, Json.field?, List.lookup_cons]
  | true =>
      have found : (Json.object (checkFields arguments failures report changes)).field? "changes" =
          some (.array (changes.map Change.toDict)) := by
        simp [checkFields, shown, Json.field?, List.lookup_cons]
      rw [found, Option.map_some, Json.sorted, Json.sortedItems_eq_map, List.map_map]
      exact Json.mapM_map Json.changeLine?_toDict changes

end Document

end CommandLine

end Annotations
