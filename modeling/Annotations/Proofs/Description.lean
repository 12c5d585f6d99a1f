import Annotations.Proofs.Json
import Annotations.Proofs.Payload
import Annotations.Proofs.Sorting

/-!
Contract: payloads in which results are replaced by the objects that describe them.

Symbols, failures, ranges and changes each have a describing object. A payload is
written through them for symbols and failures only. A range or a change is a
record and is written as one, and its describing object has another text: other
fields for a change, the same ones in another order for a range.

Owns:

- `Payload.described`, the payload with results of chosen kinds replaced;
- `Payload.holds`, whether a result of a chosen kind stands in a payload;
- `Agree`, two computations that fail alike;
- `Payload.dumps_described_eq_iff`, when the replacement keeps the text.
-/

namespace Annotations

/-! ## Replacing results -/

inductive ResultKind where
  | symbol
  | failure
  | range
  | change
deriving DecidableEq, Repr

/-- The kinds that are written as records, past their describing objects. -/
def ResultKind.isRecord : ResultKind → Bool
  | .symbol | .failure => false
  | .range | .change => true

namespace Payload

mutual

/-- The payload in which results of the chosen kinds give way to the objects that describe them. -/
def described (chosen : ResultKind → Bool) : Payload → Payload
  | .array items => .array (describedItems chosen items)
  | .object fields => .object (describedFields chosen fields)
  | .symbol value => if chosen .symbol then ofJson value.toDict else .symbol value
  | .failure value => if chosen .failure then value.toDict else .failure value
  | .range value => if chosen .range then ofJson value.toDict else .range value
  | .change value => if chosen .change then ofJson value.toDict else .change value
  | payload => payload

def describedItems (chosen : ResultKind → Bool) : List Payload → List Payload
  | [] => []
  | item :: rest => described chosen item :: describedItems chosen rest

def describedFields (chosen : ResultKind → Bool) :
    List (String × Payload) → List (String × Payload)
  | [] => []
  | (name, value) :: rest => (name, described chosen value) :: describedFields chosen rest

end

mutual

/-- A result of one of the chosen kinds stands in the payload. -/
def holds (chosen : ResultKind → Bool) : Payload → Bool
  | .array items => itemsHold chosen items
  | .object fields => fieldsHold chosen fields
  | .symbol _ => chosen .symbol
  | .failure _ => chosen .failure
  | .range _ => chosen .range
  | .change _ => chosen .change
  | _ => false

def itemsHold (chosen : ResultKind → Bool) : List Payload → Bool
  | [] => false
  | item :: rest => holds chosen item || itemsHold chosen rest

def fieldsHold (chosen : ResultKind → Bool) : List (String × Payload) → Bool
  | [] => false
  | (_, value) :: rest => holds chosen value || fieldsHold chosen rest

end

variable {chosen : ResultKind → Bool}

theorem describedItems_eq_map (items : List Payload) :
    describedItems chosen items = items.map (described chosen) := by
  induction items with
  | nil => rfl
  | cons item rest inductionHypothesis =>
      rw [describedItems, inductionHypothesis, List.map_cons]

theorem describedFields_eq_map (fields : List (String × Payload)) :
    describedFields chosen fields =
      fields.map fun field => (field.1, described chosen field.2) := by
  induction fields with
  | nil => rfl
  | cons field rest inductionHypothesis =>
      rw [describedFields, inductionHypothesis, List.map_cons]

theorem itemsHold_eq_any (items : List Payload) :
    itemsHold chosen items = items.any (holds chosen) := by
  induction items with
  | nil => rfl
  | cons item rest inductionHypothesis => rw [itemsHold, inductionHypothesis, List.any_cons]

theorem fieldsHold_eq_any (fields : List (String × Payload)) :
    fieldsHold chosen fields = fields.any fun field => holds chosen field.2 := by
  induction fields with
  | nil => rfl
  | cons field rest inductionHypothesis => rw [fieldsHold, inductionHypothesis, List.any_cons]

end Payload

/-! ## Computations that fail alike -/

section Agreement

variable {Fault Item Value Result : Type} {differ : Bool}

/-- Two computations fail with the same fault, or both succeed. Then their values are the same
unless they are said to differ. -/
def Agree (differ : Bool) : Except Fault Value → Except Fault Value → Prop
  | .error fault, .error other => fault = other
  | .ok value, .ok other => value = other ↔ differ = false
  | _, _ => False

theorem Agree.refl (result : Except Fault Value) : Agree false result result := by
  cases result with
  | error fault => rfl
  | ok value => exact iff_of_true rfl rfl

theorem Agree.of_eq {left right : Except Fault Value} (same : left = right) :
    Agree false left right :=
  same ▸ Agree.refl right

theorem Agree.eq_iff {left right : Except Fault Value} (agree : Agree differ left right) :
    left = right ↔ (∃ fault, right = .error fault) ∨ differ = false := by
  cases left with
  | error fault =>
      cases right with
      | error other => exact iff_of_true (congrArg Except.error agree) (Or.inl ⟨other, rfl⟩)
      | ok other => exact agree.elim
  | ok value =>
      cases right with
      | error other => exact agree.elim
      | ok other =>
          have same : value = other ↔ differ = false := agree
          simp [same]

theorem Agree.map {left right : Except Fault Value} (agree : Agree differ left right)
    {convert : Value → Result} (injective : convert.Injective) :
    Agree differ (left.map convert) (right.map convert) := by
  cases left with
  | error fault =>
      cases right with
      | error other => exact agree
      | ok other => exact agree.elim
  | ok value =>
      cases right with
      | error other => exact agree.elim
      | ok other => exact injective.eq_iff.trans agree

theorem Agree.cons {differRest : Bool} {left right : Except Fault Value}
    {leftRest rightRest : Except Fault (List Value)} (first : Agree differ left right)
    (later : Agree differRest leftRest rightRest) :
    Agree (differ || differRest) (do return (← left) :: (← leftRest))
      (do return (← right) :: (← rightRest)) := by
  cases left with
  | error fault =>
      cases right with
      | error other => exact first
      | ok other => exact first.elim
  | ok value =>
      cases right with
      | error other => exact first.elim
      | ok other =>
          cases leftRest with
          | error fault =>
              cases rightRest with
              | error otherFault => exact later
              | ok others => exact later.elim
          | ok values =>
              cases rightRest with
              | error otherFault => exact later.elim
              | ok others =>
                  have sameFirst : value = other ↔ differ = false := first
                  have sameRest : values = others ↔ differRest = false := later
                  change value :: values = other :: others ↔ _
                  rw [List.cons.injEq, sameFirst, sameRest, Bool.or_eq_false_iff]

theorem Agree.mapM {differs : Item → Bool} {left right : Item → Except Fault Value}
    {items : List Item} (each : ∀ item ∈ items, Agree (differs item) (left item) (right item)) :
    Agree (items.any differs) (items.mapM left) (items.mapM right) := by
  induction items with
  | nil => exact iff_of_true rfl rfl
  | cons item rest inductionHypothesis =>
      obtain ⟨first, later⟩ := List.forall_mem_cons.1 each
      rw [List.mapM_cons, List.mapM_cons]
      exact first.cons (inductionHypothesis later)

/-- Of computations with one possible fault, all succeed or the whole fails with that fault. -/
theorem mapM_eq_ite {fits : Item → Bool} {fault : Fault} {write : Item → Value}
    {compute : Item → Except Fault Value} {items : List Item}
    (each : ∀ item ∈ items, compute item = if fits item then .ok (write item) else .error fault) :
    items.mapM compute = if items.all fits then .ok (items.map write) else .error fault := by
  induction items with
  | nil => rfl
  | cons item rest inductionHypothesis =>
      obtain ⟨first, later⟩ := List.forall_mem_cons.1 each
      rw [List.mapM_cons, first, inductionHypothesis later, List.all_cons, List.map_cons]
      cases fits item <;> cases rest.all fits <;> rfl

end Agreement

/-! ## Records and their describing objects -/

/-- A change has no path in the object that describes it. -/
theorem Change.sorted_toDict_ne_toRecord (change : Change) :
    change.toDict.sorted ≠ change.toRecord := by
  intro same
  have found : change.toDict.sorted.field? "path" = some change.path.toRecord := by
    rw [same]
    rfl
  have absent : change.toDict.sorted.field? "path" = none :=
    Json.field?_sorted (by simp) "path"
  rw [found] at absent
  contradiction

theorem Change.integersFit_toDict_eq (change : Change) :
    change.toDict.integersFit = change.toRecord.integersFit := by
  have namespaceFits : Json.itemsFit (change.path.scope.map Json.string) = true :=
    Json.integersFit_array_map fun _ _ => rfl
  simp [Change.toDict, Change.toRecord, Path.toRecord, Json.integersFit, Json.fieldsFit,
    namespaceFits]

/-- A range has its start before its end, and sorting turns them round. -/
theorem DisabledRange.sorted_toDict_ne (range : DisabledRange) :
    range.toDict.sorted ≠ range.toDict := by
  intro same
  have ascending := pairwise_mergeSort_compare Prod.fst (Json.sortedFields
    [("start_line", .integer range.startLine), ("end_line", .integer range.endLine)])
  rw [show List.mergeSort _ _ = _ from Json.object.inj same] at ascending
  have startFirst : (compare "start_line" "end_line").isLE = true :=
    List.rel_of_pairwise_cons ascending List.mem_cons_self
  contradiction

/-! ## Documents of payloads -/

namespace Json

theorem itemsFit_eq_all (items : List Json) : itemsFit items = items.all integersFit := by
  rw [Bool.eq_iff_iff, itemsFit_iff, List.all_eq_true]

theorem fieldsFit_eq_all (fields : List (String × Json)) :
    fieldsFit fields = fields.all fun field => field.2.integersFit := by
  rw [Bool.eq_iff_iff, fieldsFit_iff, List.all_eq_true]

theorem sortFields_perm {Value : Type} (fields : List (String × Value)) :
    (sortFields fields).Perm fields :=
  List.mergeSort_perm _ _

mutual

/-- Sorting fields changes no integer. -/
theorem integersFit_sorted : ∀ document : Json, document.sorted.integersFit = document.integersFit
  | .null | .bool _ | .integer _ | .string _ => rfl
  | .array items => itemsFit_sortedItems items
  | .object fields => by
      rw [sorted, integersFit, integersFit, fieldsFit_eq_all, (sortFields_perm _).all_eq,
        ← fieldsFit_eq_all, fieldsFit_sortedFields fields]

theorem itemsFit_sortedItems : ∀ items : List Json, itemsFit (sortedItems items) = itemsFit items
  | [] => rfl
  | item :: rest => by
      rw [sortedItems, itemsFit, itemsFit, integersFit_sorted item, itemsFit_sortedItems rest]

theorem fieldsFit_sortedFields : ∀ fields : List (String × Json),
    fieldsFit (sortedFields fields) = fieldsFit fields
  | [] => rfl
  | (name, value) :: rest => by
      rw [sortedFields, fieldsFit, fieldsFit, integersFit_sorted value, fieldsFit_sortedFields rest]

end

/-- Of two different documents, both are too large or neither is. -/
theorem agree_checked_of_ne {left right : Json}
    (sameFit : left.integersFit = right.integersFit) (isOther : left ≠ right) :
    Agree true left.checked right.checked := by
  unfold checked
  rw [sameFit]
  cases right.integersFit with
  | false => rfl
  | true => exact iff_of_false isOther (by decide)

end Json

namespace Payload

open Json (integersFit sorted sortFields)

theorem toItems_eq_mapM (items : List Payload) : toItems items = items.mapM toJson := by
  induction items with
  | nil => rfl
  | cons item rest inductionHypothesis =>
      rw [toItems, inductionHypothesis, List.mapM_cons]
      rfl

theorem toFields_eq_map (fields : List (String × Payload)) :
    toFields fields = fields.map fun field => (field.1, field.2.toJson) := by
  induction fields with
  | nil => rfl
  | cons field rest inductionHypothesis => rw [toFields, inductionHypothesis, List.map_cons]

def fieldJson (field : String × Payload) : Except DumpError (String × Json) :=
  field.2.toJson.map fun document => (field.1, document)

theorem toJson_array (items : List Payload) :
    (Payload.array items).toJson = (items.mapM toJson).map Json.array := by
  rw [toJson, toItems_eq_mapM]

theorem toJson_object (fields : List (String × Payload)) :
    (Payload.object fields).toJson = ((sortFields fields).mapM fieldJson).map Json.object := by
  rw [toJson, toFields_eq_map, Json.sortFields_map, List.mapM_map]
  change (sortFields fields).mapM fieldJson >>= _ = _
  cases (sortFields fields).mapM fieldJson <;> rfl

mutual

/-- A document is dumped with its fields sorted, if its integers fit. -/
theorem toJson_ofJson_eq_checked : ∀ document : Json,
    (ofJson document).toJson = document.sorted.checked
  | .null | .bool _ | .integer _ | .string _ => rfl
  | .array items => by
      have gathered : items.mapM (toJson ∘ ofJson) =
          if items.all fun item => item.sorted.integersFit then .ok (items.map sorted)
            else .error .integerTooLarge :=
        mapM_eq_ite (toJson_ofItems_eq_checked items)
      rw [ofJson, ofItems_eq_map, toJson_array, List.mapM_map, gathered, Json.checked, sorted,
        integersFit, Json.itemsFit_eq_all, Json.sortedItems_eq_map, List.all_map]
      exact apply_ite _ _ _ _
  | .object fields => by
      have each : ∀ field ∈ sortFields fields, fieldJson (field.1, ofJson field.2) =
          if field.2.sorted.integersFit then .ok (field.1, field.2.sorted)
            else .error .integerTooLarge := by
        intro field isField
        have value := toJson_ofFields_eq_checked fields field
          ((Json.sortFields_perm fields).mem_iff.1 isField)
        rw [fieldJson, value, Json.checked]
        split <;> rfl
      have gathered := mapM_eq_ite each
      rw [ofJson, ofFields_eq_map, toJson_object, Json.sortFields_map, List.mapM_map, Json.checked,
        sorted, integersFit, Json.fieldsFit_eq_all, Json.sortedFields_eq_map, Json.sortFields_map,
        List.all_map]
      refine (congrArg (Except.map Json.object) gathered).trans ?_
      exact apply_ite _ _ _ _

theorem toJson_ofItems_eq_checked : ∀ items : List Json, ∀ item ∈ items,
    (ofJson item).toJson = item.sorted.checked
  | [] => nofun
  | item :: rest =>
      List.forall_mem_cons.2 ⟨toJson_ofJson_eq_checked item, toJson_ofItems_eq_checked rest⟩

theorem toJson_ofFields_eq_checked : ∀ fields : List (String × Json), ∀ field ∈ fields,
    (ofJson field.2).toJson = field.2.sorted.checked
  | [] => nofun
  | field :: rest =>
      List.forall_mem_cons.2 ⟨toJson_ofJson_eq_checked field.2, toJson_ofFields_eq_checked rest⟩

end

end Payload

/-! ## Failures and their describing objects -/

/-- An error is dumped as its document, unless surrogates stand in its wording. -/
theorem DirectiveError.toJson_toDict (error : DirectiveError) :
    error.toDict.toJson =
      if error.isText then .ok error.document.sorted else .error .surrogate := by
  have inOrder (kind message : Payload) : Json.sortFields [("type", kind), ("message", message)] =
      [("message", message), ("type", kind)] := by
    simp +decide [Json.sortFields, List.mergeSort]
  cases isText : error.isText with
  | true =>
      rw [toDict_eq_ofJson isText, Payload.toJson_ofJson_eq_checked, Json.checked,
        Json.integersFit_sorted]
      rfl
  | false =>
      rw [toDict, Payload.toJson_object, inOrder, isText]
      rfl

/-- A failure is dumped through its describing object. -/
theorem Failure.toJson_toDict (failure : Failure) :
    failure.toDict.toJson = (Payload.failure failure).toJson := by
  have inOrder (unit line directive scope message errors : Payload) :
      Json.sortFields [("unit", unit), ("line", line), ("directive", directive),
        ("namespace", scope), ("message", message), ("errors", errors)] =
      [("directive", directive), ("errors", errors), ("line", line), ("message", message),
        ("namespace", scope), ("unit", unit)] := by
    simp +decide [Json.sortFields, List.mergeSort]
  rw [Payload.toJson]
  cases isText : failure.isText with
  | true =>
      rw [toDict_eq_ofJson isText, Payload.toJson_ofJson_eq_checked]
      rfl
  | false =>
      -- The errors come before the line, so it does not matter whether that fits.
      have someCodes : failure.errors.all DirectiveError.isText = false := isText
      have gathered : failure.errors.mapM (Payload.toJson ∘ DirectiveError.toDict) = _ :=
        mapM_eq_ite fun error _ => error.toJson_toDict
      have noErrors : (Payload.array (failure.errors.map DirectiveError.toDict)).toJson =
          .error .surrogate := by
        rw [Payload.toJson_array, List.mapM_map, gathered, someCodes]
        rfl
      rw [toDict, Payload.toJson_object, inOrder, List.mapM_cons, List.mapM_cons,
        Payload.fieldJson, Payload.fieldJson, noErrors]
      rfl

namespace Payload

open Json (integersFit sorted sortFields)

variable {chosen : ResultKind → Bool}

/-- A kind that is written as a record, where it is to be replaced. -/
def replacesRecord (chosen : ResultKind → Bool) (kind : ResultKind) : Bool :=
  chosen kind && kind.isRecord

theorem agree_replaced {differ : Bool} {payload dict : Payload}
    (agree : Agree differ dict.toJson payload.toJson) (isChosen : Bool) :
    Agree (isChosen && differ) (if isChosen then dict else payload).toJson payload.toJson := by
  cases isChosen with
  | false => exact Agree.refl _
  | true => exact agree

mutual

/-- Replacing results changes the document exactly where one of them is a record. -/
theorem agree_described (chosen : ResultKind → Bool) : ∀ payload : Payload,
    Agree (payload.holds (replacesRecord chosen)) (payload.described chosen).toJson payload.toJson
  | .null | .bool _ | .integer _ | .string _ | .surrogates _ | .path _ | .comment _ | .marker _
  | .set _ => Agree.refl _
  | .array items => by
      rw [described, describedItems_eq_map, toJson_array, toJson_array, List.mapM_map, holds,
        itemsHold_eq_any]
      exact (Agree.mapM (agree_describedItems chosen items)).map fun _ _ => Json.array.inj
  | .object fields => by
      have each : ∀ field ∈ sortFields fields, Agree (field.2.holds (replacesRecord chosen))
          (fieldJson (field.1, field.2.described chosen)) (fieldJson field) := by
        intro field isField
        have value := agree_describedFields chosen fields field
          ((Json.sortFields_perm fields).mem_iff.1 isField)
        exact value.map fun _ _ same => (Prod.mk.inj same).2
      rw [described, describedFields_eq_map, toJson_object, toJson_object, Json.sortFields_map,
        List.mapM_map, holds, fieldsHold_eq_any, ← (Json.sortFields_perm fields).any_eq]
      exact (Agree.mapM each).map fun _ _ => Json.object.inj
  | .symbol value =>
      agree_replaced (Agree.of_eq (toJson_ofJson_eq_checked value.toDict)) (chosen .symbol)
  | .failure value => agree_replaced (Agree.of_eq value.toJson_toDict) (chosen .failure)
  | .range value => by
      refine agree_replaced ?_ (chosen .range)
      rw [toJson_ofJson_eq_checked]
      exact Json.agree_checked_of_ne (Json.integersFit_sorted _) value.sorted_toDict_ne
  | .change value => by
      refine agree_replaced ?_ (chosen .change)
      rw [toJson_ofJson_eq_checked]
      exact Json.agree_checked_of_ne
        ((Json.integersFit_sorted _).trans value.integersFit_toDict_eq)
        value.sorted_toDict_ne_toRecord

theorem agree_describedItems (chosen : ResultKind → Bool) : ∀ items : List Payload,
    ∀ item ∈ items,
      Agree (item.holds (replacesRecord chosen)) (item.described chosen).toJson item.toJson
  | [] => nofun
  | item :: rest =>
      List.forall_mem_cons.2 ⟨agree_described chosen item, agree_describedItems chosen rest⟩

theorem agree_describedFields (chosen : ResultKind → Bool) : ∀ fields : List (String × Payload),
    ∀ field ∈ fields,
      Agree (field.2.holds (replacesRecord chosen)) (field.2.described chosen).toJson field.2.toJson
  | [] => nofun
  | field :: rest =>
      List.forall_mem_cons.2 ⟨agree_described chosen field.2, agree_describedFields chosen rest⟩

end

/-- Replacing results of the chosen kinds by the objects that describe them keeps the text of a
payload exactly if there is no text, or no range or change is replaced. Symbols and failures can
always be replaced. -/
theorem dumps_described_eq_iff (chosen : ResultKind → Bool) (payload : Payload) :
    (payload.described chosen).dumps = payload.dumps ↔
      (∃ fault, payload.dumps = .error fault) ∨
        payload.holds (replacesRecord chosen) = false :=
  ((agree_described chosen payload).map Json.render_injective).eq_iff

/-- A list of one change is not written as the object that describes the change. -/
theorem dumps_described_ne :
    ¬ ∀ payload : Payload, (payload.described fun _ => true).dumps = payload.dumps := by
  intro replaceable
  let change : Change := ⟨⟨["lib"], "run", .instanceMethod⟩, .isPublic, .isPrivate, "lib.py", 2⟩
  have agree := agree_described (fun _ => true) (.array [.change change])
  rcases (agree.map Json.render_injective).eq_iff.1 (replaceable _) with failed | kept
  · obtain ⟨fault, failed⟩ := failed
    contradiction
  · contradiction

end Payload

end Annotations
