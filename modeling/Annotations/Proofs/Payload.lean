import Mathlib.Data.List.Nodup
import Annotations.Payload

/-!
Contract: documents that are dumped, and what is read off them again.

A document whose integers fit into 64 bits is dumped as itself, with the fields
of every object sorted by name. Sorting moves fields but loses none, so a field is
found under its name as before.

Owns:
- `Payload.toJson_ofJson`, what a document is dumped as;
- `Json.field?` and its likes, which read a document, and `Json.field?_sorted`.
-/

namespace Annotations

/-! ## Reading a document -/

namespace Json

def field? (document : Json) (name : String) : Option Json :=
  match document with
  | .object fields => fields.lookup name
  | _ => none

def text? : Json → Option String
  | .string value => some value
  | _ => none

def integer? : Json → Option Int
  | .integer value => some value
  | _ => none

def items? : Json → Option (List Json)
  | .array items => some items
  | _ => none

def fields? : Json → Option (List (String × Json))
  | .object fields => some fields
  | _ => none

/-! ## Parts of a document -/

theorem itemsFit_iff {items : List Json} :
    itemsFit items = true ↔ ∀ item ∈ items, item.integersFit = true := by
  induction items with
  | nil => simp [itemsFit]
  | cons item rest inductionHypothesis =>
      rw [itemsFit, Bool.and_eq_true, inductionHypothesis, List.forall_mem_cons]

theorem fieldsFit_iff {fields : List (String × Json)} :
    fieldsFit fields = true ↔ ∀ field ∈ fields, field.2.integersFit = true := by
  induction fields with
  | nil => simp [fieldsFit]
  | cons field rest inductionHypothesis =>
      rw [fieldsFit, Bool.and_eq_true, inductionHypothesis, List.forall_mem_cons]

theorem integersFit_array_map {Item : Type} {write : Item → Json} {items : List Item}
    (fit : ∀ item ∈ items, (write item).integersFit = true) :
    (Json.array (items.map write)).integersFit = true := by
  rw [integersFit, itemsFit_iff, List.forall_mem_map]
  exact fit

theorem sortedItems_eq_map (items : List Json) : sortedItems items = items.map sorted := by
  induction items with
  | nil => rfl
  | cons item rest inductionHypothesis => rw [sortedItems, inductionHypothesis, List.map_cons]

theorem sortedFields_eq_map (fields : List (String × Json)) :
    sortedFields fields = fields.map fun field => (field.1, field.2.sorted) := by
  induction fields with
  | nil => rfl
  | cons field rest inductionHypothesis => rw [sortedFields, inductionHypothesis, List.map_cons]

/-! ## Sorting fields -/

section Fields

variable {Value Result : Type}

theorem sortFields_map (convert : Value → Result) (fields : List (String × Value)) :
    sortFields (fields.map fun field => (field.1, convert field.2)) =
      (sortFields fields).map fun field => (field.1, convert field.2) := by
  unfold sortFields
  symm
  apply List.map_mergeSort
  intro left _ right _
  rfl

theorem sortFields_eq_of_pairwise {fields : List (String × Value)}
    (ascending : fields.Pairwise fun left right => compare left.1 right.1 = .lt) :
    sortFields fields = fields :=
  List.mergeSort_of_pairwise (ascending.imp fun before => by rw [before]; rfl)

theorem lookup_eq_some_iff_mem {fields : List (String × Value)}
    (distinct : (fields.map Prod.fst).Nodup) {name : String} {value : Value} :
    fields.lookup name = some value ↔ (name, value) ∈ fields := by
  induction fields with
  | nil => simp
  | cons field rest inductionHypothesis =>
      obtain ⟨other, first⟩ := field
      obtain ⟨isNew, distinctRest⟩ := List.nodup_cons.1 distinct
      rw [List.lookup_cons, List.mem_cons]
      by_cases same : name = other
      · subst same
        have absent : (name, value) ∉ rest := fun isField =>
          isNew (List.mem_map.2 ⟨_, isField, rfl⟩)
        simp [absent, eq_comm]
      · simp [beq_false_of_ne same, same, inductionHypothesis distinctRest]

theorem lookup_sortFields {fields : List (String × Value)}
    (distinct : (fields.map Prod.fst).Nodup) (name : String) :
    (sortFields fields).lookup name = fields.lookup name := by
  have sameFields : (sortFields fields).Perm fields := List.mergeSort_perm _ _
  have stillDistinct := (sameFields.map Prod.fst).nodup_iff.2 distinct
  apply Option.ext
  intro value
  rw [lookup_eq_some_iff_mem stillDistinct, lookup_eq_some_iff_mem distinct, sameFields.mem_iff]

theorem lookup_map_snd (convert : Value → Result) (fields : List (String × Value)) (name : String) :
    (fields.map fun field => (field.1, convert field.2)).lookup name =
      (fields.lookup name).map convert := by
  induction fields with
  | nil => rfl
  | cons field rest inductionHypothesis =>
      rw [List.map_cons, List.lookup_cons, List.lookup_cons, inductionHypothesis]
      cases name == field.1 <;> rfl

end Fields

/-- A field is found in the sorted document where it was, sorted itself. -/
theorem field?_sorted {fields : List (String × Json)} (distinct : (fields.map Prod.fst).Nodup)
    (name : String) :
    (Json.object fields).sorted.field? name = ((Json.object fields).field? name).map sorted := by
  have stillDistinct :
      ((fields.map fun field => (field.1, field.2.sorted)).map Prod.fst).Nodup := by
    rw [List.map_map]
    exact distinct
  rw [sorted, field?, field?, sortedFields_eq_map, lookup_sortFields stillDistinct, lookup_map_snd]

end Json

/-! ## Dumping a document -/

namespace Payload

open Json (integersFit itemsFit fieldsFit sorted sortedItems sortedFields sortFields)

theorem ofItems_eq_map (items : List Json) : ofItems items = items.map ofJson := by
  induction items with
  | nil => rfl
  | cons item rest inductionHypothesis => rw [ofItems, inductionHypothesis, List.map_cons]

theorem ofFields_eq_map (fields : List (String × Json)) :
    ofFields fields = fields.map fun field => (field.1, ofJson field.2) := by
  induction fields with
  | nil => rfl
  | cons field rest inductionHypothesis => rw [ofFields, inductionHypothesis, List.map_cons]

/-- Fields with documents in all of them are gathered as they are. -/
theorem mapM_ok (fields : List (String × Json)) :
    ((fields.map fun field => (field.1, (.ok field.2 : Except DumpError Json))).mapM
      fun (name, value) => value.map fun document => (name, document)) = .ok fields := by
  induction fields with
  | nil => rfl
  | cons field rest inductionHypothesis =>
      rw [List.map_cons, List.mapM_cons, inductionHypothesis]
      rfl

mutual

/-- A document whose integers fit is dumped with its fields sorted. -/
theorem toJson_ofJson : ∀ document : Json, document.integersFit = true →
    (ofJson document).toJson = .ok document.sorted
  | .null, _ => rfl
  | .bool _, _ => rfl
  | .string _, _ => rfl
  | .integer value, fits => by
      rw [ofJson, toJson, Json.checked, if_pos fits]
      rfl
  | .array items, fits => by
      rw [ofJson, toJson, toItems_ofItems items fits]
      rfl
  | .object fields, fits => by
      rw [ofJson, toJson, toFields_ofFields fields fits, Json.sortFields_map]
      simp only [mapM_ok]
      rfl

theorem toItems_ofItems : ∀ items : List Json, itemsFit items = true →
    toItems (ofItems items) = .ok (sortedItems items)
  | [], _ => rfl
  | item :: rest, fits => by
      rw [itemsFit, Bool.and_eq_true] at fits
      rw [ofItems, toItems, toJson_ofJson item fits.1, toItems_ofItems rest fits.2]
      rfl

theorem toFields_ofFields : ∀ fields : List (String × Json), fieldsFit fields = true →
    toFields (ofFields fields) = (sortedFields fields).map fun field => (field.1, .ok field.2)
  | [], _ => rfl
  | (name, value) :: rest, fits => by
      rw [fieldsFit, Bool.and_eq_true] at fits
      rw [ofFields, toFields, toJson_ofJson value fits.1, toFields_ofFields rest fits.2]
      rfl

end

theorem dumps_ofJson {document : Json} (fits : document.integersFit = true) :
    (ofJson document).dumps = .ok document.sorted.render := by
  rw [dumps, toJson_ofJson document fits]
  rfl

end Payload

/-! ## Failures whose wording is a text -/

theorem DirectiveError.toDict_eq_ofJson {error : DirectiveError} (isText : error.isText = true) :
    error.toDict = Payload.ofJson error.document := by
  rw [toDict, isText]
  rfl

theorem Failure.toDict_eq_ofJson {failure : Failure} (isText : failure.isText = true) :
    failure.toDict = Payload.ofJson failure.document := by
  have sameErrors : failure.errors.map DirectiveError.toDict =
      Payload.ofItems (failure.errors.map DirectiveError.document) := by
    rw [Payload.ofItems_eq_map, List.map_map]
    exact List.map_congr_left fun error isError =>
      DirectiveError.toDict_eq_ofJson (List.all_eq_true.1 isText error isError)
  rw [toDict, isText, sameErrors]
  rfl

end Annotations
