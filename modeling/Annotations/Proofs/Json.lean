import Annotations.Json
import Annotations.Proofs.Text.Numeral

/-!
Contract: the text of a JSON document determines the document.

Every piece of a text can be split off its front. A string ends at the first
quote that is not escaped, a numeral before the first character of another kind,
and an array or object where its items do. So documents with the same text agree
part by part, down to the order of their fields.

Owns:

- `unescape?`, which reads a character back;
- `IsDelimited`, that an item can be split off the front of a text;
- `render_injective`.
-/

namespace Annotations.Json

open Text

/-! ## Characters of a string -/

def hexValue (c : Char) : Nat :=
  if c.isDigit then c.toNat - '0'.toNat else c.toNat + 10 - 'a'.toNat

/-- The first character inside a JSON string, and the rest of the string. A quote ends it. -/
def unescape? : List Char → Option (Char × List Char)
  | '\\' :: 'u' :: '0' :: '0' :: high :: low :: rest =>
      some (Char.ofNat (16 * hexValue high + hexValue low), rest)
  | '\\' :: 'b' :: rest => some ('\x08', rest)
  | '\\' :: 'f' :: rest => some ('\x0c', rest)
  | '\\' :: 'n' :: rest => some ('\n', rest)
  | '\\' :: 'r' :: rest => some ('\r', rest)
  | '\\' :: 't' :: rest => some ('\t', rest)
  | '\\' :: c :: rest => some (c, rest)
  | '"' :: _ => none
  | c :: rest => some (c, rest)
  | [] => none

theorem hexValue_hexDigit : ∀ value < 16, hexValue (hexDigit value) = value := by
  decide

theorem unescape?_control {c : Char} (isControl : c.toNat < 0x20) (rest : List Char) :
    unescape?
        ('\\' :: 'u' :: '0' :: '0' :: hexDigit (c.toNat / 16) :: hexDigit (c.toNat % 16) :: rest) =
      some (c, rest) := by
  have high := hexValue_hexDigit (c.toNat / 16) (by omega)
  have low := hexValue_hexDigit (c.toNat % 16) (by omega)
  rw [unescape?, high, low, Nat.div_add_mod, Char.ofNat_toNat]

theorem unescape?_plain {c : Char} (notQuote : c ≠ '"') (notBackslash : c ≠ '\\')
    (rest : List Char) : unescape? (c :: rest) = some (c, rest) := by
  unfold unescape?
  split <;> simp_all

theorem unescape?_escapeChar (c : Char) (rest : List Char) :
    unescape? (escapeChar c ++ rest) = some (c, rest) := by
  unfold escapeChar
  split_ifs with isQuote isBackslash _ _ _ _ _ isControl
  any_goals
    subst c
    rfl
  · exact unescape?_control isControl rest
  · exact unescape?_plain isQuote isBackslash rest

theorem escapeChar_append_inj {c d : Char} {rest further : List Char}
    (same : escapeChar c ++ rest = escapeChar d ++ further) : c = d ∧ rest = further := by
  have read := unescape?_escapeChar c rest
  rw [same, unescape?_escapeChar] at read
  obtain ⟨sameChar, sameRest⟩ := Prod.mk.inj (Option.some.inj read)
  exact ⟨sameChar.symm, sameRest.symm⟩

/-- No escaped character begins with a quote. -/
theorem escapeChar_append_ne (c : Char) (rest further : List Char) :
    escapeChar c ++ rest ≠ '"' :: further := by
  intro same
  have read := unescape?_escapeChar c rest
  rw [same] at read
  contradiction

theorem escaped_append_inj {text other rest further : List Char}
    (same : text.flatMap escapeChar ++ '"' :: rest = other.flatMap escapeChar ++ '"' :: further) :
    text = other ∧ rest = further := by
  induction text generalizing other with
  | nil =>
      cases other with
      | nil => exact ⟨rfl, (List.cons.inj same).2⟩
      | cons d other =>
          rw [List.flatMap_cons, List.append_assoc] at same
          exact absurd same.symm (escapeChar_append_ne d _ _)
  | cons c text inductionHypothesis =>
      rw [List.flatMap_cons, List.append_assoc] at same
      cases other with
      | nil => exact absurd same (escapeChar_append_ne c _ _)
      | cons d other =>
          rw [List.flatMap_cons, List.append_assoc] at same
          obtain ⟨rfl, sameRest⟩ := escapeChar_append_inj same
          obtain ⟨rfl, sameEnd⟩ := inductionHypothesis sameRest
          exact ⟨rfl, sameEnd⟩

theorem toList_quote (text : String) :
    (quote text).toList = '"' :: (text.toList.flatMap escapeChar ++ ['"']) := by
  simp [quote]

/-- Texts that begin with quoted texts agree only if the quoted texts do, and what follows them. -/
theorem quote_append_inj {text other : String} {rest further : List Char}
    (same : (quote text).toList ++ rest = (quote other).toList ++ further) :
    text = other ∧ rest = further := by
  rw [toList_quote, toList_quote] at same
  simp only [List.cons_append, List.append_assoc, List.nil_append, List.cons.injEq, true_and]
    at same
  obtain ⟨sameText, sameRest⟩ := escaped_append_inj same
  exact ⟨String.toList_injective sameText, sameRest⟩

/-! ## Items in brackets -/

section Items

variable {Item : Type} {write : Item → String} {items others : List Item}
  {rest further : List Char}

/-- The text of an item can be split off a longer text, unless that goes on with a digit. -/
def IsDelimited (write : Item → String) (item : Item) : Prop :=
  ∀ (other : Item) (rest further : List Char),
    StopsRun isNumeral rest → StopsRun isNumeral further →
      (write item).toList ++ rest = (write other).toList ++ further → item = other ∧ rest = further

def furtherItems (write : Item → String) (gap : List Char) (items : List Item) : List Char :=
  items.flatMap fun item => ',' :: (gap ++ (write item).toList)

theorem furtherItems_cons (gap : List Char) (item : Item) (items : List Item) :
    furtherItems write gap (item :: items) =
      ',' :: (gap ++ ((write item).toList ++ furtherItems write gap items)) := by
  simp [furtherItems]

theorem stopsRun_furtherItems (gap : List Char) (items : List Item) (rest : List Char) :
    StopsRun isNumeral (furtherItems write gap items ++ '\n' :: rest) := by
  cases items with
  | nil => exact stopsRun_cons (by decide) rest
  | cons item items =>
      rw [furtherItems_cons]
      exact stopsRun_cons (by decide) _

theorem furtherItems_append_inj {gap : List Char} (each : ∀ item ∈ items, IsDelimited write item)
    (same : furtherItems write gap items ++ '\n' :: rest =
      furtherItems write gap others ++ '\n' :: further) :
    items = others ∧ rest = further := by
  induction items generalizing others with
  | nil =>
      cases others with
      | nil => exact ⟨rfl, (List.cons.inj same).2⟩
      | cons other others =>
          rw [furtherItems_cons] at same
          simp [furtherItems] at same
  | cons item items inductionHypothesis =>
      rw [furtherItems_cons] at same
      cases others with
      | nil => simp [furtherItems] at same
      | cons other others =>
          rw [furtherItems_cons] at same
          simp only [List.cons_append, List.append_assoc, List.cons.injEq, true_and,
            List.append_cancel_left_eq] at same
          obtain ⟨first, later⟩ := List.forall_mem_cons.1 each
          obtain ⟨rfl, sameRest⟩ := first other _ _ (stopsRun_furtherItems gap items rest)
            (stopsRun_furtherItems gap others further) same
          obtain ⟨rfl, sameEnd⟩ := inductionHypothesis later sameRest
          exact ⟨rfl, sameEnd⟩

theorem toList_newline (level : Nat) :
    (newline level).toList = '\n' :: List.replicate (2 * level) ' ' := by
  simp [newline]

theorem toList_enclose_nil (opening closing : String) (level : Nat) :
    (enclose opening closing level []).toList = opening.toList ++ closing.toList := by
  simp [enclose]

theorem intercalate_eq_furtherItems (gap : List Char) (first : List Char) (items : List Item) :
    (',' :: gap).intercalate (first :: items.map fun item => (write item).toList) =
      first ++ furtherItems write gap items := by
  induction items generalizing first with
  | nil => simp [furtherItems]
  | cons item items inductionHypothesis =>
      rw [List.map_cons, List.intercalate_cons_cons, inductionHypothesis, furtherItems_cons]
      simp

theorem toList_enclose_cons (opening closing : String) (level : Nat) (item : Item)
    (items : List Item) :
    (enclose opening closing level ((item :: items).map write)).toList =
      opening.toList ++ ((newline (level + 1)).toList ++ ((write item).toList ++
        (furtherItems write (newline (level + 1)).toList items ++
          ((newline level).toList ++ closing.toList)))) := by
  have joined := @intercalate_eq_furtherItems Item write (newline (level + 1)).toList
    (write item).toList items
  have separator : ("," ++ newline (level + 1)).toList = ',' :: (newline (level + 1)).toList := by
    rw [String.toList_append]
    rfl
  rw [enclose, if_neg (by simp)]
  simp only [String.toList_append, String.toList_intercalate, List.map_cons, List.map_map,
    Function.comp_def, List.append_assoc] at joined separator ⊢
  rw [separator, joined, List.append_assoc]

/-- Items in the same brackets agree if their texts do, and what follows the brackets. -/
theorem enclose_append_inj {opening closing : String} {level : Nat}
    (isBracket : ∀ rest further : List Char, closing.toList ++ rest ≠ '\n' :: further)
    (each : ∀ item ∈ items, IsDelimited write item)
    (same : (enclose opening closing level (items.map write)).toList ++ rest =
      (enclose opening closing level (others.map write)).toList ++ further) :
    items = others ∧ rest = further := by
  cases items with
  | nil =>
      cases others with
      | nil => exact ⟨rfl, List.append_cancel_left same⟩
      | cons other others =>
          rw [toList_enclose_cons, List.map_nil, toList_enclose_nil, toList_newline] at same
          simp only [List.append_assoc, List.cons_append, List.append_cancel_left_eq] at same
          exact absurd same (isBracket _ _)
  | cons item items =>
      rw [toList_enclose_cons, toList_newline, toList_newline] at same
      cases others with
      | nil =>
          rw [List.map_nil, toList_enclose_nil] at same
          simp only [List.append_assoc, List.cons_append, List.append_cancel_left_eq] at same
          exact absurd same.symm (isBracket _ _)
      | cons other others =>
          rw [toList_enclose_cons, toList_newline, toList_newline] at same
          simp only [List.append_assoc, List.append_cancel_left_eq, List.cons_append,
            List.cons.injEq, true_and] at same
          obtain ⟨first, later⟩ := List.forall_mem_cons.1 each
          obtain ⟨rfl, sameRest⟩ := first other _ _ (stopsRun_furtherItems _ items _)
            (stopsRun_furtherItems _ others _) same
          obtain ⟨rfl, sameEnd⟩ := furtherItems_append_inj later sameRest
          simp only [List.append_cancel_left_eq] at sameEnd
          exact ⟨rfl, sameEnd⟩

end Items

/-! ## Documents -/

theorem renderItems_eq_map (level : Nat) (items : List Json) :
    renderItems level items = items.map (renderAt level) := by
  induction items with
  | nil => rfl
  | cons item items inductionHypothesis => rw [renderItems, inductionHypothesis, List.map_cons]

def renderField (level : Nat) (field : String × Json) : String :=
  quote field.1 ++ ": " ++ renderAt level field.2

theorem renderFields_eq_map (level : Nat) (fields : List (String × Json)) :
    renderFields level fields = fields.map (renderField level) := by
  induction fields with
  | nil => rfl
  | cons field fields inductionHypothesis =>
      rw [renderFields, inductionHypothesis, List.map_cons]
      rfl

/-- A character as far as the kind of a document shows in it: all of a numeral look alike. -/
def kindOf (c : Char) : Char :=
  if isNumeral c then '0' else c

/-- The kind of a document, as the first character of its text shows it. -/
def lead : Json → Char
  | .null => 'n'
  | .bool value => if value then 't' else 'f'
  | .integer _ => '0'
  | .string _ => '"'
  | .array _ => '['
  | .object _ => '\x7b'

theorem exists_enclose_eq_append (opening closing : String) (level : Nat) (texts : List String) :
    ∃ inside, (enclose opening closing level texts).toList = opening.toList ++ inside := by
  cases texts with
  | nil => exact ⟨_, String.toList_append⟩
  | cons text texts =>
      unfold enclose
      rw [if_neg (by simp)]
      simp only [String.toList_append, List.append_assoc]
      exact ⟨_, rfl⟩

theorem head?_renderAt_append (level : Nat) (document : Json) (rest : List Char) :
    ((renderAt level document).toList ++ rest).head?.map kindOf = some document.lead := by
  cases document with
  | null =>
      rw [renderAt]
      rfl
  | bool value => cases value <;> rw [renderAt] <;> rfl
  | integer value =>
      rw [renderAt]
      cases digits : (toString value).toList with
      | nil => exact absurd digits (toString_ne_nil value)
      | cons c digits' =>
          have isDigit := isNumeral_of_mem_toString value c (digits ▸ List.mem_cons_self)
          simp [kindOf, isDigit, lead]
  | string value =>
      rw [renderAt, toList_quote]
      rfl
  | array items =>
      rw [renderAt]
      obtain ⟨inside, opens⟩ :=
        exists_enclose_eq_append "[" "]" level (renderItems (level + 1) items)
      rw [opens]
      rfl
  | object fields =>
      rw [renderAt]
      obtain ⟨inside, opens⟩ :=
        exists_enclose_eq_append "\x7b" "\x7d" level (renderFields (level + 1) fields)
      rw [opens]
      rfl

/-- Documents whose texts go on alike are of one kind. -/
theorem lead_eq_of_append_eq {level : Nat} {document other : Json} {rest further : List Char}
    (same : (renderAt level document).toList ++ rest = (renderAt level other).toList ++ further) :
    document.lead = other.lead := by
  have shown := head?_renderAt_append level document rest
  rw [same, head?_renderAt_append] at shown
  exact (Option.some.inj shown).symm

mutual

/-- The text of a document can be split off a longer text. -/
theorem isDelimited_renderAt : ∀ (level : Nat) (document : Json),
    IsDelimited (renderAt level) document
  | level, .null => by
      intro other rest further _ _ same
      have sameLead := lead_eq_of_append_eq same
      cases other with
      | null => exact ⟨rfl, List.append_cancel_left same⟩
      | _ => grind [lead]
  | level, .bool value => by
      intro other rest further _ _ same
      have sameLead := lead_eq_of_append_eq same
      cases other with
      | bool otherValue =>
          obtain rfl : value = otherValue := by
            grind [lead]
          exact ⟨rfl, List.append_cancel_left same⟩
      | _ => grind [lead]
  | level, .integer value => by
      intro other rest further stops otherStops same
      have sameLead := lead_eq_of_append_eq same
      cases other with
      | integer otherValue =>
          rw [renderAt, renderAt] at same
          obtain ⟨rfl, sameRest⟩ := toString_append_inj stops otherStops same
          exact ⟨rfl, sameRest⟩
      | _ => grind [lead]
  | level, .string value => by
      intro other rest further _ _ same
      have sameLead := lead_eq_of_append_eq same
      cases other with
      | string otherValue =>
          rw [renderAt, renderAt] at same
          obtain ⟨rfl, sameRest⟩ := quote_append_inj same
          exact ⟨rfl, sameRest⟩
      | _ => grind [lead]
  | level, .array items => by
      intro other rest further _ _ same
      have sameLead := lead_eq_of_append_eq same
      cases other with
      | array others =>
          rw [renderAt, renderAt, renderItems_eq_map, renderItems_eq_map] at same
          obtain ⟨rfl, sameRest⟩ := enclose_append_inj (by simp)
            (isDelimited_items (level + 1) items) same
          exact ⟨rfl, sameRest⟩
      | _ => grind [lead]
  | level, .object fields => by
      intro other rest further _ _ same
      have sameLead := lead_eq_of_append_eq same
      cases other with
      | object others =>
          rw [renderAt, renderAt, renderFields_eq_map, renderFields_eq_map] at same
          obtain ⟨rfl, sameRest⟩ := enclose_append_inj (by simp)
            (isDelimited_fields (level + 1) fields) same
          exact ⟨rfl, sameRest⟩
      | _ => grind [lead]

theorem isDelimited_items : ∀ (level : Nat) (items : List Json),
    ∀ item ∈ items, IsDelimited (renderAt level) item
  | _, [] => nofun
  | level, item :: items =>
      List.forall_mem_cons.2 ⟨isDelimited_renderAt level item, isDelimited_items level items⟩

theorem isDelimited_fields : ∀ (level : Nat) (fields : List (String × Json)),
    ∀ field ∈ fields, IsDelimited (renderField level) field
  | _, [] => nofun
  | level, (name, value) :: fields => by
      have first : IsDelimited (renderField level) (name, value) := by
        intro other rest further stops otherStops same
        unfold renderField at same
        simp only [String.toList_append, List.append_assoc] at same
        obtain ⟨sameName, sameValue⟩ := quote_append_inj same
        obtain ⟨sameValue, sameRest⟩ := isDelimited_renderAt level value other.2 rest further stops
          otherStops (List.append_cancel_left sameValue)
        exact ⟨Prod.ext sameName sameValue, sameRest⟩
      exact List.forall_mem_cons.2 ⟨first, isDelimited_fields level fields⟩

end

/-- Documents with the same text are the same, also in the order of their fields. -/
theorem render_injective : Function.Injective render := by
  intro document other same
  have sameText := congrArg (fun text => text.toList ++ []) same
  exact (isDelimited_renderAt 0 document other [] [] stopsRun_nil stopsRun_nil sameText).1

end Annotations.Json
