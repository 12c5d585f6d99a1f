import Mathlib.Data.List.Induction
import Mathlib.Data.List.Nodup
import Mathlib.Data.List.Perm.Basic
import Annotations.Suppression

/-!
Contract: the sorted lists of the library.

Owns:

- sorting by a key of any order, which gives ascending keys and, where keys tell
  the items apart, does not depend on the order the items came in;
- `IsStableSort`, which tells the sorted list where keys do not tell them apart;
- sorting by line, which is stable, and `IsReordering`, which it undoes;
- `Tabulates`, which fixes a table of rules by the items of each rule;
- `groupByRule` as a table: what each rule looks up, and that it loses and
  repeats nothing of what was filed.
-/

namespace Annotations

/-! ## Sorting by a key -/

theorem isLE_trans {Item : Type} (order : Item → Item → Ordering) [Std.TransCmp order]
    (left middle right : Item) (first : (order left middle).isLE = true)
    (second : (order middle right).isLE = true) : (order left right).isLE = true :=
  Std.TransCmp.isLE_trans first second

theorem isLE_total {Item : Type} (order : Item → Item → Ordering) [Std.OrientedCmp order]
    (left right : Item) : ((order left right).isLE || (order right left).isLE) = true := by
  have swapped : order right left = (order left right).swap := Std.OrientedCmp.eq_swap
  rw [swapped]
  cases order left right <;> rfl

/-- A list sorted by a linear order ascends in it. -/
theorem pairwise_mergeSort_isLE {Item : Type} (order : Item → Item → Ordering)
    [Std.TransCmp order] (items : List Item) :
    (items.mergeSort fun left right => (order left right).isLE).Pairwise
      fun left right => (order left right).isLE = true :=
  List.pairwise_mergeSort (isLE_trans order) (isLE_total order) items

/-- Keys ascend in a list sorted by them. -/
theorem pairwise_mergeSort_compare {Item Key : Type} [Ord Key] [Std.TransOrd Key]
    (keyOf : Item → Key) (items : List Item) :
    (items.mergeSort fun left right => (compare (keyOf left) (keyOf right)).isLE).Pairwise
      fun left right => (compare (keyOf left) (keyOf right)).isLE = true :=
  pairwise_mergeSort_isLE (compareOn keyOf) items

/-- Items in the order of a comparison; those that compare equal keep the order they came in. -/
structure IsStableSort {Item : Type} (order : Item → Item → Ordering) (items sorted : List Item) :
    Prop where
  permuted : sorted.Perm items
  ascending : sorted.Pairwise fun left right => (order left right).isLE = true
  stable : ∀ item, sorted.filter (fun other => order item other = .eq) =
    items.filter fun other => order item other = .eq

theorem isStableSort_mergeSort {Item : Type} (order : Item → Item → Ordering)
    [Std.TransCmp order] (items : List Item) :
    IsStableSort order items (items.mergeSort fun left right => (order left right).isLE) where
  permuted := List.mergeSort_perm items _
  ascending := pairwise_mergeSort_isLE order items
  stable := by
    intro item
    -- The tied items are sorted as they stand, so they are left in this order.
    have tied : (items.filter fun other => order item other = .eq).Pairwise
        fun left right => (order left right).isLE = true := by
      refine List.pairwise_of_forall_mem_list ?_
      intro left isLeft right isRight
      have leftTied : order item left = .eq := by simpa using (List.mem_filter.1 isLeft).2
      have rightTied : order item right = .eq := by simpa using (List.mem_filter.1 isRight).2
      rw [Std.TransCmp.eq_trans (Std.OrientedCmp.eq_symm leftTied) rightTied]
      rfl
    have kept : (items.filter fun other => order item other = .eq).Sublist
        (items.mergeSort fun left right => (order left right).isLE) :=
      List.sublist_mergeSort (isLE_trans order) (isLE_total order) tied List.filter_sublist
    have keptTied := kept.filter fun other => decide (order item other = .eq)
    rw [List.filter_filter] at keptTied
    simp only [Bool.and_self] at keptTied
    exact (keptTied.eq_of_length
      (((List.mergeSort_perm items _).filter _).length_eq).symm).symm

theorem IsStableSort.filter {Item : Type} {order : Item → Item → Ordering}
    {items sorted : List Item} (stable : IsStableSort order items sorted) (keep : Item → Bool) :
    IsStableSort order (items.filter keep) (sorted.filter keep) where
  permuted := stable.permuted.filter keep
  ascending := stable.ascending.filter keep
  stable := by
    intro item
    rw [List.filter_comm, stable.stable item, List.filter_comm]

section Ties

variable {Item : Type}

theorem mem_ties (order : Item → Item → Ordering) [Std.ReflCmp order] {items : List Item}
    {item : Item} (isItem : item ∈ items) :
    item ∈ items.filter fun other => order item other = .eq :=
  List.mem_filter.2 ⟨isItem, decide_eq_true Std.ReflCmp.compare_self⟩

variable {order : Item → Item → Ordering} [Std.TransCmp order]

/-- The head of an ascending list is at most what ties with an item of the list. -/
theorem isLE_head_of_mem_ties {first item tied : Item} {rest : List Item}
    (ascending : (first :: rest).Pairwise fun left right => (order left right).isLE = true)
    (isTied : tied ∈ (first :: rest).filter fun other => order item other = .eq) :
    (order first item).isLE = true := by
  obtain ⟨isOther, ties⟩ := List.mem_filter.1 isTied
  have same : order tied item = .eq := Std.OrientedCmp.eq_symm (of_decide_eq_true ties)
  rcases List.mem_cons.1 isOther with rfl | later
  · rw [same]
    rfl
  · refine Std.TransCmp.isLE_trans ((List.pairwise_cons.1 ascending).1 tied later) ?_
    rw [same]
    rfl

/-- Two ascending lists are equal if the items that tie with any one stand alike in both. The
induction takes off the heads, which tie with each other. -/
theorem eq_of_same_ties {left right : List Item}
    (ascending : left.Pairwise fun first second => (order first second).isLE = true)
    (otherAscending : right.Pairwise fun first second => (order first second).isLE = true)
    (sameTies : ∀ item, left.filter (fun other => order item other = .eq) =
      right.filter fun other => order item other = .eq) : left = right := by
  induction left generalizing right with
  | nil =>
      cases right with
      | nil => rfl
      | cons head tail =>
          have isTied := mem_ties order (List.mem_cons_self (a := head) (l := tail))
          rw [← sameTies head] at isTied
          contradiction
  | cons first rest inductionHypothesis =>
      have isTied := mem_ties order (List.mem_cons_self (a := first) (l := rest))
      rw [sameTies first] at isTied
      cases right with
      | nil => contradiction
      | cons head tail =>
          have headTied := mem_ties order (List.mem_cons_self (a := head) (l := tail))
          rw [← sameTies head] at headTied
          have reflexive : order first first = .eq := Std.ReflCmp.compare_self
          have tie : order first head = .eq := Std.OrientedCmp.isLE_antisymm
            (isLE_head_of_mem_ties ascending headTied)
            (isLE_head_of_mem_ties otherAscending isTied)
          have heads := sameTies first
          simp only [List.filter_cons, reflexive, tie, decide_true, ite_true] at heads
          obtain rfl := List.head_eq_of_cons_eq heads
          congr 1
          refine inductionHypothesis ascending.of_cons otherAscending.of_cons ?_
          intro item
          have ties := sameTies item
          by_cases tied : order item first = .eq
          · simp only [List.filter_cons, tied, decide_true, ite_true] at ties
            exact List.tail_eq_of_cons_eq ties
          · simpa only [List.filter_cons, tied, decide_false, Bool.false_eq_true, ite_false]
              using ties

/-- A list has one stable sort. -/
theorem IsStableSort.unique {items sorted other : List Item}
    (stable : IsStableSort order items sorted) (another : IsStableSort order items other) :
    sorted = other :=
  eq_of_same_ties stable.ascending another.ascending fun item =>
    (stable.stable item).trans (another.stable item).symm

end Ties

/-- Of distinct keys in ascending order the first is strictly less. -/
theorem compare_eq_lt_of_ne {Key : Type} [Ord Key] [Std.LawfulEqOrd Key] {left right : Key}
    (ascending : (compare left right).isLE = true) (different : left ≠ right) :
    compare left right = .lt := by
  cases outcome : compare left right with
  | lt => rfl
  | eq => exact absurd (Std.LawfulEqOrd.eq_of_compare outcome) different
  | gt =>
      rw [outcome] at ascending
      contradiction

theorem nodup_of_pairwise_lt {Key : Type} [Ord Key] [Std.ReflOrd Key] {keys : List Key}
    (ascending : keys.Pairwise fun left right => compare left right = .lt) : keys.Nodup := by
  refine ascending.imp ?_
  rintro key _ below rfl
  have same : compare key key = .eq := Std.ReflCmp.compare_self
  rw [same] at below
  contradiction

/-- Items that are told apart by their keys have one sorted list, whatever order they came in. -/
theorem mergeSort_eq_of_perm {Item Key : Type} [Ord Key] [Std.TransOrd Key] [Std.LawfulEqOrd Key]
    (keyOf : Item → Key) {left right : List Item} (permuted : left.Perm right)
    (keyed : ∀ first ∈ left, ∀ second ∈ left, keyOf first = keyOf second → first = second) :
    (left.mergeSort fun first second => (compare (keyOf first) (keyOf second)).isLE) =
      right.mergeSort fun first second => (compare (keyOf first) (keyOf second)).isLE := by
  refine List.Perm.eq_of_pairwise ?_ (pairwise_mergeSort_compare keyOf left)
    (pairwise_mergeSort_compare keyOf right)
    (((List.mergeSort_perm left _).trans permuted).trans (List.mergeSort_perm right _).symm)
  intro first second isFirst isSecond ascending descending
  have sameKey : keyOf first = keyOf second :=
    Std.LawfulEqOrd.eq_of_compare (Std.OrientedCmp.isLE_antisymm ascending descending)
  have inRight : second ∈ right := List.mem_mergeSort.1 isSecond
  exact keyed first (List.mem_mergeSort.1 isFirst) second (permuted.mem_iff.2 inRight) sameKey

/-- The same for items that are their own keys. -/
theorem mergeSort_compare_eq_of_perm {Item : Type} [Ord Item] [Std.TransOrd Item]
    [Std.LawfulEqOrd Item] {left right : List Item} (permuted : left.Perm right) :
    (left.mergeSort fun first second => (compare first second).isLE) =
      right.mergeSort fun first second => (compare first second).isLE :=
  mergeSort_eq_of_perm id permuted fun _ _ _ _ same => same

/-! ## Sorting by line -/

section ByLine

variable {Item : Type} (lineOf : Item → Line)

theorem mem_sortByLine {items : List Item} {item : Item} :
    item ∈ sortByLine lineOf items ↔ item ∈ items := by
  unfold sortByLine
  exact List.mem_mergeSort

theorem isStableSort_sortByLine (items : List Item) :
    IsStableSort (compareOn lineOf) items (sortByLine lineOf items) := by
  have sameOrder : (fun left right : Item => decide (lineOf left ≤ lineOf right)) =
      fun left right => (compareOn lineOf left right).isLE := by
    funext left right
    rw [compareOn, Bool.eq_iff_iff, decide_eq_true_eq, Int.isLE_compare]
  unfold sortByLine
  rw [sameOrder]
  exact isStableSort_mergeSort (compareOn lineOf) items

/-- Lines ascend in a list sorted by line. -/
theorem pairwise_sortByLine (items : List Item) :
    (sortByLine lineOf items).Pairwise fun left right => lineOf left ≤ lineOf right :=
  (isStableSort_sortByLine lineOf items).ascending.imp fun ascending => Int.isLE_compare.1 ascending

theorem sortByLine_of_pairwise {items : List Item}
    (ascending : items.Pairwise fun left right => lineOf left ≤ lineOf right) :
    sortByLine lineOf items = items := by
  unfold sortByLine
  exact List.mergeSort_of_pairwise (ascending.imp decide_eq_true)

/-- Sorting by line commutes with dropping items. -/
theorem filter_sortByLine (keep : Item → Bool) (items : List Item) :
    (sortByLine lineOf items).filter keep = sortByLine lineOf (items.filter keep) :=
  ((isStableSort_sortByLine lineOf items).filter keep).unique (isStableSort_sortByLine lineOf _)

end ByLine

/-- One list holds the items of the other, those of each key in the same order. -/
structure IsReordering {Item Key : Type} [DecidableEq Key] (keyOf : Item → Key)
    (left right : List Item) : Prop where
  permuted : left.Perm right
  kept : ∀ key, left.filter (fun item => keyOf item = key) =
    right.filter fun item => keyOf item = key

/-- Items of different keys can be swapped where they are neighbours. -/
theorem IsReordering.swap {Item Key : Type} [DecidableEq Key] {keyOf : Item → Key}
    {first second : Item} (different : keyOf first ≠ keyOf second) (rest : List Item) :
    IsReordering keyOf (first :: second :: rest) (second :: first :: rest) where
  permuted := .swap second first rest
  kept := by
    intro key
    by_cases ofFirst : keyOf first = key
    · have notSecond : keyOf second ≠ key := fun ofSecond => different (ofFirst.trans ofSecond.symm)
      simp [ofFirst, notSecond]
    · simp [List.filter_cons, ofFirst]

/-- Lists that hold the same items, both in an order that tells the items of each key apart, are
reorderings of each other. -/
theorem isReordering_of_pairwise {Item Key : Type} [DecidableEq Key] {keyOf : Item → Key}
    {relation : Item → Item → Prop} {left right : List Item} (permuted : left.Perm right)
    (ascending : left.Pairwise relation) (otherAscending : right.Pairwise relation)
    (toldApart : ∀ first ∈ left, ∀ second ∈ left, keyOf first = keyOf second →
      relation first second → relation second first → first = second) :
    IsReordering keyOf left right where
  permuted := permuted
  kept := by
    intro key
    refine List.Perm.eq_of_pairwise ?_ (ascending.filter _) (otherAscending.filter _)
      (permuted.filter _)
    intro first second isFirst isSecond below above
    obtain ⟨inLeft, ofFirst⟩ := List.mem_filter.1 isFirst
    obtain ⟨inRight, ofSecond⟩ := List.mem_filter.1 isSecond
    have sameKey : keyOf first = keyOf second :=
      (of_decide_eq_true ofFirst).trans (of_decide_eq_true ofSecond).symm
    exact toldApart first inLeft second (permuted.mem_iff.2 inRight) sameKey below above

theorem IsReordering.append_left {Item Key : Type} [DecidableEq Key] {keyOf : Item → Key}
    {left right : List Item} (reordered : IsReordering keyOf left right) (earlier : List Item) :
    IsReordering keyOf (earlier ++ left) (earlier ++ right) where
  permuted := reordered.permuted.append_left earlier
  kept := by
    intro key
    rw [List.filter_append, List.filter_append, reordered.kept]

/-- A stable sort undoes a reordering that keeps the items that tie in order. -/
theorem IsStableSort.of_isReordering {Item Key : Type} [DecidableEq Key] {keyOf : Item → Key}
    {order : Item → Item → Ordering} {left right sorted : List Item}
    (stable : IsStableSort order left sorted)
    (tied : ∀ first second, order first second = .eq → keyOf second = keyOf first)
    (reordered : IsReordering keyOf left right) : IsStableSort order right sorted where
  permuted := stable.permuted.trans reordered.permuted
  ascending := stable.ascending
  stable := by
    intro item
    have amongKey : ∀ items : List Item,
        items.filter (fun other => order item other = .eq) =
          (items.filter fun other => keyOf other = keyOf item).filter
            fun other => order item other = .eq := by
      intro items
      rw [List.filter_filter]
      apply List.filter_congr
      intro other _
      by_cases ties : order item other = .eq
      · simp [ties, tied item other ties]
      · simp [ties]
    rw [stable.stable item, amongKey left, amongKey right, reordered.kept]

/-- Sorting by line undoes a reordering that keeps the items of each line in order. -/
theorem sortByLine_eq_of_isReordering {Item : Type} {lineOf : Item → Line} {left right : List Item}
    (reordered : IsReordering lineOf left right) :
    sortByLine lineOf left = sortByLine lineOf right :=
  ((isStableSort_sortByLine lineOf left).of_isReordering
    (fun _ _ ties => (Int.compare_eq_eq.1 ties).symm) reordered).unique
      (isStableSort_sortByLine lineOf right)

/-! ## Tables of rules -/

/-- A table lists the rules that have items, in ascending order, each with its items. -/
structure Tabulates {Item : Type} (itemsOf : String → List Item)
    (table : List (String × List Item)) : Prop where
  ascending : (table.map Prod.fst).Pairwise fun left right => compare left right = .lt
  mem_iff : ∀ entry, entry ∈ table ↔ entry.2 = itemsOf entry.1 ∧ entry.2 ≠ []

namespace Tabulates

variable {Item : Type} {itemsOf : String → List Item} {table other : List (String × List Item)}

theorem nodup (tabulates : Tabulates itemsOf table) : table.Nodup :=
  List.Nodup.of_map Prod.fst (nodup_of_pairwise_lt tabulates.ascending)

/-- Items have one table. -/
theorem unique (tabulates : Tabulates itemsOf table) (another : Tabulates itemsOf other) :
    table = other := by
  have permuted : table.Perm other := by
    rw [List.perm_ext_iff_of_nodup tabulates.nodup another.nodup]
    intro entry
    rw [tabulates.mem_iff, another.mem_iff]
  refine permuted.eq_of_pairwise ?_ (List.pairwise_map.1 tabulates.ascending)
    (List.pairwise_map.1 another.ascending)
  intro left right _ _ below above
  have notBelow : compare left.1 right.1 = .gt := Std.OrientedCmp.gt_of_lt above
  rw [notBelow] at below
  contradiction

theorem mem_rules_iff (tabulates : Tabulates itemsOf table) {rule : String} :
    rule ∈ table.map Prod.fst ↔ itemsOf rule ≠ [] := by
  rw [List.mem_map]
  constructor
  · rintro ⟨entry, isEntry, rfl⟩
    obtain ⟨items, nonempty⟩ := (tabulates.mem_iff entry).1 isEntry
    exact items ▸ nonempty
  · intro nonempty
    exact ⟨(rule, itemsOf rule), (tabulates.mem_iff _).2 ⟨rfl, nonempty⟩, rfl⟩

/-- Dropping rules from a table drops their items. -/
theorem filter (tabulates : Tabulates itemsOf table) (keep : String → Bool) :
    Tabulates (fun rule => if keep rule then itemsOf rule else [])
      (table.filter fun entry => keep entry.1) where
  ascending := tabulates.ascending.sublist (List.filter_sublist.map Prod.fst)
  mem_iff := by
    intro entry
    rw [List.mem_filter, tabulates.mem_iff]
    cases keep entry.1 with
    | true => simp
    | false => simp +contextual

end Tabulates

/-! ## Grouping by rule -/

theorem nodup_eraseDups {Key : Type} [BEq Key] [LawfulBEq Key] (keys : List Key) :
    keys.eraseDups.Nodup := by
  induction keys using List.reverseRecOn with
  | nil => exact List.nodup_nil
  | append_singleton keys key inductionHypothesis =>
      rw [List.eraseDups_append]
      by_cases isOld : key ∈ keys
      · have dropped : [key].removeAll keys = [] := by simp [List.removeAll, isOld]
        rw [dropped, List.eraseDups_nil, List.append_nil]
        exact inductionHypothesis
      · have kept : [key].removeAll keys = [key] := by simp [List.removeAll, isOld]
        rw [kept, List.eraseDups_cons, List.filter_nil, List.eraseDups_nil]
        refine List.nodup_append.2 ⟨inductionHypothesis, by simp, ?_⟩
        rintro other isOther _ isKey rfl
        exact isOld (List.mem_singleton.1 isKey ▸ List.mem_eraseDups.1 isOther)

def unfiled {Item : Type} (table : List (String × List Item)) : List (String × Item) :=
  table.flatMap fun (rule, items) => items.map fun item => (rule, item)

/-- Picking the items of one rule after the other rearranges the items of these rules. -/
private theorem flatMap_filter_perm {Item : Type} (filed : List (String × Item))
    {rules : List String} (distinct : rules.Nodup) :
    (rules.flatMap fun rule => filed.filter fun entry => entry.1 == rule).Perm
      (filed.filter fun entry => decide (entry.1 ∈ rules)) := by
  induction rules with
  | nil => simp
  | cons rule rest inductionHypothesis =>
      obtain ⟨absent, distinctRest⟩ := List.nodup_cons.1 distinct
      have ofRule : (filed.filter fun entry => decide (entry.1 ∈ rule :: rest)).filter
          (fun entry => entry.1 == rule) = filed.filter fun entry => entry.1 == rule := by
        rw [List.filter_filter]
        apply List.filter_congr
        intro entry _
        by_cases same : entry.1 = rule <;> simp [same]
      have ofRest : (filed.filter fun entry => decide (entry.1 ∈ rule :: rest)).filter
          (fun entry => !(entry.1 == rule)) =
            filed.filter fun entry => decide (entry.1 ∈ rest) := by
        rw [List.filter_filter]
        apply List.filter_congr
        intro entry _
        by_cases same : entry.1 = rule
        · simp [same, absent]
        · simp [same]
      have parted := List.filter_append_perm (fun entry => entry.1 == rule)
        (filed.filter fun entry => decide (entry.1 ∈ rule :: rest))
      rw [ofRule, ofRest] at parted
      rw [List.flatMap_cons]
      exact ((inductionHypothesis distinctRest).append_left _).trans parted

section Grouping

variable {Item : Type} [Ord Item]

private theorem lookup_map_graph {Value : Type} (valueOf : String → Value) (rule : String) :
    ∀ rules : List String,
      (rules.map fun key => (key, valueOf key)).lookup rule =
        if rule ∈ rules then some (valueOf rule) else none
  | [] => rfl
  | key :: rest => by
      rw [List.map_cons, List.lookup_cons, lookup_map_graph valueOf rule rest]
      by_cases same : rule = key
      · subst same
        simp
      · have different : (rule == key) = false := beq_false_of_ne same
        simp [different, same]

/-- A rule looks up its own items in ascending order, if it has any. -/
theorem lookup_groupByRule (filed : List (String × Item)) (rule : String) :
    (groupByRule filed).lookup rule =
      if rule ∈ filed.map Prod.fst then
        some (((filed.filter fun entry => entry.1 == rule).map Prod.snd).mergeSort
          fun left right => (compare left right).isLE)
      else none := by
  unfold groupByRule
  rw [lookup_map_graph]
  simp only [List.mem_mergeSort, List.mem_eraseDups]

/-- The items found under a rule are those filed under it. -/
theorem mem_lookup_groupByRule {filed : List (String × Item)} {rule : String} {item : Item} :
    (∃ items, (groupByRule filed).lookup rule = some items ∧ item ∈ items) ↔
      (rule, item) ∈ filed := by
  rw [lookup_groupByRule]
  constructor
  · intro isFound
    obtain ⟨items, found, isItem⟩ := isFound
    split at found
    next =>
      obtain rfl := Option.some.inj found
      simpa using isItem
    next => contradiction
  · intro isFiled
    have hasRule : rule ∈ filed.map Prod.fst := List.mem_map_of_mem isFiled
    rw [if_pos hasRule]
    refine ⟨_, rfl, ?_⟩
    simpa using isFiled

/-- The rules of a grouping. -/
theorem map_fst_groupByRule (filed : List (String × Item)) :
    (groupByRule filed).map Prod.fst =
      (filed.map Prod.fst).eraseDups.mergeSort fun left right => (compare left right).isLE := by
  unfold groupByRule
  simp only [List.map_map, Function.comp_def, List.map_id']

/-- The rules are those under which something was filed. -/
theorem mem_rules_groupByRule {filed : List (String × Item)} {rule : String} :
    rule ∈ (groupByRule filed).map Prod.fst ↔ ∃ item, (rule, item) ∈ filed := by
  rw [map_fst_groupByRule, List.mem_mergeSort, List.mem_eraseDups]
  simp

/-- A rule comes with its own items, sorted. -/
theorem items_of_mem_groupByRule {filed : List (String × Item)} {group : String × List Item}
    (isGroup : group ∈ groupByRule filed) :
    group.2 = ((filed.filter fun entry => entry.1 == group.1).map Prod.snd).mergeSort
      fun left right => (compare left right).isLE := by
  unfold groupByRule at isGroup
  obtain ⟨rule, -, rfl⟩ := List.mem_map.1 isGroup
  rfl

theorem nodup_rules_groupByRule (filed : List (String × Item)) :
    ((groupByRule filed).map Prod.fst).Nodup := by
  rw [map_fst_groupByRule, (List.mergeSort_perm _ _).nodup_iff]
  exact nodup_eraseDups _

/-- No rule is listed twice, so the rules ascend strictly. -/
theorem pairwise_rules_groupByRule (filed : List (String × Item)) :
    ((groupByRule filed).map Prod.fst).Pairwise fun left right => compare left right = .lt := by
  have ascending : ((groupByRule filed).map Prod.fst).Pairwise fun left right : String =>
      (compare left right).isLE = true := by
    rw [map_fst_groupByRule]
    exact pairwise_mergeSort_compare id _
  exact (ascending.and (nodup_rules_groupByRule filed)).imp fun both =>
    compare_eq_lt_of_ne both.1 both.2

/-- Grouping loses and repeats nothing of what was filed. -/
theorem unfiled_groupByRule_perm (filed : List (String × Item)) :
    (unfiled (groupByRule filed)).Perm filed := by
  have ofRule : ∀ rule : String,
      ((((filed.filter fun entry => entry.1 == rule).map Prod.snd).mergeSort
        fun left right => (compare left right).isLE).map fun item => (rule, item)).Perm
      (filed.filter fun entry => entry.1 == rule) := by
    intro rule
    refine ((List.mergeSort_perm _ _).map _).trans (List.Perm.of_eq ?_)
    rw [List.map_map]
    conv_rhs => rw [← List.map_id (filed.filter fun entry => entry.1 == rule)]
    apply List.map_congr_left
    intro entry isKept
    have isRule : entry.1 = rule := by simpa using (List.mem_filter.1 isKept).2
    simp [← isRule]
  have distinct : ((filed.map Prod.fst).eraseDups.mergeSort
      fun left right => (compare left right).isLE).Nodup :=
    (List.mergeSort_perm _ _).nodup_iff.2 (nodup_eraseDups _)
  have allKept : (filed.filter fun entry => decide (entry.1 ∈
      (filed.map Prod.fst).eraseDups.mergeSort fun left right => (compare left right).isLE)) =
        filed := by
    rw [List.filter_eq_self]
    intro entry isEntry
    simp only [List.mem_mergeSort, List.mem_eraseDups, decide_eq_true_eq]
    exact List.mem_map_of_mem isEntry
  have parted := flatMap_filter_perm filed distinct
  rw [allKept] at parted
  unfold unfiled groupByRule
  rw [List.flatMap_map]
  exact (List.Perm.flatMap_left _ fun rule _ => ofRule rule).trans parted

/-- A rule is listed only if something was filed under it. -/
theorem ne_nil_of_mem_groupByRule {filed : List (String × Item)} {group : String × List Item}
    (isGroup : group ∈ groupByRule filed) : group.2 ≠ [] := by
  obtain ⟨item, isFiled⟩ := mem_rules_groupByRule.1 (List.mem_map_of_mem (f := Prod.fst) isGroup)
  have isItem : item ∈ group.2 := by
    rw [items_of_mem_groupByRule isGroup, List.mem_mergeSort]
    exact List.mem_map.2 ⟨_, List.mem_filter.2 ⟨isFiled, by simp⟩, rfl⟩
  exact List.ne_nil_of_mem isItem

theorem tabulates_groupByRule (filed : List (String × Item)) :
    Tabulates (fun rule => ((filed.filter fun entry => entry.1 == rule).map Prod.snd).mergeSort
      fun left right => (compare left right).isLE) (groupByRule filed) where
  ascending := pairwise_rules_groupByRule filed
  mem_iff := by
    intro entry
    constructor
    · intro isGroup
      exact ⟨items_of_mem_groupByRule isGroup, ne_nil_of_mem_groupByRule isGroup⟩
    · rintro ⟨items, nonempty⟩
      obtain ⟨item, isItem⟩ := List.exists_mem_of_ne_nil _ nonempty
      rw [items, List.mem_mergeSort] at isItem
      obtain ⟨first, isFiled, -⟩ := List.mem_map.1 isItem
      have ofRule : first.1 = entry.1 := by simpa using (List.mem_filter.1 isFiled).2
      have isRule : entry.1 ∈ (groupByRule filed).map Prod.fst :=
        mem_rules_groupByRule.2 ⟨first.2, ofRule ▸ (List.mem_filter.1 isFiled).1⟩
      obtain ⟨group, isGroup, same⟩ := List.mem_map.1 isRule
      have sameItems : group.2 = entry.2 := by
        rw [items, ← same]
        exact items_of_mem_groupByRule isGroup
      rwa [Prod.ext same sameItems] at isGroup

/-- A grouping does not depend on the order of filing. -/
theorem groupByRule_eq_of_perm [Std.TransOrd Item] [Std.LawfulEqOrd Item]
    {left right : List (String × Item)} (permuted : left.Perm right) :
    groupByRule left = groupByRule right := by
  have rulesPermuted : (left.map Prod.fst).eraseDups.Perm (right.map Prod.fst).eraseDups := by
    rw [List.perm_ext_iff_of_nodup (nodup_eraseDups _) (nodup_eraseDups _)]
    intro rule
    rw [List.mem_eraseDups, List.mem_eraseDups]
    exact (permuted.map Prod.fst).mem_iff
  unfold groupByRule
  rw [mergeSort_compare_eq_of_perm rulesPermuted]
  apply List.map_congr_left
  intro rule _
  have itemsPermuted := (permuted.filter fun entry => entry.1 == rule).map Prod.snd
  rw [mergeSort_compare_eq_of_perm itemsPermuted]

end Grouping

end Annotations
