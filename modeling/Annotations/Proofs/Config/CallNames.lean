import Mathlib.Data.List.Pairwise
import Annotations.Proofs.Catalog
import Annotations.Proofs.Config.Overrides

/-!
Contract: an accepted configuration names each directive once.

The call names of directives are checked list by list, and then for names that
stand in two lists. So settings whose directives are lists of identifiers are
refused for an overlap if and only if there is one, and the catalog of a
configuration that is accepted is unambiguous.

Owns:
- `Table.GivesNames`, the lists that settings give, with the standard ones where
  nothing is set;
- `Config.Reports`, the faults for which settings are refused;
- `Config.directives_unambiguous`.

Does not own: how a catalog recognises directives; see
`Annotations.Proofs.Catalog`.
-/

namespace Annotations

/-! ## Names in two lists -/

namespace Setting

/-- Nothing is reported where a name never comes under two keys, and never under another key than
it was seen under. -/
theorem sharedName?_eq_none_iff {seen entries : List (String × String)} :
    sharedName? seen entries = none ↔
      (entries.Pairwise fun first second => first.1 = second.1 → first.2 = second.2) ∧
        ∀ entry ∈ entries, ∀ key, seen.lookup entry.1 = some key → key = entry.2 := by
  induction entries generalizing seen with
  | nil => simp [sharedName?]
  | cons entry rest inductionHypothesis =>
      obtain ⟨name, key⟩ := entry
      rw [sharedName?, List.pairwise_cons, List.forall_mem_cons]
      cases found : seen.lookup name with
      | some other =>
          by_cases sameKey : other = key
          · -- The name is seen under its own key, so what is seen already guards the rest.
            subst sameKey
            simp only [if_true, inductionHypothesis]
            constructor
            · intro restFine
              obtain ⟨apart, asSeen⟩ := restFine
              refine ⟨⟨?_, apart⟩, ?_, asSeen⟩
              · rintro ⟨laterName, laterKey⟩ isLater rfl
                exact asSeen _ isLater other found
              · rintro key ⟨⟩
                rfl
            · intro allFine
              exact ⟨allFine.1.2, allFine.2.2⟩
          · simp [sameKey]
      | none =>
          simp only [inductionHypothesis, List.lookup_cons]
          constructor
          · intro restFine
            obtain ⟨apart, asSeen⟩ := restFine
            refine ⟨⟨?_, apart⟩, nofun, ?_⟩
            · rintro ⟨laterName, laterKey⟩ isLater rfl
              exact asSeen _ isLater key (by simp)
            · intro later isLater laterKey seenEarlier
              refine asSeen later isLater laterKey ?_
              have otherName : later.1 ≠ name := by
                rintro sameName
                rw [sameName, found] at seenEarlier
                contradiction
              rwa [beq_false_of_ne otherName]
          · intro allFine
            obtain ⟨⟨first, apart⟩, -, asSeen⟩ := allFine
            refine ⟨apart, ?_⟩
            intro later isLater laterKey seenEarlier
            by_cases sameName : later.1 = name
            · rw [sameName, beq_self_eq_true] at seenEarlier
              obtain rfl := Option.some.inj seenEarlier
              exact first later isLater sameName.symm
            · rw [beq_false_of_ne sameName] at seenEarlier
              exact asSeen later isLater laterKey seenEarlier

/-- What is reported is a name under two keys. -/
theorem sharedName?_eq_some {seen entries : List (String × String)} {kind : FaultKind}
    (reported : sharedName? seen entries = some kind) :
    ∃ name first second, kind = .sharedCallName name first second ∧ first ≠ second ∧
      ((name, first) ∈ entries ∨ seen.lookup name = some first) ∧ (name, second) ∈ entries := by
  induction entries generalizing seen with
  | nil => contradiction
  | cons entry rest inductionHypothesis =>
      obtain ⟨name, key⟩ := entry
      rw [sharedName?] at reported
      cases found : seen.lookup name with
      | some other =>
          simp only [found] at reported
          split at reported
          next =>
            obtain ⟨shared, first, second, rfl, differ, isFirst, isSecond⟩ :=
              inductionHypothesis reported
            exact ⟨shared, first, second, rfl, differ, isFirst.imp_left (List.mem_cons_of_mem _),
              List.mem_cons_of_mem _ isSecond⟩
          next otherKey =>
            obtain rfl := Option.some.inj reported
            exact ⟨name, other, key, rfl, otherKey, Or.inr found, List.mem_cons_self⟩
      | none =>
          simp only [found] at reported
          obtain ⟨shared, first, second, rfl, differ, isFirst, isSecond⟩ :=
            inductionHypothesis reported
          refine ⟨shared, first, second, rfl, differ, ?_, List.mem_cons_of_mem _ isSecond⟩
          rcases isFirst with isLater | wasSeen
          · exact Or.inl (List.mem_cons_of_mem _ isLater)
          · rw [List.lookup_cons] at wasSeen
            by_cases sameName : shared = name
            · subst sameName
              rw [beq_self_eq_true] at wasSeen
              obtain rfl := Option.some.inj wasSeen
              exact Or.inl List.mem_cons_self
            · rw [beq_false_of_ne sameName] at wasSeen
              exact Or.inr wasSeen

/-! ## Reading lists of call names -/

theorem toText_eq_ok_iff {setting : Setting} {text : String} :
    setting.toText = .ok text ↔ setting = .string text := by
  cases setting <;> simp [toText, Checked.fail]

theorem all_toText_eq_ok_iff {items : List Setting} {texts : List String} (start : Nat) :
    Checked.all ((items.zipIdx start).map fun (item, place) =>
        Checked.below (.index place) item.toText) = .ok texts ↔ items = texts.map .string := by
  induction items generalizing texts start with
  | nil => cases texts <;> simp [Checked.all]
  | cons item rest inductionHypothesis =>
      rw [List.zipIdx_cons, List.map_cons, Checked.all, Checked.apply_eq_ok_iff]
      constructor
      · rintro ⟨prepend, texts, isFirst, areRest, rfl⟩
        obtain rfl := (inductionHypothesis _).1 areRest
        cases checked : item.toText with
        | error faults => simp [checked, Checked.below, Except.map, mapError_error] at isFirst
        | ok text =>
            simp only [checked, Checked.below, mapError_ok, Except.map, Except.ok.injEq] at isFirst
            obtain rfl := toText_eq_ok_iff.1 checked
            rw [← isFirst]
            rfl
      · intro same
        cases texts with
        | nil => contradiction
        | cons text texts =>
            obtain ⟨rfl, areTexts⟩ := List.cons.inj same
            exact ⟨List.cons text, texts, rfl, (inductionHypothesis _).2 areTexts, rfl⟩

theorem toTexts_eq_ok_iff {setting : Setting} {texts : List String} :
    setting.toTexts = .ok texts ↔ setting = .list (texts.map .string) := by
  cases setting with
  | list items => rw [toTexts, all_toText_eq_ok_iff, Setting.list.injEq]
  | _ => simp [toTexts, Checked.fail]

theorem toCallNames_eq_ok_iff {setting : Setting} {names : List String} :
    setting.toCallNames = .ok names ↔
      setting = .list (names.map .string) ∧
        ∀ name ∈ names, Text.isIdentifier name.toList = true := by
  unfold toCallNames
  rw [← toTexts_eq_ok_iff]
  cases setting.toTexts with
  | error faults => simp [bind, Except.bind]
  | ok texts =>
      simp only [bind, Except.bind, Except.ok.injEq]
      cases invalid : texts.find? fun name => !Text.isIdentifier name.toList with
      | some name =>
          refine ⟨nofun, ?_⟩
          rintro ⟨rfl, identifiers⟩
          have isNone := List.find?_some invalid
          simp [identifiers name (List.mem_of_find?_eq_some invalid)] at isNone
      | none =>
          have identifiers := List.find?_eq_none.1 invalid
          simp only [Bool.not_eq_eq_eq_not, Bool.not_true, Bool.not_eq_false] at identifiers
          constructor
          · rintro ⟨rfl⟩
            exact ⟨rfl, identifiers⟩
          · rintro ⟨rfl, -⟩
            rfl

end Setting

/-- The call names for symbols of a kind are these identifiers, or the standard ones where none are
set. -/
def Table.Lists (table : Table) (kind : Kind) (names : List String) : Prop :=
  match table.get? kind.listKey with
  | none => names = Catalog.standard.names kind
  | some setting =>
      setting = .list (names.map .string) ∧ ∀ name ∈ names, Text.isIdentifier name.toList = true

theorem Table.field_eq_ok_iff_lists {table : Table} {kind : Kind} {names : List String} :
    table.field kind.listKey Setting.toCallNames (Catalog.standard.names kind) = .ok names ↔
      table.Lists kind names := by
  unfold field Lists
  cases table.get? kind.listKey with
  | none => rw [Except.ok.injEq, eq_comm]
  | some setting => rw [Checked.below_eq_ok_iff, Setting.toCallNames_eq_ok_iff]

theorem Table.Lists.isIdentifier {table : Table} {kind : Kind} {names : List String}
    (lists : table.Lists kind names) : ∀ name ∈ names, Text.isIdentifier name.toList = true := by
  have standard : ∀ name ∈ Catalog.standard.names kind, Text.isIdentifier name.toList = true := by
    cases kind <;> decide
  unfold Lists at lists
  split at lists
  · exact lists ▸ standard
  · exact lists.2

/-- The settings of directives are lists of identifiers, with nothing else among them, and the
catalog has the names of these lists. -/
structure Table.GivesNames (table : Table) (catalog : Catalog) : Prop where
  lists : ∀ kind, table.Lists kind (catalog.names kind)
  known : ∀ key ∈ table.map Prod.fst, key ∈ ["constant", "method", "class_method"]

/-- All names of a catalog, each with the key of its list. -/
def Catalog.entries (catalog : Catalog) : List (String × String) :=
  [Kind.constant, .instanceMethod, .classMethod].flatMap fun kind =>
    (catalog.names kind).map fun name => (name, kind.listKey)

theorem Catalog.mem_entries_iff {catalog : Catalog} {name key : String} :
    (name, key) ∈ catalog.entries ↔ ∃ kind, name ∈ catalog.names kind ∧ key = kind.listKey := by
  have isKind (kind : Kind) : kind ∈ [Kind.constant, .instanceMethod, .classMethod] := by
    cases kind <;> decide
  unfold entries
  simp only [List.mem_flatMap, List.mem_map, Prod.mk.injEq]
  constructor
  · rintro ⟨kind, -, _, isListed, rfl, rfl⟩
    exact ⟨kind, isListed, rfl⟩
  · rintro ⟨kind, isListed, rfl⟩
    exact ⟨kind, isKind kind, name, isListed, rfl, rfl⟩

theorem Catalog.pairwise_entries_iff {catalog : Catalog} :
    (catalog.entries.Pairwise fun first second => first.1 = second.1 → first.2 = second.2) ↔
      catalog.IsDisjoint := by
  constructor
  · intro apart
    have symmetric : Std.Symm fun first second : String × String =>
        first.1 = second.1 → first.2 = second.2 :=
      ⟨fun _ _ same sameName => (same sameName.symm).symm⟩
    have agree := apart.forall_of_forall fun _ _ _ => rfl
    intro name kind other isListed alsoListed
    exact Kind.listKey_inj.1 (agree (mem_entries_iff.2 ⟨kind, isListed, rfl⟩)
      (mem_entries_iff.2 ⟨other, alsoListed, rfl⟩) rfl)
  · intro disjoint
    refine List.pairwise_of_forall_mem_list ?_
    rintro ⟨name, key⟩ isEntry ⟨_, other⟩ isOther rfl
    obtain ⟨kind, isListed, rfl⟩ := mem_entries_iff.1 isEntry
    obtain ⟨otherKind, alsoListed, rfl⟩ := mem_entries_iff.1 isOther
    exact congrArg Kind.listKey (disjoint name kind otherKind isListed alsoListed)

theorem Setting.toDisjoint_eq (catalog : Catalog) :
    toDisjoint catalog =
      match sharedName? [] catalog.entries with
      | some fault => Checked.fail fault
      | none => .ok catalog := by
  have entries : catalog.entries = catalog.constant.map (fun name => (name, "constant")) ++
      catalog.method.map (fun name => (name, "method")) ++
        catalog.classMethod.map (fun name => (name, "class_method")) := by
    simp [Catalog.entries, Catalog.names, Kind.listKey]
  rw [entries]
  rfl

theorem Setting.toDisjoint_eq_ok_iff {catalog checked : Catalog} :
    toDisjoint catalog = .ok checked ↔ catalog.IsDisjoint ∧ catalog = checked := by
  rw [toDisjoint_eq, ← Catalog.pairwise_entries_iff]
  have none_iff : sharedName? [] catalog.entries = none ↔ _ := sharedName?_eq_none_iff
  simp only [List.lookup_nil, reduceCtorEq, false_imp_iff, implies_true, and_true] at none_iff
  rw [← none_iff]
  cases sharedName? [] catalog.entries <;> simp [Checked.fail]

/-- What is reported of a catalog is a name in two of its lists. -/
theorem Setting.mem_faults_toDisjoint {catalog : Catalog} {fault : Fault}
    (reported : fault ∈ (toDisjoint catalog).faults) :
    ∃ name kind other, fault = ⟨[], .sharedCallName name kind.listKey other.listKey⟩ ∧
      kind ≠ other ∧ name ∈ catalog.names kind ∧ name ∈ catalog.names other := by
  rw [toDisjoint_eq] at reported
  cases shared : sharedName? [] catalog.entries with
  | none => simp [shared, Checked.faults] at reported
  | some kind =>
      obtain ⟨name, first, second, rfl, differ, isFirst, isSecond⟩ := sharedName?_eq_some shared
      have isFirst : (name, first) ∈ catalog.entries := isFirst.resolve_right nofun
      obtain ⟨kind, isListed, rfl⟩ := Catalog.mem_entries_iff.1 isFirst
      obtain ⟨other, alsoListed, rfl⟩ := Catalog.mem_entries_iff.1 isSecond
      simp only [shared, Checked.fail, Checked.faults, List.mem_singleton] at reported
      exact ⟨name, kind, other, reported, fun same => differ (congrArg Kind.listKey same),
        isListed, alsoListed⟩

theorem Setting.exists_mem_faults_toDisjoint_iff {catalog : Catalog} :
    (∃ fault, fault ∈ (toDisjoint catalog).faults) ↔ ¬ catalog.IsDisjoint := by
  have accepted : toDisjoint catalog = .ok catalog ↔ _ := toDisjoint_eq_ok_iff
  rw [and_iff_left rfl] at accepted
  rw [← accepted, toDisjoint_eq]
  cases sharedName? [] catalog.entries <;> simp [Checked.fail, Checked.faults]

/-! ## The settings of directives -/

theorem Table.toCatalog_of_givesNames {table : Table} {catalog : Catalog}
    (gives : table.GivesNames catalog) : table.toCatalog = Setting.toDisjoint catalog := by
  have constant := field_eq_ok_iff_lists.2 (gives.lists .constant)
  have method := field_eq_ok_iff_lists.2 (gives.lists .instanceMethod)
  have classMethod := field_eq_ok_iff_lists.2 (gives.lists .classMethod)
  simp only [Kind.listKey, Catalog.names] at constant method classMethod
  unfold toCatalog
  rw [constant, method, classMethod, onlyKeys_eq_ok_iff.2 gives.known]
  rfl

theorem Table.toCatalog_eq_ok_iff {table : Table} {catalog : Catalog} :
    table.toCatalog = .ok catalog ↔ table.GivesNames catalog ∧ catalog.IsDisjoint := by
  constructor
  · intro read
    unfold toCatalog at read
    simp only [bind, Except.bind] at read
    split at read
    next => contradiction
    next gathered =>
      obtain ⟨disjoint, rfl⟩ := Setting.toDisjoint_eq_ok_iff.1 read
      simp only [Checked.apply_eq_ok_iff] at gathered
      obtain ⟨_, _, ⟨_, _, ⟨_, _, ⟨_, _, ⟨⟩, constant, rfl⟩, method, rfl⟩, classMethod, rfl⟩, known,
        rfl⟩ := gathered
      refine ⟨⟨?_, onlyKeys_eq_ok_iff.1 known⟩, disjoint⟩
      intro kind
      cases kind with
      | constant => exact field_eq_ok_iff_lists.1 constant
      | instanceMethod => exact field_eq_ok_iff_lists.1 method
      | classMethod => exact field_eq_ok_iff_lists.1 classMethod
  · rintro ⟨gives, disjoint⟩
    rw [toCatalog_of_givesNames gives, Setting.toDisjoint_eq_ok_iff]
    exact ⟨disjoint, rfl⟩

/-- The settings have these settings of directives, or none where they set nothing for them. -/
def Table.HasDirectives (table directives : Table) : Prop :=
  table.get? "directives" = some (.table directives) ∨
    table.get? "directives" = none ∧ directives = []

theorem Table.GivesNames.eq_standard {catalog : Catalog} (gives : Table.GivesNames [] catalog) :
    catalog = Catalog.standard := by
  obtain ⟨constant, method, classMethod⟩ := catalog
  have isConstant : constant = _ := gives.lists .constant
  have isMethod : method = _ := gives.lists .instanceMethod
  have isClassMethod : classMethod = _ := gives.lists .classMethod
  rw [isConstant, isMethod, isClassMethod]
  rfl

/-- Settings of directives that give names are refused only for names in two lists. -/
theorem Table.field_directives {table directives : Table} {catalog : Catalog}
    (has : table.HasDirectives directives) (gives : directives.GivesNames catalog) :
    table.field "directives" (Setting.toSection "DirectivesConfig" Table.toCatalog)
        Config.standard.catalog =
      Checked.below (.key "directives") (Setting.toDisjoint catalog) := by
  unfold field
  rcases has with set | ⟨unset, rfl⟩
  · rw [set]
    simp only [Setting.toSection, toCatalog_of_givesNames gives]
  · rw [unset, gives.eq_standard]
    rfl

/-! ## Faults of settings -/

theorem Checked.faults_ok {Value : Type} (value : Value) :
    faults (.ok value : Checked Value) = [] :=
  rfl

theorem Checked.faults_apply {Source Target : Type} (function : Checked (Source → Target))
    (argument : Checked Source) :
    (apply function argument).faults = function.faults ++ argument.faults := by
  cases function <;> cases argument <;> rfl

theorem Checked.faults_below {Value : Type} (step : Step) (checked : Checked Value) :
    (below step checked).faults =
      checked.faults.map fun fault => { fault with location := step :: fault.location } := by
  cases checked <;> rfl

theorem Table.location_of_mem_faults_field {Value : Type} {table : Table} {key : String}
    {check : Setting → Checked Value} {standard : Value} {fault : Fault}
    (isFault : fault ∈ (table.field key check standard).faults) :
    ∃ rest, fault.location = .key key :: rest := by
  unfold field at isFault
  split at isFault
  · rw [Checked.faults_below] at isFault
    obtain ⟨inner, -, rfl⟩ := List.mem_map.1 isFault
    exact ⟨inner.location, rfl⟩
  · contradiction

theorem Table.kind_of_mem_faults_onlyKeys {table : Table} {keys : List String} {fault : Fault}
    (isFault : fault ∈ (table.onlyKeys keys).faults) : fault.kind = .unknownKey := by
  unfold onlyKeys at isFault
  simp only at isFault
  split at isFault
  · contradiction
  · obtain ⟨key, -, rfl⟩ := List.mem_map.1 isFault
    rfl

/-- The settings are refused, and this is one of the faults. -/
def Config.Reports (table : Table) (fault : Fault) : Prop :=
  ∃ faults, validate table = .error (.invalid faults) ∧ fault ∈ faults

theorem Config.reports_iff {table : Table} {fault : Fault} :
    Reports table fault ↔ fault ∈ (ofTable table).faults := by
  unfold Reports validate
  cases ofTable table with
  | ok config => simp [Checked.faults, mapError_ok]
  | error found =>
      have sorted : fault ∈ Fault.sort found ↔ fault ∈ found := List.mem_mergeSort
      simp [Checked.faults, mapError_error, sorted]

/-- A fault of the directives is one that their own check has found. -/
theorem Config.reports_directives_iff {table : Table} {kind : FaultKind} {rest : List Step}
    (isKnown : kind ≠ .unknownKey) :
    Reports table ⟨.key "directives" :: rest, kind⟩ ↔
      ⟨.key "directives" :: rest, kind⟩ ∈
        (table.field "directives" (Setting.toSection "DirectivesConfig" Table.toCatalog)
          standard.catalog).faults := by
  have elsewhere {Value : Type} {key : String} {check : Setting → Checked Value} {standard : Value}
      (otherKey : key ≠ "directives") :
      ⟨.key "directives" :: rest, kind⟩ ∉ (table.field key check standard).faults := by
    intro isFault
    obtain ⟨_, starts⟩ := Table.location_of_mem_faults_field isFault
    exact otherKey (Step.key.inj (List.cons.inj starts).1).symm
  have notUnknown : ⟨.key "directives" :: rest, kind⟩ ∉ (table.onlyKeys keys).faults :=
    fun isFault => isKnown (Table.kind_of_mem_faults_onlyKeys isFault)
  rw [reports_iff]
  unfold ofTable
  simp [Checked.faults_apply, Checked.faults_ok, elsewhere, notUnknown]

/-- Of directives that give names, the overlaps reported are those that the check of the lists
finds. -/
theorem Config.reports_sharedCallName_iff {table directives : Table} {catalog : Catalog}
    (has : table.HasDirectives directives) (gives : directives.GivesNames catalog)
    {name first second : String} :
    Reports table ⟨[.key "directives"], .sharedCallName name first second⟩ ↔
      ⟨[], .sharedCallName name first second⟩ ∈ (Setting.toDisjoint catalog).faults := by
  have isKnown : FaultKind.sharedCallName name first second ≠ .unknownKey := nofun
  rw [reports_directives_iff isKnown, Table.field_directives has gives, Checked.faults_below,
    List.mem_map]
  constructor
  · rintro ⟨⟨location, kind⟩, isFault, same⟩
    obtain ⟨sameLocation, rfl⟩ := Fault.mk.inj same
    obtain rfl := (List.cons.inj sameLocation).2
    exact isFault
  · intro isFault
    exact ⟨_, isFault, rfl⟩

theorem Config.reports_overlap_iff {table directives : Table} {catalog : Catalog}
    (has : table.HasDirectives directives) (gives : directives.GivesNames catalog) :
    (∃ name first second,
        Reports table ⟨[.key "directives"], .sharedCallName name first second⟩) ↔
      ∃ name kind other, kind ≠ other ∧ name ∈ catalog.names kind ∧
        name ∈ catalog.names other := by
  simp only [reports_sharedCallName_iff has gives]
  constructor
  · rintro ⟨name, first, second, isFault⟩
    obtain ⟨shared, kind, other, -, differ, isListed, alsoListed⟩ :=
      Setting.mem_faults_toDisjoint isFault
    exact ⟨shared, kind, other, differ, isListed, alsoListed⟩
  · rintro ⟨name, kind, other, differ, isListed, alsoListed⟩
    have overlaps : ¬ catalog.IsDisjoint :=
      fun disjoint => differ (disjoint name kind other isListed alsoListed)
    obtain ⟨fault, isFault⟩ := Setting.exists_mem_faults_toDisjoint_iff.2 overlaps
    obtain ⟨shared, first, second, rfl, -⟩ := Setting.mem_faults_toDisjoint isFault
    exact ⟨shared, first.listKey, second.listKey, isFault⟩

theorem Config.isUnambiguous_of_validate {table : Table} {config : Config}
    (accepted : validate table = .ok config) : config.runOptions.catalog.IsUnambiguous := by
  have read := (validate_eq_ok_iff.1 accepted).catalog
  obtain ⟨directives, gives, disjoint⟩ : ∃ directives : Table,
      directives.GivesNames config.catalog ∧ config.catalog.IsDisjoint := by
    unfold Table.field at read
    split at read
    next setting _ =>
      rw [Checked.below_eq_ok_iff] at read
      cases setting with
      | table directives => exact ⟨directives, Table.toCatalog_eq_ok_iff.1 read⟩
      | _ => contradiction
    next =>
      have checked : Table.toCatalog [] = .ok config.catalog := read
      exact ⟨[], Table.toCatalog_eq_ok_iff.1 checked⟩
  exact disjoint.isUnambiguous fun kind => (gives.lists kind).isIdentifier

/-- Settings whose directives are lists of identifiers are refused for an overlap if and only if
some name is in the lists for two kinds. Of settings that are accepted, the catalog of the run is
unambiguous. -/
theorem Config.directives_unambiguous (table : Table) :
    (∀ directives catalog, table.HasDirectives directives → directives.GivesNames catalog →
      ((∃ name first second,
          Reports table ⟨[.key "directives"], .sharedCallName name first second⟩) ↔
        ∃ name kind other, kind ≠ other ∧ name ∈ catalog.names kind ∧
          name ∈ catalog.names other)) ∧
      ∀ config, validate table = .ok config → config.runOptions.catalog.IsUnambiguous :=
  ⟨fun _ _ has gives => reports_overlap_iff has gives, fun _ => isUnambiguous_of_validate⟩

/-- Settings that take the name of directives on constants for methods, too. -/
private def reusedName : Table :=
  [("directives", .table [("method", .list [.string "hide", .string "private_constant"])])]

private def repeatedName : Table :=
  [("directives", .table [("method", .list [.string "hide", .string "hide"])])]

/-- A name for constants and methods is refused, also where only one of its lists is set; a name
that is given twice for methods is none too many. -/
theorem Config.overlap_with_standard_name :
    (∃ name first second,
        Reports reusedName ⟨[.key "directives"], .sharedCallName name first second⟩) ∧
      ∃ config, validate repeatedName = .ok config ∧ config.catalog.method = ["hide", "hide"] ∧
        config.runOptions.catalog.IsUnambiguous := by
  have has : reusedName.HasDirectives [("method", .list [.string "hide",
      .string "private_constant"])] := Or.inl rfl
  have gives : Table.GivesNames [("method", .list [.string "hide", .string "private_constant"])]
      { Catalog.standard with method := ["hide", "private_constant"] } := by
    constructor
    case lists =>
      intro kind
      cases kind with
      | constant => rfl
      | instanceMethod => exact ⟨rfl, by decide⟩
      | classMethod => rfl
    case known => decide
  refine ⟨((directives_unambiguous reusedName).1 _ _ has gives).2 ?_, ?_⟩
  · exact ⟨"private_constant", .constant, .instanceMethod, by decide, by decide, by decide⟩
  · exact ⟨_, rfl, rfl, (directives_unambiguous repeatedName).2 _ rfl⟩

end Annotations
