import Annotations.Config.Load

/-!
Contract: settings put over a configuration that can be used.

Overrides are merged into the settings before anything is checked. Where the
settings alone make a configuration, and the override is one that its own check
accepts, the merged settings make the same configuration with the field replaced.

Owns:
- `Config.IsReadFrom`, what it takes for settings to make a configuration;
- `Table.get?_set` and what it says of `Table.field` and `Table.onlyKeys`;
- one lemma for each setting that an override may replace.

Does not own: the overrides that the arguments of a command stand for.
-/

namespace Annotations

/-! ## Checks that succeed -/

section Mapped

variable {Source Target Value : Type} (translate : Source → Target)

theorem mapError_ok (value : Value) :
    (Except.ok value : Except Source Value).mapError translate = .ok value :=
  rfl

theorem mapError_error (fault : Source) :
    (Except.error fault : Except Source Value).mapError translate = .error (translate fault) :=
  rfl

theorem mapError_eq_ok_iff {result : Except Source Value} {value : Value} :
    result.mapError translate = .ok value ↔ result = .ok value := by
  cases result with
  | error fault => exact ⟨nofun, nofun⟩
  | ok found => rw [mapError_ok, Except.ok.injEq, Except.ok.injEq]

end Mapped

namespace Checked

variable {Source Target : Type}

theorem apply_eq_ok_iff {function : Checked (Source → Target)} {argument : Checked Source}
    {result : Target} :
    apply function argument = .ok result ↔
      ∃ map value, function = .ok map ∧ argument = .ok value ∧ map value = result := by
  cases function <;> cases argument <;> simp [apply]

theorem below_eq_ok_iff {step : Step} {checked : Checked Source} {value : Source} :
    below step checked = .ok value ↔ checked = .ok value :=
  mapError_eq_ok_iff _

end Checked

/-! ## Tables with one key set -/

namespace Table

variable {Value : Type}

theorem get?_set (table : Table) (key other : String) (value : Setting) :
    (table.set key value).get? other = if other = key then some value else table.get? other := by
  unfold get?
  induction table with
  | nil =>
      rw [set, List.lookup_cons]
      by_cases same : other = key
      · simp [same]
      · simp [beq_false_of_ne same, same]
  | cons entry rest inductionHypothesis =>
      obtain ⟨name, old⟩ := entry
      rw [set]
      by_cases sameName : name = key
      · subst sameName
        rw [if_pos rfl, List.lookup_cons, List.lookup_cons]
        by_cases same : other = name
        · simp [same]
        · simp [beq_false_of_ne same, same]
      · rw [if_neg sameName, List.lookup_cons, List.lookup_cons, inductionHypothesis]
        by_cases found : other = name
        · simp [found, sameName]
        · simp [beq_false_of_ne found]

theorem mem_keys_set {table : Table} {key other : String} {value : Setting}
    (isKey : other ∈ (table.set key value).map Prod.fst) :
    other = key ∨ other ∈ table.map Prod.fst := by
  induction table with
  | nil => exact Or.inl (List.mem_singleton.1 isKey)
  | cons entry rest inductionHypothesis =>
      obtain ⟨name, old⟩ := entry
      rw [set] at isKey
      split at isKey
      next sameName => exact Or.inr (sameName ▸ isKey)
      next =>
        rcases List.mem_cons.1 isKey with rfl | later
        · exact Or.inr List.mem_cons_self
        · exact (inductionHypothesis later).imp_right (List.mem_cons_of_mem _)

theorem field_set (table : Table) (key other : String) (value : Setting)
    (check : Setting → Checked Value) (standard : Value) :
    (table.set key value).field other check standard =
      if other = key then Checked.below (.key other) (check value)
      else table.field other check standard := by
  unfold field
  rw [get?_set]
  by_cases same : other = key <;> simp [same]

theorem onlyKeys_eq_ok_iff {table : Table} {keys : List String} :
    table.onlyKeys keys = .ok () ↔ ∀ key ∈ table.map Prod.fst, key ∈ keys := by
  unfold onlyKeys
  simp [List.filter_eq_nil_iff]

theorem onlyKeys_set {table : Table} {keys : List String} (key : String) (value : Setting)
    (known : table.onlyKeys keys = .ok ()) (isKey : key ∈ keys) :
    (table.set key value).onlyKeys keys = .ok () := by
  rw [onlyKeys_eq_ok_iff] at known ⊢
  intro other isOther
  rcases mem_keys_set isOther with rfl | isOld
  · exact isKey
  · exact known other isOld

theorem override_append (table first second : Table) :
    table.override (first ++ second) = (table.override first).override second :=
  List.foldl_append

/-- Where a section was read, an override of one setting in it sets that setting in a table that
reads as the section did. -/
theorem exists_override_section {table : Table} {key model : String} {check : Table → Checked Value}
    {standard value : Value} (name : String) (item : Setting) (fresh : check [] = .ok standard)
    (read : table.field key (Setting.toSection model check) standard = .ok value) :
    ∃ old, check old = .ok value ∧
      table.override [(key, .table [(name, item)])] =
        table.set key (.table (set old name item)) := by
  unfold field at read
  cases found : table.get? key with
  | none =>
      -- The override starts the section, so it adds to a table without settings.
      rw [found] at read
      exact ⟨[], fresh.trans read, by simp [override, found, set]⟩
  | some setting =>
      rw [found] at read
      have checked := Checked.below_eq_ok_iff.1 read
      -- A section that is no table would be replaced as a whole, but it would not have been read.
      cases setting with
      | table old => exact ⟨old, checked, by simp [override, found]⟩
      | _ => contradiction

end Table

/-! ## Settings that make a configuration -/

/-- Every field of a configuration is read from the settings, or stands as it does where nothing is
set, and the settings have no other keys. -/
structure Config.IsReadFrom (config : Config) (table : Table) : Prop where
  included : table.field "include" Setting.toTexts standard.included = .ok config.included
  excluded : table.field "exclude" Setting.toTexts standard.excluded = .ok config.excluded
  nested : table.field "nested_gitignore" Setting.toBoolean standard.nestedIgnoreFiles =
    .ok config.nestedIgnoreFiles
  workers : table.field "workers" Setting.toPositive standard.workers = .ok config.workers
  catalog : table.field "directives" (Setting.toSection "DirectivesConfig" Table.toCatalog)
    standard.catalog = .ok config.catalog
  suppressions :
    table.field "suppressions" (Setting.toSection "SuppressionsConfig" Table.toSuppressions)
      (standard.suppressionsEnabled, standard.tracker) =
        .ok (config.suppressionsEnabled, config.tracker)
  changes : table.field "visibility" (Setting.toSection "VisibilityConfig" Table.toTracksChanges)
    standard.tracksChanges = .ok config.tracksChanges
  known : table.onlyKeys keys = .ok ()

theorem Config.ofTable_eq_ok_iff {table : Table} {config : Config} :
    ofTable table = .ok config ↔ config.IsReadFrom table := by
  unfold ofTable
  simp only [Checked.apply_eq_ok_iff]
  constructor
  · rintro ⟨_, _, ⟨_, _, ⟨_, _, ⟨_, _, ⟨_, _, ⟨_, _, ⟨_, _, ⟨_, _, ⟨⟩, included, rfl⟩,
      excluded, rfl⟩, nested, rfl⟩, workers, rfl⟩, catalog, rfl⟩, suppressions, rfl⟩,
      changes, rfl⟩, known, rfl⟩
    exact ⟨included, excluded, nested, workers, catalog, suppressions, changes, known⟩
  · rintro ⟨included, excluded, nested, workers, catalog, suppressions, changes, known⟩
    exact ⟨_, _, ⟨_, _, ⟨_, _, ⟨_, _, ⟨_, _, ⟨_, _, ⟨_, _, ⟨_, _, rfl, included, rfl⟩,
      excluded, rfl⟩, nested, rfl⟩, workers, rfl⟩, catalog, rfl⟩, suppressions, rfl⟩,
      changes, rfl⟩, known, rfl⟩

theorem Config.validate_eq_ok_iff {table : Table} {config : Config} :
    validate table = .ok config ↔ config.IsReadFrom table := by
  rw [← ofTable_eq_ok_iff, validate, mapError_eq_ok_iff]

theorem Table.toSuppressions_eq_ok_iff {table : Table} {enabled : Bool} {tracker : Tracker} :
    table.toSuppressions = .ok (enabled, tracker) ↔
      table.field "enabled" Setting.toBoolean Config.standard.suppressionsEnabled = .ok enabled ∧
        table.field "marker_prefix" Setting.toNonemptyText Config.standard.tracker.tag =
          .ok tracker.tag ∧
        table.field "rules" Setting.toTexts Config.standard.tracker.rules = .ok tracker.rules ∧
        table.onlyKeys ["enabled", "marker_prefix", "rules"] = .ok () := by
  unfold toSuppressions
  simp only [Checked.apply_eq_ok_iff]
  constructor
  · rintro ⟨_, _, ⟨_, _, ⟨_, _, ⟨_, _, ⟨⟩, isEnabled, rfl⟩, tag, rfl⟩, rules, rfl⟩, known, same⟩
    obtain ⟨rfl, rfl⟩ := Prod.mk.inj same
    exact ⟨isEnabled, tag, rules, known⟩
  · rintro ⟨isEnabled, tag, rules, known⟩
    exact ⟨_, _, ⟨_, _, ⟨_, _, ⟨_, _, rfl, isEnabled, rfl⟩, tag, rfl⟩, rules, rfl⟩, known, rfl⟩

theorem Table.toTracksChanges_eq_ok_iff {table : Table} {tracks : Bool} :
    table.toTracksChanges = .ok tracks ↔
      table.field "track_changes" Setting.toBoolean Config.standard.tracksChanges = .ok tracks ∧
        table.onlyKeys ["track_changes"] = .ok () := by
  unfold toTracksChanges
  simp only [Checked.apply_eq_ok_iff]
  constructor
  · rintro ⟨_, _, ⟨_, _, ⟨⟩, isTracked, rfl⟩, known, rfl⟩
    exact ⟨isTracked, known⟩
  · rintro ⟨isTracked, known⟩
    exact ⟨_, _, ⟨_, _, rfl, isTracked, rfl⟩, known, rfl⟩

/-! ## Overrides -/

namespace Config.IsReadFrom

variable {config : Config} {table : Table}

theorem workers_pos (read : config.IsReadFrom table) : 1 ≤ config.workers := by
  have workers := read.workers
  unfold Table.field at workers
  split at workers
  · rename_i setting _
    rw [Checked.below_eq_ok_iff] at workers
    unfold Setting.toPositive at workers
    cases checked : setting.toInteger with
    | error faults => simp [checked, bind, Except.bind] at workers
    | ok value =>
        simp only [checked, bind, Except.bind] at workers
        split at workers
        · next positive =>
            obtain rfl := Except.ok.inj workers
            exact positive
        · contradiction
  · obtain same := Except.ok.inj workers
    rw [← same]
    decide

theorem override_workers (read : config.IsReadFrom table) {workers : Int} (positive : 1 ≤ workers) :
    ({ config with workers := workers } : Config).IsReadFrom
      (table.override [("workers", .integer workers)]) := by
  have set : table.override [("workers", .integer workers)] =
      table.set "workers" (.integer workers) := by
    simp [Table.override]
  have known := Table.onlyKeys_set "workers" (.integer workers) read.known (by decide)
  obtain ⟨included, excluded, nested, -, catalog, suppressions, changes, -⟩ := read
  rw [set]
  constructor
  case workers =>
    rw [Table.field_set, if_pos rfl, Checked.below_eq_ok_iff]
    simp [Setting.toPositive, Setting.toInteger, bind, Except.bind, positive]
  case known => exact known
  all_goals simpa [Table.field_set]

theorem override_suppressions (read : config.IsReadFrom table) :
    ({ config with suppressionsEnabled := true } : Config).IsReadFrom
      (table.override [("suppressions", .table [("enabled", .boolean true)])]) := by
  obtain ⟨old, checked, set⟩ :=
    Table.exists_override_section "enabled" (.boolean true) (by rfl) read.suppressions
  have merged : Table.toSuppressions (Table.set old "enabled" (.boolean true)) =
      .ok (true, config.tracker) := by
    obtain ⟨-, tag, rules, sectionKnown⟩ := Table.toSuppressions_eq_ok_iff.1 checked
    rw [Table.toSuppressions_eq_ok_iff]
    refine ⟨?_, ?_, ?_, Table.onlyKeys_set _ _ sectionKnown (by decide)⟩
    · rw [Table.field_set, if_pos rfl]
      rfl
    · simpa [Table.field_set] using tag
    · simpa [Table.field_set] using rules
  have known := Table.onlyKeys_set "suppressions"
    (.table (Table.set old "enabled" (.boolean true))) read.known (by decide)
  obtain ⟨included, excluded, nested, workers, catalog, -, changes, -⟩ := read
  rw [set]
  constructor
  case suppressions =>
    rw [Table.field_set, if_pos rfl, Checked.below_eq_ok_iff]
    exact merged
  case known => exact known
  all_goals simpa [Table.field_set]

theorem override_changes (read : config.IsReadFrom table) :
    ({ config with tracksChanges := true } : Config).IsReadFrom
      (table.override [("visibility", .table [("track_changes", .boolean true)])]) := by
  obtain ⟨old, checked, set⟩ :=
    Table.exists_override_section "track_changes" (.boolean true) (by rfl) read.changes
  have merged : Table.toTracksChanges (Table.set old "track_changes" (.boolean true)) =
      .ok true := by
    obtain ⟨-, sectionKnown⟩ := Table.toTracksChanges_eq_ok_iff.1 checked
    rw [Table.toTracksChanges_eq_ok_iff]
    refine ⟨?_, Table.onlyKeys_set _ _ sectionKnown (by decide)⟩
    rw [Table.field_set, if_pos rfl]
    rfl
  have known := Table.onlyKeys_set "visibility"
    (.table (Table.set old "track_changes" (.boolean true))) read.known (by decide)
  obtain ⟨included, excluded, nested, workers, catalog, suppressions, -, -⟩ := read
  rw [set]
  constructor
  case changes =>
    rw [Table.field_set, if_pos rfl, Checked.below_eq_ok_iff]
    exact merged
  case known => exact known
  all_goals simpa [Table.field_set]

end Config.IsReadFrom

end Annotations
