import Annotations.CommandLine
import Annotations.Proofs.Config.Overrides

/-!
Contract: the options of the command replace the fields they name, and no others.

The overrides are merged into the settings of the file before anything is
checked. Where the file alone makes a configuration, so do the merged settings:
the same, but for the number of workers, the tracking of suppressions and the
record of changes, where these are asked for.

Owns:
- `Config.under`, the configuration under the overrides of some arguments;
- `Config.Replaces` and `Config.load_replaces`.

Does not own: single overrides; see `Annotations.Proofs.Config.Overrides`.
-/

namespace Annotations

/-- The configuration with what the arguments put over it. -/
def Config.under (config : Config) (arguments : CommandLine.Arguments) : Config :=
  { config with
    workers := arguments.workers?.getD config.workers
    suppressionsEnabled := arguments.suppressions || config.suppressionsEnabled
    tracksChanges := arguments.changes || config.tracksChanges }

theorem Config.IsReadFrom.under {config : Config} {table : Table} (read : config.IsReadFrom table)
    {arguments : CommandLine.Arguments}
    (positive : ∀ workers, arguments.workers? = some workers → 1 ≤ workers) :
    (config.under arguments).IsReadFrom (table.override (CommandLine.overridesOf arguments)) := by
  obtain ⟨directories, format, workers?, verbose, suppressions, changes, exitZero⟩ := arguments
  unfold CommandLine.overridesOf Config.under
  -- The overrides are merged one after the other: workers, suppressions, changes.
  rw [Table.override_append, Table.override_append]
  have withWorkers : ({ config with workers := workers?.getD config.workers } : Config).IsReadFrom
      (table.override (workers?.map fun workers => ("workers", .integer workers)).toList) := by
    cases workers? with
    | none => exact read
    | some workers => exact read.override_workers (positive workers rfl)
  cases suppressions <;> cases changes
  · exact withWorkers
  · exact withWorkers.override_changes
  · exact withWorkers.override_suppressions
  · exact withWorkers.override_suppressions.override_changes

/-- Overrides of the command change their fields of a configuration that can be used, and no
others. -/
theorem Config.load_overridesOf {root : FileTree} {place : FilePath} {config : Config}
    (loads : load root place [] = .ok config) {arguments : CommandLine.Arguments}
    (positive : ∀ workers, arguments.workers? = some workers → 1 ≤ workers) :
    load root place (CommandLine.overridesOf arguments) = .ok (config.under arguments) ∧
      1 ≤ (config.under arguments).workers := by
  unfold load at loads ⊢
  cases settings : settingsIn root place with
  | error error => simp [settings, bind, Except.bind] at loads
  | ok table =>
      rw [settings] at loads
      have read := (validate_eq_ok_iff.1 loads).under positive
      exact ⟨validate_eq_ok_iff.2 read, read.workers_pos⟩

/-- A configuration has what some arguments ask for, and apart from that it is as the one before. -/
structure Config.Replaces (overridden config : Config) (arguments : CommandLine.Arguments) :
    Prop where
  workers : overridden.workers = arguments.workers?.getD config.workers
  suppressionsEnabled : overridden.suppressionsEnabled =
    if arguments.suppressions then true else config.suppressionsEnabled
  tracksChanges : overridden.tracksChanges =
    if arguments.changes then true else config.tracksChanges
  included : overridden.included = config.included
  excluded : overridden.excluded = config.excluded
  nestedIgnoreFiles : overridden.nestedIgnoreFiles = config.nestedIgnoreFiles
  catalog : overridden.catalog = config.catalog
  tracker : overridden.tracker = config.tracker

theorem Config.replaces_under (config : Config) (arguments : CommandLine.Arguments) :
    (config.under arguments).Replaces config arguments where
  workers := rfl
  suppressionsEnabled := by
    change (arguments.suppressions || config.suppressionsEnabled) = _
    cases arguments.suppressions <;> rfl
  tracksChanges := by
    change (arguments.changes || config.tracksChanges) = _
    cases arguments.changes <;> rfl
  included := rfl
  excluded := rfl
  nestedIgnoreFiles := rfl
  catalog := rfl
  tracker := rfl

/-- Where a directory can be configured without overrides, it can with those of the command, and
these replace the fields they name. -/
theorem Config.load_replaces {root : FileTree} {place : FilePath} {config : Config}
    (loads : load root place [] = .ok config) {arguments : CommandLine.Arguments}
    (positive : ∀ workers, arguments.workers? = some workers → 1 ≤ workers) :
    ∃ overridden, load root place (CommandLine.overridesOf arguments) = .ok overridden ∧
      overridden.Replaces config arguments :=
  ⟨config.under arguments, (load_overridesOf loads positive).1, config.replaces_under arguments⟩

/-- A file that sets the number of workers, and the tag of suppressions without enabling them. -/
private def taggedFile : List UInt8 :=
  "workers = 2\n[suppressions]\nmarker_prefix = 'lint'\n".toList.map fun c => c.val.toUInt8

private def taggedDirectory : FileTree :=
  .directory [("annotate.toml", .file taggedFile)]

private theorem load_taggedDirectory : Config.load taggedDirectory [] [] =
    .ok { Config.standard with workers := 2, tracker := ⟨"lint", []⟩ } := by
  have octets : taggedDirectory.octets? [Config.fileName] = some taggedFile := by
    simp [FileTree.octets?, FileTree.entry?, FileTree.follow, FileTree.at?, FileTree.child?,
      taggedDirectory, Config.fileName]
  have read : ((Config.readFile taggedFile).bind Config.validate).toOption =
      some { Config.standard with workers := 2, tracker := ⟨"lint", []⟩ } := by
    decide +kernel
  rw [Config.load, Config.settingsIn, List.nil_append, octets]
  change (Config.readFile taggedFile).bind Config.validate = _
  cases loaded : (Config.readFile taggedFile).bind Config.validate with
  | error error => simp [loaded, Except.toOption] at read
  | ok config =>
      rw [loaded] at read
      exact congrArg Except.ok (Option.some.inj read)

private def taggedArguments : CommandLine.Arguments :=
  { CommandLine.Arguments.standard with workers? := some 3, suppressions := true }

/-- Overrides enable suppressions and keep the tag that the file sets. -/
theorem Config.overrides_keep_tag :
    ∃ overridden, load taggedDirectory [] (CommandLine.overridesOf taggedArguments) =
          .ok overridden ∧
      overridden.workers = 3 ∧ overridden.suppressionsEnabled = true ∧
      overridden.tracker.tag = "lint" := by
  have positive : ∀ workers, taggedArguments.workers? = some workers → 1 ≤ workers := by
    rintro workers ⟨⟩
    decide
  obtain ⟨overridden, loaded, replaces⟩ := load_replaces load_taggedDirectory positive
  exact ⟨overridden, loaded, replaces.workers, replaces.suppressionsEnabled,
    congrArg Tracker.tag replaces.tracker⟩

end Annotations
