import Annotations.Config
import Annotations.Text.AsciiQuoted
import Annotations.Text.Digit
import Annotations.Text.Identifier

/-!
Contract: from a table of settings to a configuration, or to all its faults.

Every key is checked, and each fault is reported on its own. Two checks wait for
others: that call names are identifiers, for the list to be one of strings; and
that no name stands in two lists of call names, for the table around them to be
free of other faults.

Owns:

- `Checked`, a value or faults, which are gathered over several settings;
- the check of each kind of setting;
- `Config.ofTable`.
-/

namespace Annotations

/-- A value, or the faults found in its place. -/
abbrev Checked (Value : Type) := Except (List Fault) Value

namespace Checked

def faults {Value : Type} : Checked Value → List Fault
  | .ok _ => []
  | .error found => found

/-- Apply a checked function to a checked argument; the faults of both count. -/
def apply {Source Target : Type} (function : Checked (Source → Target))
    (argument : Checked Source) :
    Checked Target :=
  match function, argument with
  | .ok function, .ok value => .ok (function value)
  | _, _ => .error (function.faults ++ argument.faults)

def all {Value : Type} : List (Checked Value) → Checked (List Value)
  | [] => .ok []
  | item :: rest => apply (item.map List.cons) (all rest)

/-- The faults lie below a step. -/
def below {Value : Type} (step : Step) (checked : Checked Value) : Checked Value :=
  checked.mapError fun found =>
    found.map fun fault => { fault with location := step :: fault.location }

def fail {Value : Type} (kind : FaultKind) : Checked Value :=
  .error [⟨[], kind⟩]

end Checked

namespace Setting

/-! ## Single settings -/

/-- A string; nothing else reads as one. -/
def toText : Setting → Checked String
  | .string value => .ok value
  | _ => Checked.fail .notAString

def toTexts : Setting → Checked (List String)
  | .list items =>
      Checked.all (items.zipIdx.map fun (item, place) => Checked.below (.index place) item.toText)
  | _ => Checked.fail .notAList

def asciiDigit? (c : Char) : Option Nat :=
  if c.isDigit then some (c.toNat - '0'.toNat) else none

/-- Drop a point with nothing but zeros after it. -/
def dropZeroFraction (text : List Char) : List Char :=
  let whole := text.takeWhile (· != '.')
  match text.drop whole.length with
  | '.' :: rest => if rest.all (· == '0') then whole else text
  | _ => text

/-- An integer in a string: a sign, digits with single underscores between them, and a fraction of
zeros, with blanks around. -/
def integerOfText? (text : String) : Option Int :=
  Text.readSigned? (Text.readDigits? asciiDigit?)
    (dropZeroFraction (Text.trim Text.isWhiteSpace text.toList))

/-- The floating-point integers that can be taken as integers. -/
def fitsInteger (value : Int) : Bool :=
  -0x8000000000000000 ≤ value && value < 0x8000000000000000

/-- An integer, also from a boolean, a float that is one, or a string. -/
def toInteger : Setting → Checked Int
  | .integer value => .ok value
  | .boolean value => .ok (if value then 1 else 0)
  | .float (.integral value) => if fitsInteger value then .ok value else Checked.fail .hugeInteger
  | .float .fractional => Checked.fail .fractionalInteger
  | .float .notFinite => Checked.fail .notFinite
  | .string text =>
      match integerOfText? text with
      | some value => .ok value
      | none => Checked.fail .unreadableInteger
  | _ => Checked.fail .notAnInteger

def toPositive (setting : Setting) : Checked Int := do
  let value ← setting.toInteger
  if 1 ≤ value then .ok value else Checked.fail .notPositive

def toNonemptyText (setting : Setting) : Checked String := do
  let value ← setting.toText
  if value = "" then Checked.fail .emptyString else .ok value

/-- The boolean that a word stands for, in letters of either case. -/
def booleanOfText? (text : String) : Option Bool :=
  let word := String.ofList (text.toList.map Char.toLower)
  if word ∈ ["0", "off", "f", "false", "n", "no"] then some false
  else if word ∈ ["1", "on", "t", "true", "y", "yes"] then some true
  else none

/-- A boolean, also from zero and one, and from words. -/
def toBoolean : Setting → Checked Bool
  | .boolean value => .ok value
  | .integer value =>
      if value = 0 then .ok false else if value = 1 then .ok true
      else Checked.fail .unreadableBoolean
  | .float (.integral value) =>
      if value = 0 then .ok false else if value = 1 then .ok true else Checked.fail .notABoolean
  | .string text =>
      match booleanOfText? text with
      | some value => .ok value
      | none => Checked.fail .unreadableBoolean
  | _ => Checked.fail .notABoolean

/-! ## Call names -/

/-- A list of call names, each an identifier. Only the first that is none is reported. -/
def toCallNames (setting : Setting) : Checked (List String) := do
  let names ← setting.toTexts
  match names.find? fun name => !Text.isIdentifier name.toList with
  | some name => Checked.fail (.invalidCallName name)
  | none => .ok names

/-- The first name that stands in two of the lists, which are given with their keys. -/
def sharedName? (seen : List (String × String)) : List (String × String) → Option FaultKind
  | [] => none
  | (name, key) :: rest =>
      match seen.lookup name with
      | some other =>
          if other = key then sharedName? seen rest else some (.sharedCallName name other key)
      | none => sharedName? ((name, key) :: seen) rest

/-- No name stands in two lists of the catalog. -/
def toDisjoint (catalog : Catalog) : Checked Catalog :=
  let entries (key : String) (names : List String) : List (String × String) :=
    names.map fun name => (name, key)
  match sharedName? [] (entries "constant" catalog.constant ++ entries "method" catalog.method ++
      entries "class_method" catalog.classMethod) with
  | some fault => Checked.fail fault
  | none => .ok catalog

end Setting

/-! ## Tables -/

namespace Table

/-- The value of a key as checked, or the standard value where the key is not set. -/
def field {Value : Type} (table : Table) (key : String) (check : Setting → Checked Value)
    (standard : Value) : Checked Value :=
  match table.get? key with
  | some setting => Checked.below (.key key) (check setting)
  | none => .ok standard

def onlyKeys (table : Table) (keys : List String) : Checked Unit :=
  let unknown := (table.map Prod.fst).filter fun key => !keys.contains key
  if unknown.isEmpty then .ok ()
  else .error (unknown.map fun key => ⟨[.key key], .unknownKey⟩)

def toCatalog (table : Table) : Checked Catalog := do
  let lists : Checked (Unit → Catalog) :=
    Checked.apply
      (Checked.apply
        (Checked.apply
          (.ok fun constant method classMethod () => ⟨constant, method, classMethod⟩)
          (table.field "constant" Setting.toCallNames Catalog.standard.constant))
        (table.field "method" Setting.toCallNames Catalog.standard.method))
      (table.field "class_method" Setting.toCallNames Catalog.standard.classMethod)
  let catalog ← Checked.apply lists (table.onlyKeys ["constant", "method", "class_method"])
  Setting.toDisjoint catalog

def toSuppressions (table : Table) : Checked (Bool × Tracker) :=
  let fields : Checked (Unit → Bool × Tracker) :=
    Checked.apply
      (Checked.apply
        (Checked.apply
          (.ok fun enabled tag rules () => (enabled, ⟨tag, rules⟩))
          (table.field "enabled" Setting.toBoolean Config.standard.suppressionsEnabled))
        (table.field "marker_prefix" Setting.toNonemptyText Config.standard.tracker.tag))
      (table.field "rules" Setting.toTexts Config.standard.tracker.rules)
  Checked.apply fields (table.onlyKeys ["enabled", "marker_prefix", "rules"])

def toTracksChanges (table : Table) : Checked Bool :=
  Checked.apply
    (Checked.apply (.ok fun tracks () => tracks)
      (table.field "track_changes" Setting.toBoolean Config.standard.tracksChanges))
    (table.onlyKeys ["track_changes"])

end Table

/-- A table of its own, under the name of what it configures. -/
def Setting.toSection {Value : Type} (model : String) (check : Table → Checked Value) :
    Setting → Checked Value
  | .table fields => check fields
  | _ => Checked.fail (.notATable model)

namespace Config

def keys : List String :=
  ["include", "exclude", "nested_gitignore", "workers", "directives", "suppressions", "visibility"]

def ofTable (table : Table) : Checked Config :=
  let patterns : Checked (Bool → Int → Catalog → Bool × Tracker → Bool → Unit → Config) :=
    Checked.apply
      (Checked.apply
        (.ok fun included excluded nested workers catalog suppressions tracks () =>
          ⟨included, excluded, nested, workers, catalog, suppressions.1, suppressions.2, tracks⟩)
        (table.field "include" Setting.toTexts standard.included))
      (table.field "exclude" Setting.toTexts standard.excluded)
  let numbers : Checked (Catalog → Bool × Tracker → Bool → Unit → Config) :=
    Checked.apply
      (Checked.apply patterns
        (table.field "nested_gitignore" Setting.toBoolean standard.nestedIgnoreFiles))
      (table.field "workers" Setting.toPositive standard.workers)
  let sections : Checked (Unit → Config) :=
    Checked.apply
      (Checked.apply
        (Checked.apply numbers
          (table.field "directives" (Setting.toSection "DirectivesConfig" Table.toCatalog)
            standard.catalog))
        (table.field "suppressions" (Setting.toSection "SuppressionsConfig" Table.toSuppressions)
          (standard.suppressionsEnabled, standard.tracker)))
      (table.field "visibility" (Setting.toSection "VisibilityConfig" Table.toTracksChanges)
        standard.tracksChanges)
  Checked.apply sections (table.onlyKeys keys)

end Config

/-! ## The order of faults -/

def Step.text : Step → String
  | .key name => Text.quoteAscii name
  | .index place => toString place

def Fault.locationText (fault : Fault) : String :=
  "[" ++ ", ".intercalate (fault.location.map Step.text) ++ "]"

/-- Faults in the order of the texts of their locations. -/
def Fault.sort (faults : List Fault) : List Fault :=
  faults.mergeSort fun left right => (compare left.locationText right.locationText).isLE

end Annotations
