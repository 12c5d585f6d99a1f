import Annotations.Discovery
import Annotations.Run
import Annotations.Setting

/-!
Contract: the configuration of an analysis.

Owns:

- `Config`, its standard values, and what it asks of discovery and of a run;
- the faults that a table of settings may have, with their kinds and wordings.

Does not own:

- finding the faults, see `Annotations.Config.Validation`; files and overrides,
  see `Annotations.Config.Load`.
-/

namespace Annotations

structure Config where
  included : List String
  excluded : List String
  nestedIgnoreFiles : Bool
  workers : Int
  catalog : Catalog
  suppressionsEnabled : Bool
  tracker : Tracker
  tracksChanges : Bool
deriving DecidableEq, Repr

namespace Config

/-- The configuration where nothing is set. -/
def standard : Config :=
  { included := []
    excluded := []
    nestedIgnoreFiles := false
    workers := 4
    catalog := Catalog.standard
    suppressionsEnabled := false
    tracker := ⟨Marker.standardTag, []⟩
    tracksChanges := false }

/-- What discovery is to look for: Python files that the patterns let through. -/
def selection (config : Config) : Selection :=
  { included := config.included
    excluded := config.excluded
    nestedIgnoreFiles := config.nestedIgnoreFiles
    suffix := ".py" }

def runOptions (config : Config) : RunOptions :=
  { catalog := config.catalog
    suppressionsEnabled := config.suppressionsEnabled
    tracker := config.tracker
    tracksChanges := config.tracksChanges
    workers := config.workers }

end Config

inductive Step where
  | key (name : String)
  | index (place : Nat)
deriving DecidableEq, Repr

inductive FaultKind where
  | unknownKey
  | notAList
  | notAString
  | emptyString
  | notAnInteger
  | unreadableInteger
  | fractionalInteger
  | notFinite
  | hugeInteger
  | notPositive
  | notABoolean
  | unreadableBoolean
  | notATable (model : String)
  | invalidCallName (name : String)
  | sharedCallName (name first second : String)
deriving DecidableEq, Repr

namespace FaultKind

def label : FaultKind → String
  | unknownKey => "extra_forbidden"
  | notAList => "list_type"
  | notAString => "string_type"
  | emptyString => "string_too_short"
  | notAnInteger => "int_type"
  | unreadableInteger => "int_parsing"
  | fractionalInteger => "int_from_float"
  | notFinite => "finite_number"
  | hugeInteger => "int_parsing_size"
  | notPositive => "greater_than_equal"
  | notABoolean => "bool_type"
  | unreadableBoolean => "bool_parsing"
  | notATable _ => "model_type"
  | invalidCallName _ | sharedCallName .. => "value_error"

def message : FaultKind → String
  | unknownKey => "Extra inputs are not permitted"
  | notAList => "Input should be a valid list"
  | notAString => "Input should be a valid string"
  | emptyString => "String should have at least 1 character"
  | notAnInteger => "Input should be a valid integer"
  | unreadableInteger => "Input should be a valid integer, unable to parse string as an integer"
  | fractionalInteger => "Input should be a valid integer, got a number with a fractional part"
  | notFinite => "Input should be a finite number"
  | hugeInteger => "Unable to parse input string as an integer, exceeded maximum size"
  | notPositive => "Input should be greater than or equal to 1"
  | notABoolean => "Input should be a valid boolean"
  | unreadableBoolean => "Input should be a valid boolean, unable to interpret input"
  | notATable model => s!"Input should be a valid dictionary or instance of {model}"
  | invalidCallName name =>
      s!"Value error, Directive call name '{name}' is not a valid identifier"
  | sharedCallName name first second =>
      s!"Value error, Directive call name '{name}' is used for both '{first}' and '{second}'"

end FaultKind

structure Fault where
  location : List Step
  kind : FaultKind
deriving DecidableEq, Repr

end Annotations
