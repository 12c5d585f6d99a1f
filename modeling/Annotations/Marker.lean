import Annotations.SourceUnit
import Annotations.Text.Blank
import Annotations.Text.Run
import Annotations.Text.Word

/-!
Contract: reading suppression markers out of comments.

A marker comment, trimmed of blanks, is one or more `#`, the tag, `:`, an
action, `=`, and rule ids separated by commas, with blanks allowed between these
parts; a further comment may follow, opened by `#`. Any other comment carries no
marker.

The tag is an arbitrary text, so it may itself begin with `#` or blanks. Every
place where it could begin is tried; the rest of the comment is then read in
only one way.

Owns:

- `Marker` and `Marker.ofComment`.

Does not own:

- which rules are known, and what markers suppress; see
  `Annotations.Suppression`.
-/

namespace Annotations

inductive MarkerAction where
  | disable
  | enable
deriving DecidableEq, Repr

def MarkerAction.label : MarkerAction → String
  | .disable => "disable"
  | .enable => "enable"

structure Marker where
  rule : String
  action : MarkerAction
  line : Line
  trailing : Bool
deriving DecidableEq, Repr

namespace Marker

open Annotations.Text

/-- The tag that opens a marker when none is configured. -/
def standardTag : String := "annotate"

def isRuleChar (c : Char) : Bool :=
  isWord c || c == '.' || c == '/' || c == '-'

/-- Read the rule ids of a marker up to the end of the comment, where another comment may stand. -/
def readRules? (text : List Char) : Option (List String) :=
  let rule := text.takeWhile isRuleChar
  if rule.isEmpty then none
  else
    match _following : (text.dropWhile isRuleChar).dropWhile isBlank with
    | [] => some [String.ofList rule]
    | ',' :: rest => (readRules? (rest.dropWhile isBlank)).map (String.ofList rule :: ·)
    | '#' :: remark => if '\n' ∈ remark then none else some [String.ofList rule]
    | _ => none
termination_by text.length
decreasing_by
  have rest_le := (List.dropWhile_sublist isBlank (l := rest)).length_le
  have after_le := (List.dropWhile_sublist isBlank (l := text.dropWhile isRuleChar)).length_le
  have ids_le := (List.dropWhile_sublist isRuleChar (l := text)).length_le
  simp only [_following, List.length_cons] at after_le
  omega

def readAction? (text : List Char) : Option (MarkerAction × List Char) :=
  match "disable".toList.isPrefixOf? text with
  | some rest => some (.disable, rest)
  | none => ("enable".toList.isPrefixOf? text).map fun rest => (.enable, rest)

/-- Read what follows the tag: a colon, an action, an equals sign and the rule ids. -/
def readAssignment? (text : List Char) : Option (MarkerAction × List String) :=
  match text.dropWhile isBlank with
  | ':' :: afterColon =>
      match readAction? (afterColon.dropWhile isBlank) with
      | some (action, afterAction) =>
          match afterAction.dropWhile isBlank with
          | '=' :: afterEquals =>
              (readRules? (afterEquals.dropWhile isBlank)).map fun rules => (action, rules)
          | _ => none
      | none => none
  | _ => none

/-- Read a trimmed marker comment under a tag: its action, and the rule ids as written. -/
def read? (tag : List Char) (text : List Char) : Option (MarkerAction × List String) :=
  match text with
  | '#' :: rest =>
      ((afterRun (· == '#') rest).flatMap (afterRun isBlank)).findSome? fun candidate =>
        (tag.isPrefixOf? candidate).bind readAssignment?
  | _ => none

/-- The markers of a comment: one for each distinct rule id, in the order written. -/
def ofComment (tag : String) (comment : Comment) : List Marker :=
  match read? tag.toList (trim isBlank comment.text.toList) with
  | some (action, rules) =>
      rules.eraseDups.map fun rule => ⟨rule, action, comment.line, comment.trailing⟩
  | none => []

end Marker

end Annotations
