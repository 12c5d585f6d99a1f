import Annotations.Run

/-!
Contract: results as lines of text.

Owns:

- one line for each suppression entry, failure, symbol and change.
-/

namespace Annotations.Render

def padRight (width : Nat) (text : String) : String :=
  text ++ String.ofList (List.replicate (width - text.length) ' ')

def suppressionLine (rule : String) (entry : ReportEntry) : String :=
  s!"rule {rule} disabled in unit {entry.unitId}, {entry.range.describe}"

/-- The lines of a suppression report, rule by rule. -/
def suppressions (mapping : ReportMapping) : List String :=
  mapping.flatMap fun (rule, entries) => entries.map (suppressionLine rule)

def diagnosticLine (failure : Failure) : String :=
  s!"{failure.location}: {failure.message}"

def diagnostics (failures : List Failure) : List String :=
  failures.map diagnosticLine

/-- The line of a symbol, in columns for visibility, kind and name. -/
def symbolLine (symbol : Symbol) : String :=
  padRight 9 symbol.visibility.label ++ " " ++ padRight 15 symbol.path.kind.label ++ " " ++
    symbol.path.qualifiedName

def symbols (symbols : List Symbol) : List String :=
  symbols.map symbolLine

def changeLine (change : Change) : String :=
  s!"{change.unitId}:{change.line}: {change.path.qualifiedName} " ++
    s!"{change.before.label} -> {change.after.label}"

def changes (changes : List Change) : List String :=
  changes.map changeLine

end Annotations.Render
