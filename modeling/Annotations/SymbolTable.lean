import Annotations.Registry

/-!
Contract: a registry together with the record of visibility changes.

Owns:

- `Change`, one effective change of a symbol's visibility;
- `SymbolTable`, which records changes if it was made to.
-/

namespace Annotations

/-- A change of visibility, and the directive that made it. -/
structure Change where
  path : Path
  before : Visibility
  after : Visibility
  unitId : UnitId
  line : Line
deriving DecidableEq, Repr

def Change.compareBySite (left right : Change) : Ordering :=
  (compare left.unitId right.unitId).then
    ((compare left.line right.line).then (compare left.path right.path))

/-- A registry, and the changes in the order they were made; without a log none are recorded. -/
structure SymbolTable where
  registry : Registry
  log? : Option (List Change)

namespace SymbolTable

/-- A table without symbols, which records changes or not. -/
def empty (tracksChanges : Bool) : SymbolTable :=
  ⟨Registry.empty, if tracksChanges then some [] else none⟩

def get? (table : SymbolTable) (path : Path) : Option Symbol :=
  table.registry.get? path

/-- Register a declaration, unless its path is registered. The result also gives the symbol now
registered. -/
def declare (table : SymbolTable) (declaration : Declaration) (unitId : UnitId) :
    Symbol × SymbolTable :=
  let (symbol, registry) := table.registry.declare declaration unitId
  (symbol, { table with registry := registry })

def declareAll (table : SymbolTable) (declarations : List Declaration) (unitId : UnitId) :
    SymbolTable :=
  declarations.foldl (fun table declaration => (table.declare declaration unitId).2) table

/-- Change the visibility of a registered symbol on behalf of a directive. A change that has an
effect is recorded. The result also gives the visibility before. -/
def setVisibility (table : SymbolTable) (path : Path) (visibility : Visibility) (unitId : UnitId)
    (line : Line) : Except UnregisteredPath (Visibility × SymbolTable) := do
  let (before, registry) ← table.registry.setVisibility path visibility
  let log? :=
    if before = visibility then table.log?
    else table.log?.map (· ++ [⟨path, before, visibility, unitId, line⟩])
  .ok (before, ⟨registry, log?⟩)

def symbols (table : SymbolTable) : List Symbol :=
  table.registry.symbols

/-- The recorded changes by unit, line and path; changes alike in these keep their order. -/
def changes (table : SymbolTable) : List Change :=
  (table.log?.getD []).mergeSort fun left right => (Change.compareBySite left right).isLE

def clear (table : SymbolTable) : SymbolTable :=
  ⟨Registry.empty, table.log?.map fun _ => []⟩

end SymbolTable

end Annotations
