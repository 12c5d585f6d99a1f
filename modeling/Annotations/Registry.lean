import Annotations.Symbol

/-!
Contract: the registered symbols of a run.

A path is registered at most once: its first declaration wins, and later ones
find the existing symbol.

Owns:

- `Registry`, whose symbols have pairwise distinct paths;
- declaring, finding, listing, and changing the visibility of symbols.

Does not own:

- the record of changes; see `Annotations.SymbolTable`.
-/

namespace Annotations

structure UnregisteredPath where
  path : Path
deriving DecidableEq, Repr

/-- Registered symbols, in the order of their first declaration. -/
structure Registry where
  entries : List Symbol
  distinct : (entries.map Symbol.path).Nodup

namespace Registry

def empty : Registry := ⟨[], List.nodup_nil⟩

def get? (registry : Registry) (path : Path) : Option Symbol :=
  registry.entries.find? fun symbol => symbol.path = path

def contains (registry : Registry) (path : Path) : Bool :=
  (registry.get? path).isSome

def size (registry : Registry) : Nat :=
  registry.entries.length

theorem get?_eq_none_iff {registry : Registry} {path : Path} :
    registry.get? path = none ↔ path ∉ registry.entries.map Symbol.path := by
  simp [get?, List.find?_eq_none]

def insertNew (registry : Registry) (symbol : Symbol)
    (fresh : symbol.path ∉ registry.entries.map Symbol.path) : Registry :=
  ⟨registry.entries ++ [symbol], by
    simp only [List.map_append, List.map_cons, List.map_nil]
    exact List.nodup_append.2
      ⟨registry.distinct, by simp, by
        intro path registered other isNew
        rw [List.mem_singleton] at isNew
        rintro rfl
        exact fresh (isNew ▸ registered)⟩⟩

/-- Register a declaration of `unitId`, unless its path is registered. The result also gives the
symbol now registered. -/
def declare (registry : Registry) (declaration : Declaration) (unitId : UnitId) :
    Symbol × Registry :=
  match found : registry.get? declaration.path with
  | some existing => (existing, registry)
  | none =>
      let symbol : Symbol := ⟨declaration.path, .isPublic, unitId, declaration.line⟩
      (symbol, registry.insertNew symbol (get?_eq_none_iff.1 found))

/-- Give the symbol of `path` a visibility, if there is one. -/
def assign (registry : Registry) (path : Path) (visibility : Visibility) : Registry :=
  ⟨registry.entries.map fun symbol =>
      if symbol.path = path then { symbol with visibility := visibility } else symbol, by
    have paths_kept : (registry.entries.map fun symbol =>
        if symbol.path = path then { symbol with visibility := visibility } else symbol).map
          Symbol.path = registry.entries.map Symbol.path := by
      rw [List.map_map]
      apply List.map_congr_left
      intro symbol _
      simp only [Function.comp]
      split <;> rfl
    rw [paths_kept]
    exact registry.distinct⟩

/-- Change the visibility of a registered symbol. The result also gives the one it had. -/
def setVisibility (registry : Registry) (path : Path) (visibility : Visibility) :
    Except UnregisteredPath (Visibility × Registry) :=
  match registry.get? path with
  | some symbol => .ok (symbol.visibility, registry.assign path visibility)
  | none => .error ⟨path⟩

/-- The registered symbols in ascending order of their paths. -/
def symbols (registry : Registry) : List Symbol :=
  registry.entries.mergeSort fun left right => (compare left.path right.path).isLE

end Registry

end Annotations
