import Mathlib.Data.List.Nodup
import Annotations.SymbolTable

/-!
Contract: what a registry and a symbol table answer after each operation.

A registry is read through `Registry.get?` alone. Each operation has one
equation that says what every path answers afterwards, so that no later proof
opens the entries.

Owns:

- `Site`, the part of a symbol that never changes once it is registered;
- the equations of declaring, of changing a visibility and of listing;
- `Application`, one directive argument that was applied, and what a sequence of
  them leaves in a table;
- that the registry they leave depends on their paths alone.

Does not own:

- which arguments are applied; see `Annotations.Proofs.Resolution`.
-/

namespace Annotations

/-- Where a symbol was first declared. -/
structure Site where
  unitId : UnitId
  line : Line
deriving DecidableEq, Repr

def Symbol.site (symbol : Symbol) : Site :=
  ⟨symbol.unitId, symbol.line⟩

def Site.newSymbol (site : Site) (path : Path) : Symbol :=
  ⟨path, .isPublic, site.unitId, site.line⟩

namespace Registry

/-! ## Reading -/

theorem path_of_get? {registry : Registry} {path : Path} {symbol : Symbol}
    (found : registry.get? path = some symbol) : symbol.path = path := by
  simpa using List.find?_some found

/-- As paths are distinct, a registered symbol is the answer to its own path. -/
theorem get?_eq_some_iff {registry : Registry} {path : Path} {symbol : Symbol} :
    registry.get? path = some symbol ↔ symbol ∈ registry.entries ∧ symbol.path = path := by
  constructor
  · intro found
    exact ⟨List.mem_of_find?_eq_some found, path_of_get? found⟩
  · intro isEntry
    obtain ⟨registered, rfl⟩ := isEntry
    cases found : registry.get? symbol.path with
    | none =>
        have absent := get?_eq_none_iff.1 found
        exact absurd (List.mem_map_of_mem registered) absent
    | some other =>
        have otherRegistered := List.mem_of_find?_eq_some found
        have same := List.inj_on_of_nodup_map registry.distinct otherRegistered registered
          (path_of_get? found)
        rw [same]

/-- The listing shows exactly the symbols that a path answers. -/
theorem mem_symbols_iff {registry : Registry} {symbol : Symbol} :
    symbol ∈ registry.symbols ↔ registry.get? symbol.path = some symbol := by
  rw [get?_eq_some_iff]
  simp [symbols]

theorem nodup_symbols (registry : Registry) : (registry.symbols.map Symbol.path).Nodup :=
  ((List.mergeSort_perm _ _).map Symbol.path).nodup_iff.2 registry.distinct

/-! ## Declaring -/

/-- A declaration answers its own path, unless the path had an answer already. -/
theorem get?_declare (registry : Registry) (declaration : Declaration) (unitId : UnitId)
    (path : Path) :
    (registry.declare declaration unitId).2.get? path =
      (registry.get? path).or
        (if declaration.path = path then
          some (Site.newSymbol ⟨unitId, declaration.line⟩ path) else none) := by
  unfold declare
  split
  next existing found =>
    by_cases same : declaration.path = path
    · subst same
      simp [found]
    · simp [same]
  next absent =>
    simp only [get?, insertNew, List.find?_append]
    by_cases same : declaration.path = path
    · subst same
      simp [Site.newSymbol]
    · simp [same]

/-! ## Changing a visibility -/

/-- A change of symbols that keeps their paths is seen through each path. -/
theorem get?_of_entries_eq_map {registry changed : Registry} {change : Symbol → Symbol}
    (keepsPath : ∀ symbol, (change symbol).path = symbol.path)
    (mapped : changed.entries = registry.entries.map change) (path : Path) :
    changed.get? path = (registry.get? path).map change := by
  unfold get?
  rw [mapped, List.find?_map]
  simp only [Function.comp_def, keepsPath]

/-- Assigning changes the visibility under one path, and nothing else. -/
theorem get?_assign (registry : Registry) (target : Path) (visibility : Visibility) (path : Path) :
    (registry.assign target visibility).get? path =
      (registry.get? path).map fun symbol =>
        if path = target then { symbol with visibility := visibility } else symbol := by
  have mapped : (registry.assign target visibility).entries = registry.entries.map fun symbol =>
      if symbol.path = target then { symbol with visibility := visibility } else symbol := rfl
  rw [get?_of_entries_eq_map (by intro symbol; split <;> rfl) mapped]
  apply Option.map_congr
  intro symbol found
  rw [path_of_get? found]

theorem eq_of_entries_eq {left right : Registry} (same : left.entries = right.entries) :
    left = right := by
  cases left
  cases right
  cases same
  rfl

end Registry

namespace SymbolTable

theorem eq_of_parts_eq {left right : SymbolTable} (sameRegistry : left.registry = right.registry)
    (sameLog : left.log? = right.log?) : left = right := by
  cases left
  cases right
  cases sameRegistry
  cases sameLog
  rfl

/-- The place of the declaration that registered a path. -/
def site? (table : SymbolTable) (path : Path) : Option Site :=
  (table.get? path).map Symbol.site

theorem mem_symbols_iff {table : SymbolTable} {symbol : Symbol} :
    symbol ∈ table.symbols ↔ table.get? symbol.path = some symbol :=
  Registry.mem_symbols_iff

/-- The paths of the listing are those with a site. -/
theorem mem_paths_symbols_iff {table : SymbolTable} {path : Path} :
    path ∈ table.symbols.map Symbol.path ↔ (table.site? path).isSome := by
  rw [site?, Option.isSome_map, Option.isSome_iff_exists]
  constructor
  · intro isListed
    obtain ⟨symbol, isSymbol, rfl⟩ := List.mem_map.1 isListed
    exact ⟨symbol, mem_symbols_iff.1 isSymbol⟩
  · intro sited
    obtain ⟨symbol, found⟩ := sited
    have ofPath : symbol.path = path := Registry.path_of_get? found
    exact List.mem_map.2 ⟨symbol, mem_symbols_iff.2 (ofPath ▸ found), ofPath⟩

theorem get?_declare (table : SymbolTable) (declaration : Declaration) (unitId : UnitId)
    (path : Path) :
    (table.declare declaration unitId).2.get? path =
      (table.get? path).or
        (if declaration.path = path then
          some (Site.newSymbol ⟨unitId, declaration.line⟩ path) else none) :=
  Registry.get?_declare table.registry declaration unitId path

end SymbolTable

/-! ## Applied arguments -/

/-- A directive argument that was applied: the path made private, and the directive's place. -/
structure Application where
  path : Path
  unitId : UnitId
  line : Line
deriving DecidableEq, Repr

namespace SymbolTable

/-- The table after a path is made private on behalf of a directive. Without a symbol under the path
nothing changes. -/
def apply (table : SymbolTable) (application : Application) : SymbolTable :=
  match table.setVisibility application.path .isPrivate application.unitId application.line with
  | .ok (_, next) => next
  | .error _ => table

def applyAll (table : SymbolTable) (applications : List Application) : SymbolTable :=
  applications.foldl apply table

/-- On a registered path the change is not refused. -/
theorem setVisibility_eq_apply {table : SymbolTable} {symbol : Symbol} (application : Application)
    (registered : table.get? application.path = some symbol) :
    table.setVisibility application.path .isPrivate application.unitId application.line =
      .ok (symbol.visibility, table.apply application) := by
  have found : table.registry.get? application.path = some symbol := registered
  unfold apply setVisibility Registry.setVisibility
  rw [found]
  rfl

/-- Applications change registered symbols where they stand. -/
theorem entries_apply (table : SymbolTable) (application : Application) :
    (table.apply application).registry.entries =
      table.registry.entries.map fun symbol =>
        if symbol.path = application.path then { symbol with visibility := .isPrivate }
        else symbol := by
  unfold apply setVisibility Registry.setVisibility
  cases found : table.registry.get? application.path with
  | none =>
      have absent := Registry.get?_eq_none_iff.1 found
      refine (List.map_id _).symm.trans (List.map_congr_left ?_)
      intro symbol isEntry
      have different : symbol.path ≠ application.path := by
        intro same
        exact absent (same ▸ List.mem_map_of_mem isEntry)
      rw [if_neg different]
      rfl
  | some symbol => rfl

theorem entries_applyAll (table : SymbolTable) (applications : List Application) :
    (table.applyAll applications).registry.entries =
      table.registry.entries.map fun symbol =>
        if symbol.path ∈ applications.map Application.path then
          { symbol with visibility := .isPrivate }
        else symbol := by
  induction applications generalizing table with
  | nil => simp [applyAll]
  | cons application rest inductionHypothesis =>
      change ((table.apply application).applyAll rest).registry.entries = _
      rw [inductionHypothesis, entries_apply, List.map_map]
      congr 1
      funext symbol
      by_cases here : symbol.path = application.path
      · simp [here]
      · simp [-List.mem_map, here]

/-- Applications make private the symbols under their paths, and change nothing else. -/
theorem get?_applyAll (table : SymbolTable) (applications : List Application) (path : Path) :
    (table.applyAll applications).get? path =
      (table.get? path).map fun symbol =>
        if path ∈ applications.map Application.path then
          { symbol with visibility := .isPrivate } else symbol := by
  unfold get?
  rw [Registry.get?_of_entries_eq_map (by intro symbol; split <;> rfl)
    (table.entries_applyAll applications)]
  apply Option.map_congr
  intro symbol found
  rw [Registry.path_of_get? found]

/-- The symbol made private under the path of an application. -/
theorem get?_apply (table : SymbolTable) (application : Application) (path : Path) :
    (table.apply application).get? path =
      (table.get? path).map fun symbol =>
        if path = application.path then { symbol with visibility := .isPrivate } else symbol := by
  have applied := table.get?_applyAll [application] path
  simp only [List.map_cons, List.map_nil, List.mem_singleton] at applied
  exact applied

theorem site?_applyAll (table : SymbolTable) (applications : List Application) :
    (table.applyAll applications).site? = table.site? := by
  funext path
  unfold site?
  rw [get?_applyAll, Option.map_map]
  congr 1
  funext symbol
  simp only [Function.comp]
  split <;> rfl

/-- Which paths are applied tells the registry, not in which order or how often. -/
theorem registry_applyAll_congr (table : SymbolTable) {applications others : List Application}
    (samePaths : ∀ path, path ∈ applications.map Application.path ↔
      path ∈ others.map Application.path) :
    (table.applyAll applications).registry = (table.applyAll others).registry := by
  apply Registry.eq_of_entries_eq
  simp only [entries_applyAll, samePaths]

theorem applyAll_append (table : SymbolTable) (first second : List Application) :
    table.applyAll (first ++ second) = (table.applyAll first).applyAll second :=
  List.foldl_append

end SymbolTable

end Annotations
