import Annotations.Run
import Annotations.Proofs.Registry

/-!
Contract: what the declarations of units leave registered.

Owns:

- `firstSite?`, the place of the first declaration of a path in the order in
  which units are registered;
- `Run.get?_declareUnits`, which says that registering units answers each path
  from the table before, and otherwise from its first declaration.
-/

namespace Annotations

def Declares (units : List SourceUnit) (path : Path) : Prop :=
  ∃ unit ∈ units, ∃ declaration ∈ unit.declarations, declaration.path = path

/-- The declarations of units with their places: unit after unit, each in its own order. -/
def declarationSites (units : List SourceUnit) : List (Path × Site) :=
  units.flatMap fun unit =>
    unit.declarations.map fun declaration => (declaration.path, ⟨unit.unitId, declaration.line⟩)

/-- The place of the first declaration of a path. -/
def firstSite? (units : List SourceUnit) (path : Path) : Option Site :=
  ((declarationSites units).find? fun entry => decide (entry.1 = path)).map Prod.snd

theorem firstSite?_nil (path : Path) : firstSite? [] path = none := rfl

theorem firstSite?_append (first second : List SourceUnit) (path : Path) :
    firstSite? (first ++ second) path = (firstSite? first path).or (firstSite? second path) := by
  unfold firstSite? declarationSites
  rw [List.flatMap_append, List.find?_append, Option.map_or]

theorem firstSite?_singleton (unit : SourceUnit) (path : Path) :
    firstSite? [unit] path =
      (unit.declarations.find? fun declaration => decide (declaration.path = path)).map
        fun declaration => ⟨unit.unitId, declaration.line⟩ := by
  simp [firstSite?, declarationSites, List.find?_map, Function.comp_def]

theorem isSome_firstSite?_iff {units : List SourceUnit} {path : Path} :
    (firstSite? units path).isSome ↔ Declares units path := by
  unfold firstSite? declarationSites Declares
  rw [Option.isSome_map, List.find?_isSome]
  simp only [List.mem_flatMap, List.mem_map, decide_eq_true_eq]
  constructor
  · intro found
    obtain ⟨entry, ⟨unit, isUnit, declaration, isDeclaration, rfl⟩, ofPath⟩ := found
    exact ⟨unit, isUnit, declaration, isDeclaration, ofPath⟩
  · intro declares
    obtain ⟨unit, isUnit, declaration, isDeclaration, ofPath⟩ := declares
    exact ⟨_, ⟨unit, isUnit, declaration, isDeclaration, rfl⟩, ofPath⟩

/-- A first declaration is the first of its unit, and the units before that one do not declare the
path. -/
theorem exists_split_of_firstSite? {units : List SourceUnit} {path : Path} {site : Site}
    (found : firstSite? units path = some site) :
    ∃ before unit after, units = before ++ unit :: after ∧ ¬ Declares before path ∧
      unit.unitId = site.unitId ∧
      (unit.declarations.find? fun declaration => decide (declaration.path = path)).map
        Declaration.line = some site.line := by
  induction units with
  | nil => contradiction
  | cons unit rest inductionHypothesis =>
      rw [← List.singleton_append, firstSite?_append, firstSite?_singleton] at found
      cases declared : unit.declarations.find? fun declaration =>
          decide (declaration.path = path) with
      | some declaration =>
          rw [declared] at found
          obtain rfl := Option.some.inj found
          exact ⟨[], unit, rest, rfl, by simp [Declares], rfl, by rw [declared]; rfl⟩
      | none =>
          rw [declared, Option.map_none, Option.none_or] at found
          obtain ⟨before, other, after, rfl, notBefore, first⟩ := inductionHypothesis found
          refine ⟨unit :: before, other, after, rfl, ?_, first⟩
          rintro ⟨declaring, isUnit, declaration, isDeclaration, ofPath⟩
          rcases List.mem_cons.1 isUnit with rfl | inBefore
          · exact absurd (decide_eq_true ofPath) (List.find?_eq_none.1 declared _ isDeclaration)
          · exact notBefore ⟨declaring, inBefore, declaration, isDeclaration, ofPath⟩

/-- Units that come later do not move a first declaration. -/
theorem firstSite?_append_of_some {first : List SourceUnit} {path : Path} {site : Site}
    (found : firstSite? first path = some site) (second : List SourceUnit) :
    firstSite? (first ++ second) path = some site := by
  rw [firstSite?_append, found, Option.some_or]

theorem SymbolTable.get?_declareAll (table : SymbolTable) (declarations : List Declaration)
    (unitId : UnitId) (path : Path) :
    (table.declareAll declarations unitId).get? path =
      (table.get? path).or
        ((declarations.find? fun declaration => decide (declaration.path = path)).map
          fun declaration => Site.newSymbol ⟨unitId, declaration.line⟩ path) := by
  induction declarations generalizing table with
  | nil => simp [declareAll]
  | cons declaration rest inductionHypothesis =>
      change ((table.declare declaration unitId).2.declareAll rest unitId).get? path = _
      rw [inductionHypothesis, get?_declare, List.find?_cons, Option.or_assoc]
      by_cases same : declaration.path = path
      · simp [same]
      · simp [same]

/-- A path is answered from the table before or, failing that, from its first declaration. -/
theorem Run.get?_declareUnits (table : SymbolTable) (units : List SourceUnit) (path : Path) :
    (Run.declareUnits table units).get? path =
      (table.get? path).or ((firstSite? units path).map fun site => site.newSymbol path) := by
  induction units generalizing table with
  | nil => simp [declareUnits, firstSite?_nil]
  | cons unit rest inductionHypothesis =>
      change (Run.declareUnits (table.declareAll unit.declarations unit.unitId) rest).get? path = _
      rw [inductionHypothesis, SymbolTable.get?_declareAll, ← List.singleton_append,
        firstSite?_append, firstSite?_singleton, Option.or_assoc, Option.map_or, Option.map_map]
      rfl

theorem Run.site?_declareUnits (table : SymbolTable) (units : List SourceUnit) (path : Path) :
    (Run.declareUnits table units).site? path =
      (table.site? path).or (firstSite? units path) := by
  unfold SymbolTable.site?
  rw [get?_declareUnits, Option.map_or, Option.map_map]
  congr 1
  exact Option.map_id'

end Annotations
