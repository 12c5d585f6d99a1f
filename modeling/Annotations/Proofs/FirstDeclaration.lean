import Annotations.Proofs.Declaration
import Annotations.Proofs.Resolution
import Annotations.Proofs.Source.Blocks

/-!
Contract: in a unit that is read, the first declaration is the earliest.

Declarations and calls come in the order of their lines, so that a path which is
not registered is registered on the least line on which the unit declares it. A
directive of the unit then reaches the path from that line on.

Owns:
- `SourceUnit.linesOf`, the lines on which a unit declares a path;
- `SourceUnit.IsInSourceOrder` and `SourceUnit.isInSourceOrder_of_source`.

Does not own: the order of nodes in a tree; see `Annotations.Proofs.Source.Ascent`.
-/

namespace Annotations

open Source

def SourceUnit.linesOf (unit : SourceUnit) (path : Path) : List Line :=
  (unit.declarations.filter fun declaration => decide (declaration.path = path)).map
    Declaration.line

theorem SourceUnit.head?_linesOf (unit : SourceUnit) (path : Path) :
    (unit.linesOf path).head? =
      (unit.declarations.find? fun declaration => decide (declaration.path = path)).map
        Declaration.line := by
  rw [linesOf, List.head?_map, List.head?_filter]

/-- Where lines do not decrease, the first declaration of a path is on the least line. -/
theorem SourceUnit.min?_linesOf {unit : SourceUnit}
    (ascending : unit.declarations.Pairwise fun earlier later => earlier.line ≤ later.line)
    (path : Path) : (unit.linesOf path).min? = (unit.linesOf path).head? := by
  refine List.min?_eq_head? (List.pairwise_map.2 ?_)
  refine (ascending.sublist List.filter_sublist).imp ?_
  intro earlier later notAbove
  exact Int.min_eq_left notAbove

theorem SourceUnit.get?_declareAll_of_ascending {unit : SourceUnit}
    (ascending : unit.declarations.Pairwise fun earlier later => earlier.line ≤ later.line)
    {table : SymbolTable} {path : Path} (isNew : table.get? path = none) :
    (table.declareAll unit.declarations unit.unitId).get? path =
      (unit.linesOf path).min?.map fun line => Site.newSymbol ⟨unit.unitId, line⟩ path := by
  rw [min?_linesOf ascending, head?_linesOf, SymbolTable.get?_declareAll, isNew, Option.none_or,
    Option.map_map]
  rfl

theorem SourceUnit.site?_declareAll_of_ascending {unit : SourceUnit}
    (ascending : unit.declarations.Pairwise fun earlier later => earlier.line ≤ later.line)
    {table : SymbolTable} {path : Path} (isNew : table.get? path = none) :
    (table.declareAll unit.declarations unit.unitId).site? path =
      (unit.linesOf path).min?.map fun line => ⟨unit.unitId, line⟩ := by
  rw [SymbolTable.site?, get?_declareAll_of_ascending ascending isNew, Option.map_map]
  rfl

/-- Of some lines, one is not below a given line if the least of them is not. -/
theorem exists_le_iff_of_min? {lines : List Line} {line : Line} :
    (∃ least, lines.min? = some least ∧ ¬ line < least) ↔ ∃ other ∈ lines, other ≤ line := by
  constructor
  · intro reached
    obtain ⟨least, isLeast, notBelow⟩ := reached
    exact ⟨least, (List.min?_eq_some_iff.1 isLeast).1, Int.not_lt.1 notBelow⟩
  · intro reached
    obtain ⟨other, isOther, notBelow⟩ := reached
    obtain ⟨least, isLeast⟩ :=
      Option.isSome_iff_exists.1 (List.isSome_min?_iff.2 (List.ne_nil_of_mem isOther))
    have below := (List.min?_eq_some_iff.1 isLeast).2 other isOther
    exact ⟨least, isLeast, Int.not_lt.2 (Int.le_trans below notBelow)⟩

/-- A path that a unit has newly registered is reached by the unit itself from its first line on. -/
theorem SourceUnit.reaches_iff_linesOf {unit : SourceUnit}
    (ascending : unit.declarations.Pairwise fun earlier later => earlier.line ≤ later.line)
    {table : SymbolTable} {path : Path} (isNew : table.get? path = none)
    {sites : Path → Option Site}
    (registered : sites path = (table.declareAll unit.declarations unit.unitId).site? path)
    (catalog : Catalog) (line : Line) :
    (⟨unit.unitId, catalog⟩ : Resolver).reaches sites path line = true ↔
      ∃ declared ∈ unit.linesOf path, declared ≤ line := by
  rw [Resolver.reaches_iff, registered, site?_declareAll_of_ascending ascending isNew,
    ← exists_le_iff_of_min?]
  simp only [Option.map_eq_some_iff]
  constructor
  · intro reached
    obtain ⟨site, ⟨least, isLeast, rfl⟩, notBelow⟩ := reached
    exact ⟨least, isLeast, fun below => notBelow ⟨rfl, below⟩⟩
  · intro reached
    obtain ⟨least, isLeast, notBelow⟩ := reached
    exact ⟨⟨unit.unitId, least⟩, ⟨least, isLeast, rfl⟩, fun below => notBelow below.2⟩

/-- What a unit holds stands in the order of its lines. A path that is not registered is registered
on the least line on which the unit declares it; and while it stays where the unit has registered
it, an argument of one of the unit's directives that refers to it meets no error if and only if the
unit declares it no later than on the line of the directive. -/
structure SourceUnit.IsInSourceOrder (unit : SourceUnit) : Prop where
  declarations : unit.declarations.Pairwise fun earlier later => earlier.line ≤ later.line
  calls : unit.calls.Pairwise fun earlier later => earlier.line ≤ later.line
  sorted : sortByLine Call.line unit.calls = unit.calls
  registers : ∀ (table : SymbolTable) (path : Path), table.get? path = none →
    (table.declareAll unit.declarations unit.unitId).get? path =
      (unit.linesOf path).min?.map fun line => Site.newSymbol ⟨unit.unitId, line⟩ path
  resolves : ∀ (table present : SymbolTable) (path : Path), table.get? path = none →
    present.site? path = (table.declareAll unit.declarations unit.unitId).site? path →
      ∀ (catalog : Catalog) (shape : Shape) (scope : Namespace) (argument : Argument) (line : Line),
        shape.target? scope argument = some path →
          ∃ error? after, (⟨unit.unitId, catalog⟩ : Resolver).processArgument shape scope line
              present argument = .ok (error?, after) ∧
            (error? = none ↔ ∃ declared ∈ unit.linesOf path, declared ≤ line)

theorem SourceUnit.isInSourceOrder_ofTree {root : Node} (inOrder : root.IsInOrder)
    (source : List Char) (unitId : UnitId) (moduleName : String) :
    (SourceUnit.ofTree source root unitId moduleName).IsInSourceOrder := by
  have found := inOrder.isAscending_walk (Namespace.ofModule moduleName) false
  constructor
  case declarations => exact found.declarations
  case calls => exact found.calls
  case sorted => exact sortByLine_of_pairwise Call.line found.calls
  case registers =>
    intro table path isNew
    exact get?_declareAll_of_ascending found.declarations isNew
  case resolves =>
    intro table present path isNew registered catalog shape scope argument line target
    have reached := reaches_iff_linesOf found.declarations isNew registered catalog line
    refine ⟨_, _, Resolver.processArgument_eq _ shape scope line present argument, ?_⟩
    rw [← reached, Resolver.error?, target]
    simp only [ite_eq_left_iff, reduceCtorEq, imp_false, not_not]

/-- Whatever the octets of a source, what is read of them stands in the order of its lines, and so
does what any other tree contributes that is in order. -/
theorem SourceUnit.isInSourceOrder_of_source (octets : List UInt8) (unitId : UnitId)
    (moduleName : String) :
    (SourceUnit.read octets unitId moduleName).IsInSourceOrder ∧
      ∀ (source : List Char) (root : Node), root.IsInOrder →
        (SourceUnit.ofTree source root unitId moduleName).IsInSourceOrder :=
  ⟨isInSourceOrder_ofTree (isInOrder_moduleNode _) _ unitId moduleName,
    fun source _ inOrder => isInSourceOrder_ofTree inOrder source unitId moduleName⟩

/-- Two constants assigned in one chain of three rows, and the second of them once more. -/
private def chained : Node :=
  ⟨.module, none, ⟨0, 0⟩, "A = \\\nB = \\\n1\nB = 2\n",
    [⟨.expressionStatement, none, ⟨0, 0⟩, "A = \\\nB = \\\n1",
        [⟨.assignment, none, ⟨0, 0⟩, "A = \\\nB = \\\n1",
          [⟨.identifier, some .left, ⟨0, 0⟩, "A", []⟩,
            ⟨.assignment, some .right, ⟨1, 0⟩, "B = \\\n1",
              [⟨.identifier, some .left, ⟨1, 0⟩, "B", []⟩,
                ⟨.expression, some .right, ⟨2, 0⟩, "1", []⟩]⟩]⟩]⟩,
      ⟨.expressionStatement, none, ⟨3, 0⟩, "B = 2",
        [⟨.assignment, none, ⟨3, 0⟩, "B = 2",
          [⟨.identifier, some .left, ⟨3, 0⟩, "B", []⟩,
            ⟨.expression, some .right, ⟨3, 4⟩, "2", []⟩]⟩]⟩]⟩

/-- In a chain of assignments the left sides are found in their order. -/
theorem SourceUnit.isInSourceOrder_chained :
    chained.IsInOrder ∧
      (SourceUnit.ofTree [] chained "m.py" "m").linesOf ⟨["m"], "B", .constant⟩ = [2, 4] ∧
      (SourceUnit.ofTree [] chained "m.py" "m").IsInSourceOrder := by
  have inOrder : chained.IsInOrder := by
    refine Node.isInOrder_of_preorder ?_ ?_
    · decide
    · unfold SidesInOrder Node.HasLeftFirst
      decide
  exact ⟨inOrder, by decide,
    (SourceUnit.isInSourceOrder_of_source [] "m.py" "m").2 [] chained inOrder⟩

end Annotations
