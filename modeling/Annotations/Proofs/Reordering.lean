import Mathlib.Data.List.Perm.Basic
import Annotations.Proofs.ChangeLog
import Annotations.Proofs.Resolution

/-!
Contract: the directives of one unit, in any order of supply.

Whether an argument is applied depends on declared places alone, and applying
arguments moves no place. So calls and arguments do not disturb each other: in
any order they make the same paths private. Calls are processed by line, so the
record of a path stays that of the least line on which it is applied. Failures
keep from the order of supply only the order of calls on one line and of errors
in one call.

Owns:

- `PairsOff`, that the items of two lists are related one to one;
- calls and failures that differ in the order of their parts;
- `Resolver.HidesTargets`, all that processing a unit changes in a table;
- `Resolver.processUnit_in_any_order`.

Does not own:

- the order in which units are added; see `Annotations.Proofs.AdditionOrder`.
-/

namespace Annotations

/-! ## Lists that pair off -/

/-- The items of two lists are related one to one, wherever they stand. -/
def PairsOff {Item Other : Type} (related : Item → Other → Prop) (items : List Item)
    (others : List Other) : Prop :=
  ∃ rearranged, items.Perm rearranged ∧ List.Forall₂ related rearranged others

namespace PairsOff

variable {Item Other : Type} {related : Item → Other → Prop} {items : List Item}
  {others : List Other}

theorem of_perm {newItems : List Item} {newOthers : List Other}
    (paired : PairsOff related items others) (permuted : newItems.Perm items)
    (othersPermuted : others.Perm newOthers) : PairsOff related newItems newOthers := by
  obtain ⟨rearranged, permutedFirst, alongside⟩ := paired
  -- The pairing is carried along when the others are rearranged.
  have composed : Relation.Comp (List.Forall₂ related) List.Perm rearranged newOthers :=
    ⟨others, alongside, othersPermuted⟩
  rw [List.forall₂_comp_perm_eq_perm_comp_forall₂] at composed
  obtain ⟨newRearranged, permutedLast, newAlongside⟩ := composed
  exact ⟨newRearranged, (permuted.trans permutedFirst).trans permutedLast, newAlongside⟩

theorem filterMap {Image OtherImage : Type} {alike : Image → OtherImage → Prop}
    {image? : Item → Option Image} {otherImage? : Other → Option OtherImage}
    (paired : PairsOff related items others)
    (images : ∀ {item other}, related item other →
      Option.Rel alike (image? item) (otherImage? other)) :
    PairsOff alike (items.filterMap image?) (others.filterMap otherImage?) := by
  obtain ⟨rearranged, permuted, alongside⟩ := paired
  exact ⟨rearranged.filterMap image?, permuted.filterMap image?,
    List.rel_filterMap (fun _ _ isRelated => images isRelated) alongside⟩

theorem flatMap_perm {Image : Type} {images : Item → List Image}
    {otherImages : Other → List Image} (paired : PairsOff related items others)
    (same : ∀ {item other}, related item other → (images item).Perm (otherImages other)) :
    (items.flatMap images).Perm (others.flatMap otherImages) := by
  obtain ⟨rearranged, permuted, alongside⟩ := paired
  refine (permuted.flatMap_right images).trans ?_
  clear permuted
  induction alongside with
  | nil => exact .nil
  | cons isRelated _ inductionHypothesis =>
      rw [List.flatMap_cons, List.flatMap_cons]
      exact (same isRelated).append inductionHypothesis

theorem map_perm {Image : Type} {image : Item → Image} {otherImage : Other → Image}
    (paired : PairsOff related items others)
    (same : ∀ {item other}, related item other → image item = otherImage other) :
    (items.map image).Perm (others.map otherImage) := by
  rw [List.map_eq_flatMap, List.map_eq_flatMap]
  refine paired.flatMap_perm ?_
  intro item other isRelated
  rw [same isRelated]

end PairsOff

/-! ## Calls and failures in another order -/

/-- One call has the arguments of the other in some order, and is otherwise the same. -/
structure Call.IsShuffleOf (call other : Call) : Prop where
  scope : call.scope = other.scope
  callee : call.callee = other.callee
  line : call.line = other.line
  arguments : call.arguments.Perm other.arguments

/-- One failure has the errors of the other in some order, and is otherwise the same. -/
structure Failure.IsShuffleOf (failure other : Failure) : Prop where
  directive : failure.directive = other.directive
  scope : failure.scope = other.scope
  unitId : failure.unitId = other.unitId
  line : failure.line = other.line
  errors : failure.errors.Perm other.errors

/-- Two lists of failures agree, up to the order of those on one line and of the errors in each. -/
structure FailuresShuffled (failures others : List Failure) : Prop where
  lines : failures.map Failure.line = others.map Failure.line
  paired : PairsOff Failure.IsShuffleOf failures others

namespace Resolver

section Outcomes

variable (resolver : Resolver) (sites : Path → Option Site)

theorem callApplications_perm {call other : Call} (shuffled : call.IsShuffleOf other) :
    (resolver.callApplications sites call).Perm (resolver.callApplications sites other) := by
  unfold callApplications
  rw [shuffled.callee, shuffled.scope, shuffled.line]
  cases resolver.catalog.classify? other.callee with
  | none => exact .nil
  | some shape => exact (shuffled.arguments.filterMap _).map _

theorem failure?_of_shuffled {call other : Call} (shuffled : call.IsShuffleOf other) :
    Option.Rel Failure.IsShuffleOf (resolver.failure? sites call)
      (resolver.failure? sites other) := by
  unfold failure?
  rw [shuffled.callee, shuffled.scope, shuffled.line]
  cases resolver.catalog.classify? other.callee with
  | none => exact .none
  | some shape =>
      have sameErrors := shuffled.arguments.filterMap
        (resolver.error? sites shape other.scope other.line)
      simp only [sameErrors.isEmpty_eq]
      split
      next => exact .none
      next => exact .some ⟨rfl, rfl, rfl, rfl, sameErrors⟩

variable {unit other : SourceUnit}

theorem unitId_of_mem_applications {application : Application}
    (isApplication : application ∈ resolver.applications sites unit) :
    application.unitId = resolver.unitId := by
  obtain ⟨call, -, ofCall⟩ := List.mem_flatMap.1 isApplication
  exact (place_of_mem_callApplications ofCall).1

theorem pairsOff_sortByLine (shuffled : PairsOff Call.IsShuffleOf unit.calls other.calls) :
    PairsOff Call.IsShuffleOf (sortByLine Call.line unit.calls)
      (sortByLine Call.line other.calls) :=
  shuffled.of_perm (isStableSort_sortByLine Call.line unit.calls).permuted
    (isStableSort_sortByLine Call.line other.calls).permuted.symm

/-- The applications to each path are made in the same order: by line, and alike on one line. -/
theorem isReordering_applications
    (shuffled : PairsOff Call.IsShuffleOf unit.calls other.calls) :
    IsReordering Application.path (resolver.applications sites unit)
      (resolver.applications sites other) := by
  have permuted : (resolver.applications sites unit).Perm (resolver.applications sites other) :=
    (pairsOff_sortByLine shuffled).flatMap_perm (resolver.callApplications_perm sites)
  refine isReordering_of_pairwise permuted (resolver.pairwise_applications sites unit)
    (resolver.pairwise_applications sites other) ?_
  rintro ⟨path, unitId, line⟩ isFirst ⟨otherPath, otherUnitId, otherLine⟩ isSecond samePath
    below above
  have ofUnit := resolver.unitId_of_mem_applications sites isFirst
  have alsoOfUnit := resolver.unitId_of_mem_applications sites isSecond
  obtain rfl : path = otherPath := samePath
  obtain rfl : unitId = otherUnitId := ofUnit.trans alsoOfUnit.symm
  obtain rfl : line = otherLine := Int.le_antisymm below above
  rfl

theorem failures_shuffled (shuffled : PairsOff Call.IsShuffleOf unit.calls other.calls) :
    FailuresShuffled (resolver.failures sites unit) (resolver.failures sites other) := by
  have paired : PairsOff Failure.IsShuffleOf (resolver.failures sites unit)
      (resolver.failures sites other) :=
    (pairsOff_sortByLine shuffled).filterMap (resolver.failure?_of_shuffled sites)
  refine ⟨?_, paired⟩
  exact List.Perm.eq_of_pairwise (fun _ _ _ _ below above => Int.le_antisymm below above)
    (List.pairwise_map.2 (resolver.pairwise_failures sites unit))
    (List.pairwise_map.2 (resolver.pairwise_failures sites other))
    (paired.map_perm Failure.IsShuffleOf.line)

end Outcomes

/-! ## Processing a unit -/

/-- An argument of some directive of the unit names the path, and the path is declared, no later
than the directive where it belongs to the resolver's own unit. -/
def AppliesTo (resolver : Resolver) (unit : SourceUnit) (table : SymbolTable) (path : Path) :
    Prop :=
  ∃ call ∈ unit.calls, ∃ shape argument name, resolver.catalog.classify? call.callee = some shape ∧
    argument ∈ call.arguments ∧ shape.Names argument name ∧
    path = ⟨call.scope, name, shape.targetKind⟩ ∧
    ∃ site, table.site? path = some site ∧
      ¬ (site.unitId = resolver.unitId ∧ call.line < site.line)

theorem appliesTo_iff_mem_applications {resolver : Resolver} {unit : SourceUnit}
    {table : SymbolTable} {path : Path} :
    resolver.AppliesTo unit table path ↔
      path ∈ (resolver.applications table.site? unit).map Application.path := by
  unfold AppliesTo
  simp only [mem_applications_iff, mem_callApplications_iff, reaches_iff]

/-- The symbols that the unit's directives are applied to become private. Nothing else happens to
symbols, and no place changes. -/
structure HidesTargets (resolver : Resolver) (unit : SourceUnit) (before after : SymbolTable) :
    Prop where
  places : after.site? = before.site?
  hidden : ∀ path, resolver.AppliesTo unit before path →
    ∃ symbol, before.get? path = some symbol ∧
      after.get? path = some { symbol with visibility := .isPrivate }
  others : ∀ path, ¬ resolver.AppliesTo unit before path → after.get? path = before.get? path

theorem hidesTargets_applyAll (resolver : Resolver) (unit : SourceUnit) (table : SymbolTable) :
    resolver.HidesTargets unit table
      (table.applyAll (resolver.applications table.site? unit)) where
  places := table.site?_applyAll _
  hidden := by
    intro path applies
    have isApplied := appliesTo_iff_mem_applications.1 applies
    obtain ⟨_, _, _, _, _, _, _, _, _, site, sited, _⟩ := applies
    obtain ⟨symbol, registered, -⟩ := Option.map_eq_some_iff.1 sited
    refine ⟨symbol, registered, ?_⟩
    rw [SymbolTable.get?_applyAll, registered, Option.map_some, if_pos isApplied]
  others := by
    intro path notApplied
    rw [appliesTo_iff_mem_applications] at notApplied
    rw [SymbolTable.get?_applyAll]
    simp only [if_neg notApplied, Option.map_id']

/-- Processing a unit makes the targets of its directives private and changes nothing else, and
processing it again changes nothing at all. Calls and arguments in any other order leave the same
registry and changes, and the same failures up to the order of calls on one line and of errors in
one call. -/
theorem processUnit_in_any_order (resolver : Resolver) (table : SymbolTable)
    {unit other : SourceUnit} (shuffled : PairsOff Call.IsShuffleOf unit.calls other.calls) :
    ∃ failures after otherFailures otherAfter,
      resolver.processUnit table unit = .ok (failures, after) ∧
      resolver.HidesTargets unit table after ∧
      resolver.processUnit after unit = .ok (failures, after) ∧
      resolver.processUnit table other = .ok (otherFailures, otherAfter) ∧
      otherAfter.registry = after.registry ∧ otherAfter.changes = after.changes ∧
      FailuresShuffled failures otherFailures ∧
      (IsReordering Call.line unit.calls other.calls → otherFailures = failures) := by
  have reordered := resolver.isReordering_applications table.site? shuffled
  refine ⟨_, _, _, _, resolver.processUnit_eq table unit,
    resolver.hidesTargets_applyAll unit table, ?_, resolver.processUnit_eq table other, ?_, ?_,
    resolver.failures_shuffled table.site? shuffled, ?_⟩
  case refine_1 =>
    rw [processUnit_eq, SymbolTable.site?_applyAll, SymbolTable.applyAll_applyAll]
  case refine_2 =>
    exact table.registry_applyAll_congr fun path =>
      ((reordered.permuted.map Application.path).mem_iff).symm
  case refine_3 => exact (table.changes_applyAll_of_isReordering reordered).symm
  case refine_4 =>
    intro sameOnLines
    unfold failures
    rw [sortByLine_eq_of_isReordering sameOnLines]

/-- A table with a public, a protected and a private method, and a constant that is declared below
the directives. Its log has a record of the public method on the line of a directive. -/
private def mixedTable : SymbolTable where
  registry :=
    ⟨[⟨⟨["lib"], "run", .instanceMethod⟩, .isPublic, "a.py", 1⟩,
      ⟨⟨["lib"], "stop", .instanceMethod⟩, .isProtected, "b.py", 9⟩,
      ⟨⟨["lib"], "wait", .instanceMethod⟩, .isPrivate, "a.py", 2⟩,
      ⟨⟨["lib"], "LIMIT", .constant⟩, .isPublic, "a.py", 8⟩], by decide⟩
  log? := some [⟨⟨["lib"], "run", .instanceMethod⟩, .isPrivate, .isPublic, "a.py", 4⟩]

private def literal (value : String) : Argument :=
  ⟨.string, value, some (.text value)⟩

/-- Two directives on one line that each fail, and one above them, which comes last. -/
private def laterFirst : SourceUnit where
  unitId := "a.py"
  lineCount := 9
  declarations := []
  calls := [⟨["lib"], "private", 6, [literal "run", literal "jump", literal "stop", literal ""]⟩,
    ⟨["lib"], "private_constant", 6, [literal "LIMIT"]⟩,
    ⟨["lib"], "private", 4, [literal "wait", literal "run", literal "run"]⟩]
  comments := []
  scope := ["lib"]

/-- The same calls by line, those on one line and the arguments of each the other way round. -/
private def reversed : SourceUnit :=
  { laterFirst with
    calls := laterFirst.calls.reverse.map fun call =>
      { call with arguments := call.arguments.reverse } }

private theorem pairsOff_reversed :
    PairsOff Call.IsShuffleOf laterFirst.calls reversed.calls := by
  refine ⟨laterFirst.calls.reverse, (List.reverse_perm _).symm, ?_⟩
  rw [reversed, List.forall₂_map_right_iff]
  exact List.forall₂_same.2 fun call _ =>
    ⟨rfl, rfl, rfl, (List.reverse_perm call.arguments).symm⟩

/-- In either order of supply `run` is recorded on line 4, where it is made private first, and the
failures on line 6 come in another order. -/
theorem processUnit_in_either_order :
    PairsOff Call.IsShuffleOf laterFirst.calls reversed.calls ∧
      ∃ failures after otherFailures otherAfter,
        processUnit ⟨"a.py", Catalog.standard⟩ mixedTable laterFirst = .ok (failures, after) ∧
        HidesTargets ⟨"a.py", Catalog.standard⟩ laterFirst mixedTable after ∧
        processUnit ⟨"a.py", Catalog.standard⟩ after laterFirst = .ok (failures, after) ∧
        processUnit ⟨"a.py", Catalog.standard⟩ mixedTable reversed =
          .ok (otherFailures, otherAfter) ∧
        otherAfter.registry = after.registry ∧ otherAfter.changes = after.changes ∧
        FailuresShuffled failures otherFailures ∧ failures ≠ otherFailures ∧
        after.log? = some
          [⟨⟨["lib"], "run", .instanceMethod⟩, .isPrivate, .isPublic, "a.py", 4⟩,
            ⟨⟨["lib"], "run", .instanceMethod⟩, .isPublic, .isPrivate, "a.py", 4⟩,
            ⟨⟨["lib"], "stop", .instanceMethod⟩, .isProtected, .isPrivate, "a.py", 6⟩] := by
  have sorted : sortByLine Call.line laterFirst.calls =
      [⟨["lib"], "private", 4, [literal "wait", literal "run", literal "run"]⟩,
        ⟨["lib"], "private", 6, [literal "run", literal "jump", literal "stop", literal ""]⟩,
        ⟨["lib"], "private_constant", 6, [literal "LIMIT"]⟩] := by
    simp [sortByLine, laterFirst, List.mergeSort]
  have otherSorted : sortByLine Call.line reversed.calls = reversed.calls := by
    simp [sortByLine, reversed, laterFirst, List.mergeSort]
  obtain ⟨failures, after, otherFailures, otherAfter, processed, hides, again, otherProcessed,
    sameRegistry, sameChanges, sameFailures, -⟩ :=
      processUnit_in_any_order ⟨"a.py", Catalog.standard⟩ mixedTable pairsOff_reversed
  refine ⟨pairsOff_reversed, failures, after, otherFailures, otherAfter, processed, hides, again,
    otherProcessed, sameRegistry, sameChanges, sameFailures, ?_, ?_⟩
  case refine_1 =>
    rw [processUnit, sorted] at processed
    rw [processUnit, otherSorted] at otherProcessed
    rintro rfl
    have failedInOrder := congrArg (Except.map Prod.fst) processed
    have failedInOtherOrder := congrArg (Except.map Prod.fst) otherProcessed
    exact absurd (failedInOrder.trans failedInOtherOrder.symm) (by decide +kernel)
  case refine_2 =>
    rw [processUnit, sorted] at processed
    have logged := congrArg (Except.map fun outcome => outcome.2.log?) processed
    exact Except.ok.inj (logged.symm.trans (by decide +kernel))

end Resolver

end Annotations
