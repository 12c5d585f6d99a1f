import Annotations.Proofs.Declaration
import Annotations.Proofs.Parallel.Pool

/-!
Contract: what declaring workers register, in whatever order they step.

A path goes to the worker that comes first, and stays with it. That worker has
passed its earlier declarations by then, and none of them is of the path. So
whoever registers a path registers the first declaration of it in its own unit.

Owns:

- `SymbolTable.HasDeclared`, what the declarations of units leave in some order;
- `DeclaringPool`, which every step preserves;
- `Pool.exists_runOn_declaring`, that all schedules end there.

Does not own:

- registration in the order of the units; see `Annotations.Proofs.Declaration`.
-/

namespace Annotations

/-- Of the units that declare a path one has registered it, at its first declaration there. What was
registered before is as it was. -/
structure SymbolTable.HasDeclared (before : SymbolTable) (units : List SourceUnit)
    (after : SymbolTable) : Prop where
  kept : ∀ path symbol, before.get? path = some symbol → after.get? path = some symbol
  added : ∀ path symbol, before.get? path = none → after.get? path = some symbol →
    ∃ unit ∈ units, ∃ site, firstSite? [unit] path = some site ∧ symbol = site.newSymbol path
  complete : ∀ path, Declares units path → (after.get? path).isSome
  logged : after.log? = before.log?

namespace SymbolTable.HasDeclared

variable {units : List SourceUnit} {declared : SymbolTable} {tracksChanges : Bool} {path : Path}

/-- From an empty table on, a path is registered if one of the units declares it. -/
theorem isSome_site?_iff (hasDeclared : (empty tracksChanges).HasDeclared units declared) :
    (declared.site? path).isSome ↔ Declares units path := by
  rw [site?, Option.isSome_map]
  constructor
  · intro isRegistered
    obtain ⟨symbol, found⟩ := Option.isSome_iff_exists.1 isRegistered
    obtain ⟨unit, isUnit, site, first, -⟩ := hasDeclared.added path symbol rfl found
    obtain ⟨other, isOther, declares⟩ := isSome_firstSite?_iff.1 (Option.isSome_of_eq_some first)
    exact ⟨unit, isUnit, List.mem_singleton.1 isOther ▸ declares⟩
  · exact hasDeclared.complete path

/-- It is registered at its first declaration in a unit. -/
theorem exists_unit_of_site? (hasDeclared : (empty tracksChanges).HasDeclared units declared)
    {site : Site} (sited : declared.site? path = some site) :
    ∃ unit ∈ units, firstSite? [unit] path = some site := by
  obtain ⟨symbol, found, rfl⟩ := Option.map_eq_some_iff.1 sited
  obtain ⟨unit, isUnit, site, first, rfl⟩ := hasDeclared.added path symbol rfl found
  exact ⟨unit, isUnit, first⟩

/-- So the sites tell the table: nothing has changed its visibility yet. -/
theorem get?_eq (hasDeclared : (empty tracksChanges).HasDeclared units declared) (path : Path) :
    declared.get? path = (declared.site? path).map fun site => site.newSymbol path := by
  cases found : declared.get? path with
  | none => rw [site?, found]; rfl
  | some symbol =>
      obtain ⟨unit, -, site, -, rfl⟩ := hasDeclared.added path symbol rfl found
      rw [site?, found]
      rfl

end SymbolTable.HasDeclared

/-- A worker has passed some of its unit's declarations, whose paths are registered, and has the
others before it. -/
def Worker.IsDeclaring (table : SymbolTable) (worker : Worker Unit) (unit : SourceUnit) : Prop :=
  ∃ passed rest, unit.declarations = passed ++ rest ∧
    worker = ofDeclarations unit.unitId rest ∧
    ∀ declaration ∈ passed, (table.get? declaration.path).isSome

/-- The workers of units are declaring, and have registered nothing but first declarations. -/
structure DeclaringPool (start : Shared) (units : List SourceUnit) (pool : Pool Unit) : Prop where
  workers : List.Forall₂ (Worker.IsDeclaring pool.shared.table) pool.workers units
  kept : ∀ path symbol, start.table.get? path = some symbol →
    pool.shared.table.get? path = some symbol
  added : ∀ path symbol, start.table.get? path = none →
    pool.shared.table.get? path = some symbol →
      ∃ unit ∈ units, ∃ site, firstSite? [unit] path = some site ∧ symbol = site.newSymbol path
  logged : pool.shared.table.log? = start.table.log?
  report : pool.shared.report = start.report

theorem Worker.IsDeclaring.mono {table later : SymbolTable} {worker : Worker Unit}
    {unit : SourceUnit} (isDeclaring : worker.IsDeclaring table unit)
    (kept : ∀ path, (table.get? path).isSome → (later.get? path).isSome) :
    worker.IsDeclaring later unit := by
  obtain ⟨passed, rest, split, isWorker, registered⟩ := isDeclaring
  exact ⟨passed, rest, split, isWorker, fun declaration isPassed =>
    kept _ (registered declaration isPassed)⟩

theorem SymbolTable.isSome_get?_declare {table : SymbolTable} {path : Path}
    (isOld : (table.get? path).isSome) (declaration : Declaration) (unitId : UnitId) :
    ((table.declare declaration unitId).2.get? path).isSome := by
  rw [get?_declare, Option.isSome_or, isOld]
  rfl

theorem SymbolTable.isSome_get?_declare_self (table : SymbolTable) (declaration : Declaration)
    (unitId : UnitId) : ((table.declare declaration unitId).2.get? declaration.path).isSome := by
  rw [get?_declare, if_pos rfl, Option.isSome_or]
  exact Bool.or_true _

/-- A worker passes a declaration by registering it. -/
theorem Worker.isDeclaring_declare {table : SymbolTable} {unit : SourceUnit}
    {passed rest : List Declaration} {declaration : Declaration}
    (split : unit.declarations = passed ++ declaration :: rest)
    (registered : ∀ earlier ∈ passed, (table.get? earlier.path).isSome) :
    IsDeclaring (table.declare declaration unit.unitId).2 (ofDeclarations unit.unitId rest)
      unit := by
  refine ⟨passed ++ [declaration], rest, by simpa using split, rfl, ?_⟩
  intro earlier isPassed
  rcases List.mem_append.1 isPassed with isEarlier | isLast
  · exact SymbolTable.isSome_get?_declare (registered earlier isEarlier) _ _
  · rw [List.mem_singleton.1 isLast]
    exact table.isSome_get?_declare_self declaration _

/-- A declaration is the first of its path if the paths before it are registered and its own is
not. -/
theorem firstSite?_of_passed {table : SymbolTable} {unit : SourceUnit}
    {passed rest : List Declaration} {declaration : Declaration}
    (split : unit.declarations = passed ++ declaration :: rest)
    (registered : ∀ earlier ∈ passed, (table.get? earlier.path).isSome)
    (isNew : table.get? declaration.path = none) :
    firstSite? [unit] declaration.path = some ⟨unit.unitId, declaration.line⟩ := by
  have notPassed :
      passed.find? (fun earlier => decide (earlier.path = declaration.path)) = none := by
    rw [List.find?_eq_none]
    intro earlier isPassed samePath
    have isOld := registered earlier isPassed
    rw [of_decide_eq_true samePath, isNew] at isOld
    contradiction
  rw [firstSite?_singleton, split, List.find?_append, notPassed, Option.none_or,
    List.find?_cons, decide_eq_true rfl]
  rfl

namespace DeclaringPool

variable {start : Shared} {units : List SourceUnit} {pool : Pool Unit}

theorem step (declaring : DeclaringPool start units pool) (position : Nat) :
    DeclaringPool start units (pool.step position) := by
  cases found : pool.workers[position]? with
  | none => rwa [Pool.step_of_none found]
  | some worker =>
      obtain ⟨unit, isUnit, ⟨passed, rest, split, rfl, registered⟩, -⟩ :=
        exists_of_forall₂ declaring.workers found
      rw [Pool.step_of_worker found]
      cases rest with
      | nil =>
          -- The worker is finished, and its turn is idle.
          rw [Worker.ofDeclarations] at found
          rw [Worker.ofDeclarations, Worker.step, Pool.set_eq_self found]
          exact declaring
      | cons declaration rest =>
          have answer := pool.shared.table.get?_declare declaration unit.unitId
          obtain ⟨other, isOther, -, replace⟩ := exists_of_forall₂ (declaring.workers.imp
            fun _ _ pair => pair.mono fun path isOld =>
              SymbolTable.isSome_get?_declare isOld declaration unit.unitId) found
          obtain rfl := Option.some.inj (isUnit.symm.trans isOther)
          constructor
          case workers =>
            have replaced := replace _ _ (Worker.isDeclaring_declare split registered)
            rw [Pool.set_eq_self isUnit] at replaced
            exact replaced
          case kept =>
            intro path symbol isOld
            change (pool.shared.table.declare declaration unit.unitId).2.get? path = _
            rw [answer, declaring.kept path symbol isOld, Option.some_or]
          case added =>
            intro path symbol isNew found
            change (pool.shared.table.declare declaration unit.unitId).2.get? path = _ at found
            rw [answer] at found
            cases before : pool.shared.table.get? path with
            | some other =>
                rw [before, Option.some_or] at found
                obtain rfl := Option.some.inj found
                exact declaring.added path other isNew before
            | none =>
                rw [before, Option.none_or] at found
                obtain ⟨rfl, isSymbol⟩ := Option.ite_none_right_eq_some.1 found
                obtain rfl := Option.some.inj isSymbol
                exact ⟨unit, List.mem_of_getElem? isUnit, _,
                  firstSite?_of_passed split registered before, rfl⟩
          case logged => exact declaring.logged
          case report => exact declaring.report

theorem execute (declaring : DeclaringPool start units pool) (schedule : List Nat) :
    DeclaringPool start units (pool.execute schedule) := by
  induction schedule generalizing pool with
  | nil => exact declaring
  | cons position rest inductionHypothesis => exact inductionHypothesis (declaring.step position)

/-- Workers that are finished have passed all declarations, and none has failed. -/
theorem of_finished {outcomes : List (Except RunError Unit)} {shared : Shared}
    (declaring : DeclaringPool start units ⟨shared, outcomes.map .finished⟩) :
    outcomes.mapM id = .ok (units.map fun _ => ()) ∧
      start.table.HasDeclared units shared.table ∧ shared.report = start.report := by
  have passedAll : List.Forall₂ (fun outcome unit => outcome = .ok () ∧
      ∀ declaration ∈ unit.declarations, (shared.table.get? declaration.path).isSome)
      outcomes units := by
    refine (List.forall₂_map_left_iff.1 declaring.workers).imp ?_
    rintro outcome unit ⟨passed, rest, split, isWorker, registered⟩
    cases rest with
    | nil =>
        rw [split, List.append_nil]
        exact ⟨Worker.finished.inj isWorker, registered⟩
    | cons declaration rest => contradiction
  have allPassed : outcomes.mapM id = .ok (units.map fun _ => ()) ∧
      ∀ unit ∈ units, ∀ declaration ∈ unit.declarations,
        (shared.table.get? declaration.path).isSome := by
    clear declaring
    induction passedAll with
    | nil => exact ⟨rfl, nofun⟩
    | cons first later inductionHypothesis =>
        obtain ⟨succeed, registered⟩ := inductionHypothesis
        refine ⟨?_, List.forall_mem_cons.2 ⟨first.2, registered⟩⟩
        rw [List.mapM_cons, first.1, succeed]
        rfl
  refine ⟨allPassed.1, ⟨declaring.kept, declaring.added, ?_, declaring.logged⟩, declaring.report⟩
  rintro _ ⟨unit, isUnit, declaration, isDeclaration, rfl⟩
  exact allPassed.2 unit isUnit declaration isDeclaration

end DeclaringPool

/-- Before their first access the workers have passed nothing. -/
theorem declaringPool_start (shared : Shared) (units : List SourceUnit) :
    DeclaringPool shared units ⟨shared, units.map Worker.declaring⟩ where
  workers := by
    rw [List.forall₂_map_left_iff, List.forall₂_same]
    intro unit _
    exact ⟨[], unit.declarations, rfl, rfl, nofun⟩
  kept := fun _ _ isOld => isOld
  added := by
    intro path symbol isNew found
    rw [isNew] at found
    contradiction
  logged := rfl
  report := rfl

/-- On any threads and in any turns all workers finish, and have declared what their units declare.
-/
theorem Pool.exists_runOn_declaring (threads : Int) (turns : List Nat) (shared : Shared)
    (units : List SourceUnit) :
    ∃ table, Pool.runOn threads turns ⟨shared, units.map Worker.declaring⟩ =
        (.ok (units.map fun _ => ()), ⟨table, shared.report⟩) ∧
      shared.table.HasDeclared units table := by
  obtain ⟨schedule, outcomes, after, ran, executed⟩ :=
    exists_runOn threads turns ⟨shared, units.map Worker.declaring⟩
  have declaring := (declaringPool_start shared units).execute schedule
  rw [executed] at declaring
  obtain ⟨succeed, hasDeclared, sameReport⟩ := declaring.of_finished
  refine ⟨after.table, ?_, hasDeclared⟩
  rw [ran, succeed, ← sameReport]

end Annotations
