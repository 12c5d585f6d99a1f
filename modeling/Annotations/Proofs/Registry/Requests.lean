import Mathlib.Data.List.DropRight
import Annotations.Proofs.ChangeLog

/-!
Contract: what a registry answers, told from the requests it was given.

Only the requests since the last clear count. Of these the first declaration of a
path fixes where its symbol stands, and the last visibility set after that
declaration is the one it has; one set before it was refused.

Owns:
- `TableRequest`, the operations that change a table of symbols, and their
  outcomes for a registry;
- `symbolOf?`, the symbol of a path read off the requests alone;
- `Registry.Reflects`, the agreement of a registry with its requests.

Does not own: the record of changes; see `Annotations.SymbolTable`.
-/

namespace Annotations

inductive TableRequest where
  | declare (declaration : Declaration) (unitId : UnitId)
  | setVisibility (path : Path) (visibility : Visibility) (unitId : UnitId) (line : Line)
  | clear
deriving DecidableEq, Repr

inductive TableAnswer where
  | symbol (symbol : Symbol)
  | visibility (before : Visibility)
  | done
deriving DecidableEq, Repr

namespace TableRequest

def site? (path : Path) : TableRequest → Option Site
  | declare declaration unitId =>
      if declaration.path = path then some ⟨unitId, declaration.line⟩ else none
  | _ => none

def visibility? (path : Path) : TableRequest → Option Visibility
  | setVisibility target visibility _ _ => if target = path then some visibility else none
  | _ => none

def Declares (request : TableRequest) (path : Path) : Prop :=
  ∃ declaration unitId, request = declare declaration unitId ∧ declaration.path = path

theorem site?_eq_none_iff {request : TableRequest} {path : Path} :
    request.site? path = none ↔ ¬ request.Declares path := by
  unfold Declares site?
  cases request <;> simp

theorem site?_eq_some_iff {request : TableRequest} {path : Path} {site : Site} :
    request.site? path = some site ↔
      ∃ declaration unitId, request = declare declaration unitId ∧ declaration.path = path ∧
        site = ⟨unitId, declaration.line⟩ := by
  unfold site?
  cases request <;> simp [eq_comm]

end TableRequest

/-! ## The symbol of a path, read off the requests -/

def sinceClear (requests : List TableRequest) : List TableRequest :=
  requests.rtakeWhile fun request => decide (request ≠ .clear)

theorem sinceClear_append_singleton (requests : List TableRequest) (request : TableRequest) :
    sinceClear (requests ++ [request]) =
      if request = .clear then [] else sinceClear requests ++ [request] := by
  unfold sinceClear
  rw [List.rtakeWhile_concat]
  by_cases cleared : request = .clear <;> simp [cleared]

/-- The visibility that requests give to a path last; public without any. -/
def lastVisibility (path : Path) (requests : List TableRequest) : Visibility :=
  (requests.filterMap (TableRequest.visibility? path)).getLast?.getD .isPublic

/-- The symbol that the first declaration of a path and the requests after it leave. -/
def symbolOf? (path : Path) : List TableRequest → Option Symbol
  | [] => none
  | request :: rest =>
      match request.site? path with
      | some site => some ⟨path, lastVisibility path rest, site.unitId, site.line⟩
      | none => symbolOf? path rest

theorem lastVisibility_append_singleton (path : Path) (requests : List TableRequest)
    (request : TableRequest) :
    lastVisibility path (requests ++ [request]) =
      (request.visibility? path).getD (lastVisibility path requests) := by
  unfold lastVisibility
  rw [List.filterMap_append]
  cases visibility : request.visibility? path with
  | none => simp [visibility]
  | some given => simp [visibility]

/-- One more request gives the symbol another visibility, or declares it, or does neither. -/
theorem symbolOf?_append_singleton (path : Path) (requests : List TableRequest)
    (request : TableRequest) :
    symbolOf? path (requests ++ [request]) =
      ((symbolOf? path requests).map fun symbol =>
          { symbol with visibility := (request.visibility? path).getD symbol.visibility }).or
        ((request.site? path).map fun site => site.newSymbol path) := by
  induction requests with
  | nil =>
      rw [List.nil_append, symbolOf?, symbolOf?]
      cases request.site? path with
      | none => rfl
      | some site => rfl
  | cons first rest inductionHypothesis =>
      rw [List.cons_append, symbolOf?, symbolOf?]
      cases first.site? path with
      | none => exact inductionHypothesis
      | some site => simp [lastVisibility_append_singleton]

theorem symbolOf?_eq_none_iff {path : Path} {requests : List TableRequest} :
    symbolOf? path requests = none ↔ ∀ request ∈ requests, ¬ request.Declares path := by
  induction requests with
  | nil => simp [symbolOf?]
  | cons first rest inductionHypothesis =>
      rw [symbolOf?, List.forall_mem_cons, ← TableRequest.site?_eq_none_iff]
      cases first.site? path with
      | none => simpa using inductionHypothesis
      | some site => simp

/-- A symbol is recalled from the first declaration of its path, and from what follows it. -/
theorem symbolOf?_eq_some_iff {path : Path} {requests : List TableRequest} {symbol : Symbol} :
    symbolOf? path requests = some symbol ↔
      ∃ earlier declaration unitId later,
        requests = earlier ++ .declare declaration unitId :: later ∧
          (∀ request ∈ earlier, ¬ request.Declares path) ∧ declaration.path = path ∧
          symbol = ⟨path, lastVisibility path later, unitId, declaration.line⟩ := by
  constructor
  · intro recalled
    induction requests with
    | nil => contradiction
    | cons first rest inductionHypothesis =>
        rw [symbolOf?] at recalled
        cases declared : first.site? path with
        | none =>
            rw [declared] at recalled
            obtain ⟨earlier, declaration, unitId, later, rfl, none, ofPath, isSymbol⟩ :=
              inductionHypothesis recalled
            refine ⟨first :: earlier, declaration, unitId, later, rfl, ?_, ofPath, isSymbol⟩
            exact List.forall_mem_cons.2 ⟨TableRequest.site?_eq_none_iff.1 declared, none⟩
        | some site =>
            rw [declared] at recalled
            obtain ⟨declaration, unitId, rfl, ofPath, rfl⟩ :=
              TableRequest.site?_eq_some_iff.1 declared
            exact ⟨[], declaration, unitId, rest, rfl, by simp, ofPath,
              (Option.some.inj recalled).symm⟩
  · rintro ⟨earlier, declaration, unitId, later, rfl, none, rfl, rfl⟩
    induction earlier with
    | nil => simp [symbolOf?, TableRequest.site?]
    | cons first rest inductionHypothesis =>
        obtain ⟨notFirst, notRest⟩ := List.forall_mem_cons.1 none
        rw [List.cons_append, symbolOf?, TableRequest.site?_eq_none_iff.2 notFirst]
        exact inductionHypothesis notRest

-- A visibility set too early is lost, and a second declaration moves nothing.
example :
    symbolOf? ⟨["shop"], "Cart", .constant⟩
        [.setVisibility ⟨["shop"], "Cart", .constant⟩ .isPrivate "shop.py" 1,
          .declare ⟨["shop"], "Cart", .constant, 4⟩ "shop.py",
          .declare ⟨["shop"], "Cart", .constant, 2⟩ "other.py"] =
      some ⟨⟨["shop"], "Cart", .constant⟩, .isPublic, "shop.py", 4⟩ := by
  decide

/-! ## Requests on a registry -/

namespace Registry

/-- Answer one request. A refused one leaves the registry as it is. -/
def perform (registry : Registry) : TableRequest → Except UnregisteredPath TableAnswer × Registry
  | .declare declaration unitId =>
      let (symbol, next) := registry.declare declaration unitId
      (.ok (.symbol symbol), next)
  | .setVisibility path visibility _ _ =>
      match registry.setVisibility path visibility with
      | .ok (before, next) => (.ok (.visibility before), next)
      | .error error => (.error error, registry)
  | .clear => (.ok .done, empty)

def ofRequests (requests : List TableRequest) : Registry :=
  requests.foldl (fun registry request => (registry.perform request).2) empty

theorem ofRequests_append_singleton (requests : List TableRequest) (request : TableRequest) :
    ofRequests (requests ++ [request]) = ((ofRequests requests).perform request).2 := by
  unfold ofRequests
  rw [List.foldl_append]
  rfl

theorem setVisibility_of_registered {registry : Registry} {path : Path} {symbol : Symbol}
    (registered : registry.get? path = some symbol) (visibility : Visibility) :
    registry.setVisibility path visibility =
      .ok (symbol.visibility, registry.assign path visibility) := by
  unfold setVisibility
  rw [registered]

theorem setVisibility_of_unregistered {registry : Registry} {path : Path}
    (unregistered : registry.get? path = none) (visibility : Visibility) :
    registry.setVisibility path visibility = .error ⟨path⟩ := by
  unfold setVisibility
  rw [unregistered]

/-- Every path is answered after a request as `symbolOf?` goes on after it. -/
theorem get?_perform (registry : Registry) {request : TableRequest} (keeps : request ≠ .clear)
    (path : Path) :
    (registry.perform request).2.get? path =
      ((registry.get? path).map fun symbol =>
          { symbol with visibility := (request.visibility? path).getD symbol.visibility }).or
        ((request.site? path).map fun site => site.newSymbol path) := by
  cases request with
  | clear => contradiction
  | declare declaration unitId =>
      have declared := get?_declare registry declaration unitId path
      rw [show registry.perform (.declare declaration unitId) =
          (.ok (.symbol (registry.declare declaration unitId).1),
            (registry.declare declaration unitId).2) from rfl, declared]
      by_cases same : declaration.path = path <;>
        simp [TableRequest.visibility?, TableRequest.site?, same]
  | setVisibility target visibility unitId line =>
      rw [show TableRequest.site? path (.setVisibility target visibility unitId line) = none
        from rfl, Option.map_none, Option.or_none, perform]
      cases registered : registry.get? target with
      | none =>
          rw [setVisibility_of_unregistered registered]
          by_cases same : target = path
          · subst same
            simp [registered]
          · simp [TableRequest.visibility?, same]
      | some symbol =>
          rw [setVisibility_of_registered registered]
          show (registry.assign target visibility).get? path = _
          rw [get?_assign]
          by_cases same : target = path
          · simp [TableRequest.visibility?, same]
          · simp [TableRequest.visibility?, same, Ne.symm same]

/-- A registry answers every path from the requests since the last clear. -/
theorem get?_ofRequests (requests : List TableRequest) (path : Path) :
    (ofRequests requests).get? path = symbolOf? path (sinceClear requests) := by
  induction requests using List.reverseRecOn with
  | nil => rfl
  | append_singleton requests request inductionHypothesis =>
      rw [ofRequests_append_singleton, sinceClear_append_singleton]
      by_cases cleared : request = .clear
      · subst cleared
        rfl
      · rw [if_neg cleared, get?_perform _ cleared, inductionHypothesis,
          symbolOf?_append_singleton]

/-! ## Agreement -/

/-- A registry agrees with the requests it was given: what each path answers, what a further change
of visibility is answered with, and what is listed. -/
structure Reflects (registry : Registry) (requests : List TableRequest) : Prop where
  unregistered : ∀ path,
    registry.get? path = none ↔ ∀ request ∈ sinceClear requests, ¬ request.Declares path
  registered : ∀ path symbol, registry.get? path = some symbol ↔
    ∃ earlier declaration unitId later,
      sinceClear requests = earlier ++ .declare declaration unitId :: later ∧
        (∀ request ∈ earlier, ¬ request.Declares path) ∧ declaration.path = path ∧
        symbol = ⟨path, lastVisibility path later, unitId, declaration.line⟩
  answered : ∀ path visibility unitId line symbol, registry.get? path = some symbol →
    (registry.perform (.setVisibility path visibility unitId line)).1 =
      .ok (.visibility symbol.visibility)
  refused : ∀ path visibility unitId line, registry.get? path = none →
    registry.perform (.setVisibility path visibility unitId line) = (.error ⟨path⟩, registry)
  listed : ∀ symbol, symbol ∈ registry.symbols ↔ registry.get? symbol.path = some symbol
  ascending : registry.symbols.Pairwise fun left right => compare left.path right.path = .lt
  determined : ∀ other : Registry, (∀ path, other.get? path = registry.get? path) →
    other.symbols = registry.symbols
  counted : registry.size = registry.symbols.length
  contained : ∀ path, registry.contains path = true ↔ path ∈ registry.symbols.map Symbol.path

/-- No path is listed twice, so the ascending listing ascends strictly. -/
theorem pairwise_symbols (registry : Registry) :
    registry.symbols.Pairwise fun left right => compare left.path right.path = .lt := by
  have ascending := pairwise_mergeSort_compare Symbol.path registry.entries
  have distinct := List.pairwise_map.1 registry.nodup_symbols
  exact (ascending.and distinct).imp fun both => compare_eq_lt_of_ne both.1 both.2

theorem contains_iff {registry : Registry} {path : Path} :
    registry.contains path = true ↔ path ∈ registry.symbols.map Symbol.path := by
  have sameMembers : path ∈ registry.symbols.map Symbol.path ↔
      path ∈ registry.entries.map Symbol.path :=
    ((List.mergeSort_perm _ _).map Symbol.path).mem_iff
  rw [sameMembers, contains, ← not_iff_not, ← get?_eq_none_iff]
  simp

/-- After any declarations, changes of visibility and clears, refused ones included, a registry
shows the first declaration and the last visibility of each path since the last clear. -/
theorem reflects_ofRequests (requests : List TableRequest) :
    (ofRequests requests).Reflects requests := by
  constructor
  case unregistered =>
    intro path
    rw [get?_ofRequests, symbolOf?_eq_none_iff]
  case registered =>
    intro path symbol
    rw [get?_ofRequests, symbolOf?_eq_some_iff]
  case answered =>
    intro path visibility unitId line symbol registered
    rw [perform, setVisibility_of_registered registered]
  case refused =>
    intro path visibility unitId line unregistered
    rw [perform, setVisibility_of_unregistered unregistered]
  case listed => exact fun symbol => mem_symbols_iff
  case ascending => exact pairwise_symbols _
  case determined => exact fun other alike => symbols_eq_of_get?_eq alike
  case counted => exact (List.mergeSort_perm _ _).length_eq.symm
  case contained => exact fun path => contains_iff

end Registry

end Annotations
