import Annotations.Proofs.Registry.Requests

/-!
Contract: a table that records changes, beside a registry without records.

Recording changes no answer. What is recorded can be told from the requests: a
visibility that was set is recorded if the path was registered and had another
one. Hence the records of a path lead, one after the other, from public to the
visibility the path has, and after a clear they start anew.

Owns:
- `TableOperation`, requests and questions, and the replies of registries and
  tables;
- `changesOf`, the records read off the requests;
- `SymbolTable.IsTraced`, the agreement of a table's records with its requests.

Does not own: what the replies of a registry are; see
`Annotations.Proofs.Registry.Requests`.
-/

namespace Annotations

/-! ## Operations and replies -/

/-- A request to a table, or a question that leaves it as it is. -/
inductive TableOperation where
  | request (request : TableRequest)
  | get (path : Path)
  | symbols
deriving DecidableEq, Repr

inductive TableReply where
  | outcome (outcome : Except UnregisteredPath TableAnswer)
  | found (symbol? : Option Symbol)
  | listing (symbols : List Symbol)

def TableOperation.request? : TableOperation → Option TableRequest
  | request made => some made
  | get _ | symbols => none

def requestsOf (operations : List TableOperation) : List TableRequest :=
  operations.filterMap TableOperation.request?

namespace Registry

def operate (registry : Registry) : TableOperation → TableReply × Registry
  | .request request =>
      let (outcome, next) := registry.perform request
      (.outcome outcome, next)
  | .get path => (.found (registry.get? path), registry)
  | .symbols => (.listing registry.symbols, registry)

def operateAll (registry : Registry) : List TableOperation → List TableReply × Registry
  | [] => ([], registry)
  | operation :: rest =>
      let (reply, next) := registry.operate operation
      let (replies, final) := next.operateAll rest
      (reply :: replies, final)

end Registry

namespace SymbolTable

/-- Answer one request. A refused one leaves the table as it is. -/
def perform (table : SymbolTable) : TableRequest → Except UnregisteredPath TableAnswer × SymbolTable
  | .declare declaration unitId =>
      let (symbol, next) := table.declare declaration unitId
      (.ok (.symbol symbol), next)
  | .setVisibility path visibility unitId line =>
      match table.setVisibility path visibility unitId line with
      | .ok (before, next) => (.ok (.visibility before), next)
      | .error error => (.error error, table)
  | .clear => (.ok .done, table.clear)

def operate (table : SymbolTable) : TableOperation → TableReply × SymbolTable
  | .request request =>
      let (outcome, next) := table.perform request
      (.outcome outcome, next)
  | .get path => (.found (table.get? path), table)
  | .symbols => (.listing table.symbols, table)

def operateAll (table : SymbolTable) : List TableOperation → List TableReply × SymbolTable
  | [] => ([], table)
  | operation :: rest =>
      let (reply, next) := table.operate operation
      let (replies, final) := next.operateAll rest
      (reply :: replies, final)

/-! ## Replies do not depend on records -/

theorem setVisibility_of_unregistered {table : SymbolTable} {path : Path}
    (unregistered : table.get? path = none) (visibility : Visibility) (unitId : UnitId)
    (line : Line) : table.setVisibility path visibility unitId line = .error ⟨path⟩ := by
  unfold setVisibility
  rw [Registry.setVisibility_of_unregistered unregistered]
  rfl

theorem setVisibility_of_registered {table : SymbolTable} {path : Path} {symbol : Symbol}
    (registered : table.get? path = some symbol) (visibility : Visibility) (unitId : UnitId)
    (line : Line) :
    table.setVisibility path visibility unitId line =
      .ok (symbol.visibility, ⟨table.registry.assign path visibility,
        if symbol.visibility = visibility then table.log?
        else table.log?.map (· ++ [⟨path, symbol.visibility, visibility, unitId, line⟩])⟩) := by
  unfold setVisibility
  rw [Registry.setVisibility_of_registered registered]
  rfl

/-- A table answers a request as its registry does, which is then the registry after it. -/
theorem perform_eq_registry (table : SymbolTable) (request : TableRequest) :
    (table.perform request).1 = (table.registry.perform request).1 ∧
      (table.perform request).2.registry = (table.registry.perform request).2 := by
  cases request with
  | declare declaration unitId => exact ⟨rfl, rfl⟩
  | clear => exact ⟨rfl, rfl⟩
  | setVisibility path visibility unitId line =>
      rw [perform, Registry.perform]
      cases found : table.registry.get? path with
      | none =>
          rw [setVisibility_of_unregistered found, Registry.setVisibility_of_unregistered found]
          exact ⟨rfl, rfl⟩
      | some symbol =>
          rw [setVisibility_of_registered found, Registry.setVisibility_of_registered found]
          exact ⟨rfl, rfl⟩

theorem operate_eq_registry (table : SymbolTable) (operation : TableOperation) :
    (table.operate operation).1 = (table.registry.operate operation).1 ∧
      (table.operate operation).2.registry = (table.registry.operate operation).2 := by
  cases operation with
  | request request =>
      obtain ⟨sameOutcome, sameRegistry⟩ := table.perform_eq_registry request
      exact ⟨congrArg TableReply.outcome sameOutcome, sameRegistry⟩
  | get path => exact ⟨rfl, rfl⟩
  | symbols => exact ⟨rfl, rfl⟩

theorem replies_eq_registry (table : SymbolTable) (operations : List TableOperation) :
    (table.operateAll operations).1 = (table.registry.operateAll operations).1 := by
  induction operations generalizing table with
  | nil => rfl
  | cons operation rest inductionHypothesis =>
      obtain ⟨sameReply, sameRegistry⟩ := table.operate_eq_registry operation
      have sameRest := inductionHypothesis (table.operate operation).2
      rw [sameRegistry] at sameRest
      rw [operateAll, Registry.operateAll]
      exact congrArg₂ List.cons sameReply sameRest

def afterRequests (table : SymbolTable) (requests : List TableRequest) : SymbolTable :=
  requests.foldl (fun table request => (table.perform request).2) table

/-- Questions leave no trace. -/
theorem snd_operateAll (table : SymbolTable) (operations : List TableOperation) :
    (table.operateAll operations).2 = table.afterRequests (requestsOf operations) := by
  induction operations generalizing table with
  | nil => rfl
  | cons operation rest inductionHypothesis =>
      rw [operateAll]
      refine (inductionHypothesis (table.operate operation).2).trans ?_
      cases operation <;> rfl

theorem afterRequests_append_singleton (table : SymbolTable) (requests : List TableRequest)
    (request : TableRequest) :
    table.afterRequests (requests ++ [request]) =
      ((table.afterRequests requests).perform request).2 := by
  unfold afterRequests
  rw [List.foldl_append]
  rfl

theorem registry_afterRequests (tracksChanges : Bool) (requests : List TableRequest) :
    ((empty tracksChanges).afterRequests requests).registry = Registry.ofRequests requests := by
  induction requests using List.reverseRecOn with
  | nil => rfl
  | append_singleton requests request inductionHypothesis =>
      rw [afterRequests_append_singleton, (perform_eq_registry _ request).2, inductionHypothesis,
        Registry.ofRequests_append_singleton]

end SymbolTable

/-! ## Records, read off the requests -/

/-- The record of a request where paths have these symbols: a change of visibility of a registered
path. -/
def TableRequest.change? (symbolAt : Path → Option Symbol) : TableRequest → Option Change
  | setVisibility path visibility unitId line =>
      ((symbolAt path).filter fun symbol => symbol.visibility ≠ visibility).map fun symbol =>
        ⟨path, symbol.visibility, visibility, unitId, line⟩
  | _ => none

def changesAfter (earlier : List TableRequest) : List TableRequest → List Change
  | [] => []
  | request :: rest =>
      (request.change? fun path => symbolOf? path earlier).toList ++
        changesAfter (earlier ++ [request]) rest

def changesOf (requests : List TableRequest) : List Change :=
  changesAfter [] (sinceClear requests)

-- A visibility set too early, or again, leaves no record.
example :
    changesOf
        [.setVisibility ⟨["shop"], "Cart", .constant⟩ .isPrivate "shop.py" 1,
          .declare ⟨["shop"], "Cart", .constant, 4⟩ "shop.py",
          .setVisibility ⟨["shop"], "Cart", .constant⟩ .isPrivate "shop.py" 9,
          .setVisibility ⟨["shop"], "Cart", .constant⟩ .isPrivate "other.py" 2,
          .setVisibility ⟨["shop"], "Cart", .constant⟩ .isPublic "shop.py" 5] =
      [⟨⟨["shop"], "Cart", .constant⟩, .isPublic, .isPrivate, "shop.py", 9⟩,
        ⟨⟨["shop"], "Cart", .constant⟩, .isPrivate, .isPublic, "shop.py", 5⟩] := by
  decide

theorem changesAfter_append_singleton (earlier requests : List TableRequest)
    (request : TableRequest) :
    changesAfter earlier (requests ++ [request]) =
      changesAfter earlier requests ++
        (request.change? fun path => symbolOf? path (earlier ++ requests)).toList := by
  induction requests generalizing earlier with
  | nil => simp [changesAfter]
  | cons first rest inductionHypothesis =>
      rw [List.cons_append, changesAfter, inductionHypothesis, changesAfter, List.append_assoc,
        List.append_assoc, List.singleton_append]

theorem SymbolTable.log?_perform (table : SymbolTable) {request : TableRequest}
    (keeps : request ≠ .clear) :
    (table.perform request).2.log? =
      table.log?.map (· ++ (request.change? table.get?).toList) := by
  cases request with
  | clear => contradiction
  | declare declaration unitId => simp [perform, declare, TableRequest.change?]
  | setVisibility path visibility unitId line =>
      rw [perform, TableRequest.change?]
      cases found : table.get? path with
      | none =>
          rw [setVisibility_of_unregistered found]
          simp
      | some symbol =>
          rw [setVisibility_of_registered found]
          by_cases same : symbol.visibility = visibility
          · simp [same, Option.filter_some]
          · simp [same, Option.filter_some]

/-- A table that records changes has those of its requests recorded. -/
theorem SymbolTable.log?_afterRequests (requests : List TableRequest) :
    ((empty true).afterRequests requests).log? = some (changesOf requests) := by
  induction requests using List.reverseRecOn with
  | nil => rfl
  | append_singleton requests request inductionHypothesis =>
      rw [afterRequests_append_singleton, changesOf, sinceClear_append_singleton]
      by_cases cleared : request = .clear
      · subst cleared
        rw [if_pos rfl, perform, clear, inductionHypothesis]
        rfl
      · have symbols : ((empty true).afterRequests requests).get? =
            fun path => symbolOf? path (sinceClear requests) := by
          funext path
          rw [get?, registry_afterRequests, Registry.get?_ofRequests]
        rw [if_neg cleared, log?_perform _ cleared, inductionHypothesis, symbols,
          changesAfter_append_singleton]
        rfl

/-! ## The chain of a path -/

/-- Changes lead from one visibility to another: each has an effect, and starts where the one before
it ended. -/
def Leads (start : Visibility) : List Change → Visibility → Prop
  | [], final => start = final
  | change :: rest, final =>
      change.before = start ∧ change.before ≠ change.after ∧ Leads change.after rest final

theorem Leads.append_singleton {start : Visibility} {changes : List Change} {change : Change}
    (leads : Leads start changes change.before) (effective : change.before ≠ change.after) :
    Leads start (changes ++ [change]) change.after := by
  induction changes generalizing start with
  | nil => exact ⟨leads.symm, effective, rfl⟩
  | cons first rest inductionHypothesis =>
      obtain ⟨starts, firstEffective, leadsOn⟩ := leads
      exact ⟨starts, firstEffective, inductionHypothesis leadsOn⟩

/-- The visibility of a path that may have a symbol; one without is to be declared public. -/
def visibilityOf (symbol? : Option Symbol) : Visibility :=
  (symbol?.map Symbol.visibility).getD .isPublic

/-- A request changes the visibility of a path by the record it leaves, if any. -/
theorem leads_change? {symbolAt : Path → Option Symbol} {request : TableRequest} {path : Path}
    {changes : List Change} {start : Visibility}
    (leads : Leads start changes (visibilityOf (symbolAt path))) :
    Leads start
      (changes ++ (request.change? symbolAt).toList.filter fun change => change.path = path)
      (visibilityOf (((symbolAt path).map fun symbol =>
          { symbol with visibility := (request.visibility? path).getD symbol.visibility }).or
        ((request.site? path).map fun site => site.newSymbol path))) := by
  cases request with
  | clear => simpa [TableRequest.change?, TableRequest.visibility?, TableRequest.site?] using leads
  | declare declaration unitId =>
      cases found : symbolAt path with
      | none =>
          rw [found] at leads
          by_cases same : declaration.path = path <;>
            simpa [TableRequest.change?, TableRequest.site?, same, visibilityOf, Site.newSymbol]
              using leads
      | some symbol =>
          rw [found] at leads
          simpa [TableRequest.change?, TableRequest.visibility?, TableRequest.site?] using leads
  | setVisibility target visibility unitId line =>
      -- Only a registered path that has another visibility gets a record, and it alone moves.
      simp only [TableRequest.site?, Option.map_none, Option.or_none]
      by_cases same : target = path
      · subst same
        cases found : symbolAt target with
        | none =>
            rw [found] at leads
            simpa [TableRequest.change?, found] using leads
        | some symbol =>
            rw [found] at leads
            by_cases noEffect : symbol.visibility = visibility
            · simpa [TableRequest.change?, TableRequest.visibility?, found, noEffect, visibilityOf,
                Option.filter_some] using leads
            · have recorded : Leads start
                  (changes ++ [⟨target, symbol.visibility, visibility, unitId, line⟩]) visibility :=
                Leads.append_singleton leads noEffect
              simpa [TableRequest.change?, TableRequest.visibility?, found, noEffect, visibilityOf,
                Option.filter_some] using recorded
      · have ofOther : ((TableRequest.setVisibility target visibility unitId line).change?
            symbolAt).toList.filter (fun change => change.path = path) = [] := by
          rw [List.filter_eq_nil_iff]
          intro change isRecord
          rw [Option.mem_toList, TableRequest.change?] at isRecord
          obtain ⟨symbol, -, rfl⟩ := Option.map_eq_some_iff.1 isRecord
          simpa using same
        rw [ofOther, List.append_nil]
        simpa [TableRequest.visibility?, same] using leads

theorem leads_changesAfter (requests : List TableRequest) (path : Path) :
    Leads .isPublic ((changesAfter [] requests).filter fun change => change.path = path)
      (visibilityOf (symbolOf? path requests)) := by
  induction requests using List.reverseRecOn with
  | nil => exact rfl
  | append_singleton requests request inductionHypothesis =>
      -- The last request is taken off, as its record depends on the symbols of all before it.
      rw [changesAfter_append_singleton, List.filter_append, symbolOf?_append_singleton,
        List.nil_append]
      exact leads_change? inductionHypothesis

/-! ## Agreement -/

/-- The records of a table are those of its requests since the last clear: one for each visibility
that was set on a registered path and had an effect. Those of a path lead from public to the
visibility it has, and all are listed by unit, line and path. -/
structure SymbolTable.IsTraced (table : SymbolTable) (requests : List TableRequest) : Prop where
  recorded : table.log? = some (changesOf requests)
  chained : ∀ path, Leads .isPublic
    ((changesOf requests).filter fun change => change.path = path) (visibilityOf (table.get? path))
  listed : IsStableSort Change.compareBySite (changesOf requests) table.changes

theorem SymbolTable.isTraced_afterRequests (requests : List TableRequest) :
    ((empty true).afterRequests requests).IsTraced requests := by
  constructor
  case recorded => exact log?_afterRequests requests
  case chained =>
    intro path
    rw [get?, registry_afterRequests, Registry.get?_ofRequests]
    exact leads_changesAfter (sinceClear requests) path
  case listed =>
    unfold changes
    rw [log?_afterRequests]
    exact isStableSort_mergeSort Change.compareBySite _

/-- Whatever requests and questions it is given, a table that records changes replies as a registry
without records does, refusals included, and its records are a trace of the requests. -/
theorem SymbolTable.traced_beside_registry (operations : List TableOperation) :
    ((empty true).operateAll operations).1 = (Registry.empty.operateAll operations).1 ∧
      ((empty true).operateAll operations).2.IsTraced (requestsOf operations) := by
  refine ⟨replies_eq_registry (empty true) operations, ?_⟩
  rw [snd_operateAll]
  exact isTraced_afterRequests (requestsOf operations)

end Annotations
