import Annotations.Source.Reader

/-!
Contract: where declarations and calls begin.

A unit holds lines only. The walk over its tree is told here with the place at
which each thing it finds begins, so that what stands on one line can still be
told apart.

Owns:
- `PlacedFindings`, and `placedWalk` with `placedWalk_places`;
- `declarations_ofTree`, the declarations of a unit without their places.

Does not own: which of the declared symbols directives reach; see
`Annotations.Proofs.OwnSymbols`.
-/

namespace Annotations.Source

/-! ## Findings with their places -/

/-- What a walk finds, and where each of it begins. -/
structure PlacedFindings where
  declarations : List (Declaration × Position)
  calls : List (Call × Position)
deriving DecidableEq, Repr

namespace PlacedFindings

def empty : PlacedFindings := ⟨[], []⟩

def append (left right : PlacedFindings) : PlacedFindings :=
  ⟨left.declarations ++ right.declarations, left.calls ++ right.calls⟩

def allAt (start : Position) (found : Findings) : PlacedFindings :=
  ⟨found.declarations.map (·, start), found.calls.map (·, start)⟩

/-- The first declaration of a path, and where it begins. -/
def first? (placed : PlacedFindings) (path : Path) : Option (Declaration × Position) :=
  placed.declarations.find? fun entry => decide (entry.1.path = path)

end PlacedFindings

def Position.Precedes (position other : Position) : Prop :=
  position.row < other.row ∨ position.row = other.row ∧ position.column < other.column

instance (position other : Position) : Decidable (position.Precedes other) :=
  inferInstanceAs (Decidable (_ ∨ _))

def placedConstants (scope : Namespace) (targets : List Node) : List (Declaration × Position) :=
  (targets.filter fun target => isConstantName target.text).map fun target =>
    (⟨scope, target.text, .constant, target.line⟩, target.start)

def placedExpression (scope : Namespace) (node : Node) : PlacedFindings :=
  match node.kind with
  | .assignment => ⟨placedConstants scope (assignmentTargets node), []⟩
  | .call => ⟨[], [(callOf scope node, node.start)]⟩
  | _ => .empty

def placedStatement (scope : Namespace) (children : List Node) : PlacedFindings :=
  children.foldr (fun child placed => (placedExpression scope child).append placed) .empty

/-- What the definition of a class adds: the class where its definition begins, and its body. -/
def placedClass (scope : Namespace) (start : Position) (name? : Option String)
    (body : PlacedFindings) : PlacedFindings :=
  match name? with
  | some name =>
      (PlacedFindings.allAt start
        (.declaration ⟨scope, name, .constant, start.row + 1⟩)).append body
  | none => .empty

mutual

def placedVisit (scope : Namespace) (inClass : Bool) : Node → PlacedFindings
  | ⟨kind, _, start, _, children⟩ =>
      match kind with
      | .classDefinition =>
          let name? := nameOf? children
          placedClass scope start name? (placedBody (scope ++ name?.toList) children)
      | .functionDefinition => .allAt start (functionFindings scope inClass [] start children)
      | .decoratedDefinition =>
          placedDecorated scope inClass (decoratorTexts children) children
      | .expressionStatement => placedStatement scope children
      | kind => if kind.isContainer then placedWalk scope inClass children else .empty

def placedWalk (scope : Namespace) (inClass : Bool) : List Node → PlacedFindings
  | [] => .empty
  | node :: rest => (placedVisit scope inClass node).append (placedWalk scope inClass rest)

def placedBody (scope : Namespace) : List Node → PlacedFindings
  | [] => .empty
  | ⟨_, role, _, _, children⟩ :: rest =>
      if role = some .body then placedWalk scope true children else placedBody scope rest

def placedDecorated (scope : Namespace) (inClass : Bool) (decorators : List String) :
    List Node → PlacedFindings
  | [] => .empty
  | ⟨kind, role, start, _, children⟩ :: rest =>
      if role = some .definition then
        match kind with
        | .classDefinition =>
            let name? := nameOf? children
            placedClass scope start name? (placedBody (scope ++ name?.toList) children)
        | .functionDefinition =>
            .allAt start (functionFindings scope inClass decorators start children)
        | _ => .empty
      else placedDecorated scope inClass decorators rest

end

/-- What a tree contributes to the unit of a module, with its places. -/
def placedFindings (root : Node) (moduleName : String) : PlacedFindings :=
  placedWalk (Namespace.ofModule moduleName) false root.children

/-! ## Agreement with the walk -/

/-- The places belong to findings: without them the same things are found, in the same order, and
every line is that of the place. -/
structure PlacedFindings.Places (placed : PlacedFindings) (found : Findings) : Prop where
  declarations : placed.declarations.map Prod.fst = found.declarations
  calls : placed.calls.map Prod.fst = found.calls
  declarationLines : ∀ entry ∈ placed.declarations, entry.1.line = entry.2.row + 1
  callLines : ∀ entry ∈ placed.calls, entry.1.line = entry.2.row + 1

namespace PlacedFindings.Places

theorem empty : PlacedFindings.empty.Places Findings.empty where
  declarations := rfl
  calls := rfl
  declarationLines := by simp [PlacedFindings.empty]
  callLines := by simp [PlacedFindings.empty]

theorem append {left right : PlacedFindings} {first second : Findings}
    (places : left.Places first) (more : right.Places second) :
    (left.append right).Places (first.append second) where
  declarations := by
    simp only [PlacedFindings.append, Findings.append, List.map_append, places.declarations,
      more.declarations]
  calls := by
    simp only [PlacedFindings.append, Findings.append, List.map_append, places.calls, more.calls]
  declarationLines := fun entry isFound =>
    (List.mem_append.1 isFound).elim (places.declarationLines entry) (more.declarationLines entry)
  callLines := fun entry isFound =>
    (List.mem_append.1 isFound).elim (places.callLines entry) (more.callLines entry)

theorem declarationAt {found : Declaration} {start : Position}
    (onRow : found.line = start.row + 1) :
    (PlacedFindings.allAt start (.declaration found)).Places (.declaration found) where
  declarations := rfl
  calls := rfl
  declarationLines := by
    intro entry isFound
    obtain rfl := List.mem_singleton.1 isFound
    exact onRow
  callLines := by simp [allAt, Findings.declaration]

end PlacedFindings.Places

open PlacedFindings (Places)

theorem placedExpression_places (scope : Namespace) (node : Node) :
    (placedExpression scope node).Places (expressionFindings scope node) := by
  obtain ⟨kind, role, start, text, children⟩ := node
  cases kind
  case assignment =>
    constructor
    case declarations =>
      simp [placedExpression, expressionFindings, placedConstants, constantsOf, Function.comp_def]
    case calls => rfl
    case declarationLines =>
      intro entry isFound
      obtain ⟨target, -, rfl⟩ := List.mem_map.1 isFound
      rfl
    case callLines => simp [placedExpression]
  case call =>
    constructor
    case declarations => rfl
    case calls => rfl
    case declarationLines => simp [placedExpression]
    case callLines =>
      intro entry isFound
      obtain rfl := List.mem_singleton.1 isFound
      rfl
  all_goals exact .empty

theorem placedStatement_places (scope : Namespace) (children : List Node) :
    (placedStatement scope children).Places (statementFindings scope children) := by
  induction children with
  | nil => exact .empty
  | cons child rest inductionHypothesis =>
      exact (placedExpression_places scope child).append inductionHypothesis

theorem allAt_functionFindings_places (scope : Namespace) (inClass : Bool)
    (decorators : List String) (start : Position) (children : List Node) :
    (PlacedFindings.allAt start (functionFindings scope inClass decorators start children)).Places
      (functionFindings scope inClass decorators start children) := by
  unfold functionFindings
  split
  · exact .declarationAt rfl
  · exact .empty

theorem placedClass_places (scope : Namespace) (start : Position) (name? : Option String)
    {placed : PlacedFindings} {body : Findings} (places : placed.Places body) :
    (placedClass scope start name? placed).Places (classFindings scope start name? body) := by
  unfold placedClass classFindings
  split
  · exact (Places.declarationAt rfl).append places
  · exact .empty

mutual

theorem placedVisit_places (scope : Namespace) (inClass : Bool) :
    ∀ node : Node, (placedVisit scope inClass node).Places (visit scope inClass node)
  | ⟨kind, role, start, text, children⟩ => by
      unfold placedVisit visit
      cases kind
      case classDefinition => exact placedClass_places scope start _ (placedBody_places _ children)
      case functionDefinition => exact allAt_functionFindings_places scope inClass [] start children
      case decoratedDefinition => exact placedDecorated_places scope inClass _ children
      case expressionStatement => exact placedStatement_places scope children
      case block => exact placedWalk_places scope inClass children
      case statement => exact placedWalk_places scope inClass children
      case clause => exact placedWalk_places scope inClass children
      all_goals exact .empty

/-- Without its places the placed walk is the walk. -/
theorem placedWalk_places (scope : Namespace) (inClass : Bool) :
    ∀ nodes : List Node, (placedWalk scope inClass nodes).Places (walk scope inClass nodes)
  | [] => by
      rw [placedWalk, walk]
      exact .empty
  | node :: rest => by
      rw [placedWalk, walk]
      exact (placedVisit_places scope inClass node).append (placedWalk_places scope inClass rest)

theorem placedBody_places (scope : Namespace) :
    ∀ nodes : List Node, (placedBody scope nodes).Places (walkBody scope nodes)
  | [] => by
      rw [placedBody, walkBody]
      exact .empty
  | ⟨kind, role, start, text, children⟩ :: rest => by
      rw [placedBody, walkBody]
      split
      · exact placedWalk_places scope true children
      · exact placedBody_places scope rest

theorem placedDecorated_places (scope : Namespace) (inClass : Bool) (decorators : List String) :
    ∀ nodes : List Node,
      (placedDecorated scope inClass decorators nodes).Places
        (decorated scope inClass decorators nodes)
  | [] => by
      rw [placedDecorated, decorated]
      exact .empty
  | ⟨kind, role, start, text, children⟩ :: rest => by
      unfold placedDecorated decorated
      split
      · cases kind
        case classDefinition =>
          exact placedClass_places scope start _ (placedBody_places _ children)
        case functionDefinition =>
          exact allAt_functionFindings_places scope inClass decorators start children
        all_goals exact .empty
      · exact placedDecorated_places scope inClass decorators rest

end

theorem placedFindings_places (root : Node) (moduleName : String) :
    (placedFindings root moduleName).Places
      (walk (Namespace.ofModule moduleName) false root.children) :=
  placedWalk_places (Namespace.ofModule moduleName) false root.children

theorem declarations_ofTree (source : List Char) (root : Node) (unitId : UnitId)
    (moduleName : String) :
    (SourceUnit.ofTree source root unitId moduleName).declarations =
      (placedFindings root moduleName).declarations.map Prod.fst :=
  (placedFindings_places root moduleName).declarations.symm

end Annotations.Source
