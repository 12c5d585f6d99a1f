import Annotations.Source.Reader

/-!
Contract: the namespaces of what a walk finds.

A walk enters a namespace only through the body of a class, and it declares the
class before it reads the body. So every namespace it finds something in leads
from that of the unit through classes that stand in each other, and each of them
is declared before anything in its body is. A method on the class is told by its
decorators inside a class body only, so it never stands in the unit's own
namespace.

Owns:
- `ClassChain`, classes that stand in each other, through blocks and clauses;
- `Findings.IsNested` and `isNested_walk`;
- `SourceUnit.IsClosed` and `SourceUnit.isClosed_ofTree`.

Does not own: on which lines things are found; see
`Annotations.Proofs.Source.Walk`.
-/

namespace Annotations.Source

/-! ## Classes in classes -/

/-- A node is one of some statements, or one that is read where such a statement stands: in its
blocks and clauses, or under its decorators. -/
inductive StandsAmong : List Node → Node → Prop where
  | here {nodes : List Node} {node : Node} (isNode : node ∈ nodes) : StandsAmong nodes node
  | inside {nodes : List Node} {container node : Node} (isNode : container ∈ nodes)
      (isContainer : container.kind.isContainer = true)
      (stands : StandsAmong container.children node) : StandsAmong nodes node
  | decorated {nodes : List Node} {outer node : Node} (isNode : outer ∈ nodes)
      (isDecorated : outer.kind = .decoratedDefinition)
      (isDefinition : outer.child? .definition = some node) : StandsAmong nodes node

theorem StandsAmong.mono {nodes more : List Node} {node : Node} (stands : StandsAmong nodes node)
    (subset : nodes ⊆ more) : StandsAmong more node := by
  cases stands with
  | here isNode => exact .here (subset isNode)
  | inside isNode isContainer stands => exact .inside (subset isNode) isContainer stands
  | decorated isNode isDecorated isDefinition =>
      exact .decorated (subset isNode) isDecorated isDefinition

def bodyOf (children : List Node) : List Node :=
  ((children.find? fun child => child.role = some .body).map Node.children).getD []

/-- Classes of these names stand in each other: the first among some statements, and each further
one in the body of the one before. -/
inductive ClassChain : List Node → List String → Prop where
  | nil (nodes : List Node) : ClassChain nodes []
  | cons {nodes : List Node} {node : Node} {name : String} {names : List String}
      (stands : StandsAmong nodes node) (isClass : node.kind = .classDefinition)
      (named : nameOf? node.children = some name)
      (chain : ClassChain (bodyOf node.children) names) :
      ClassChain nodes (name :: names)

theorem ClassChain.lift {nodes more : List Node} {names : List String}
    (chain : ClassChain nodes names)
    (stands : ∀ node, StandsAmong nodes node → StandsAmong more node) : ClassChain more names := by
  cases chain with
  | nil => exact .nil more
  | cons first isClass named rest => exact .cons (stands _ first) isClass named rest

/-! ## Nested findings -/

/-- A namespace leads from an outer one into classes that stand in each other, each of which has
been declared. -/
def Enters (outer : Namespace) (nodes : List Node) (declared : List Declaration)
    (scope : Namespace) : Prop :=
  ∃ names, scope = outer ++ names ∧ ClassChain nodes names ∧
    ∀ above name below, names = above ++ name :: below →
      ∃ line, ⟨outer ++ above, name, .constant, line⟩ ∈ declared

namespace Enters

variable {outer scope : Namespace} {nodes : List Node} {declared : List Declaration}

theorem self (outer : Namespace) (nodes : List Node) (declared : List Declaration) :
    Enters outer nodes declared outer := by
  refine ⟨[], by simp, .nil nodes, ?_⟩
  intro above name below split
  simp at split

theorem mono {more : List Declaration} (enters : Enters outer nodes declared scope)
    (subset : declared ⊆ more) : Enters outer nodes more scope := by
  obtain ⟨names, leads, chain, isDeclared⟩ := enters
  refine ⟨names, leads, chain, ?_⟩
  intro above name below split
  obtain ⟨line, isFound⟩ := isDeclared above name below split
  exact ⟨line, subset isFound⟩

theorem lift {more : List Node} (enters : Enters outer nodes declared scope)
    (stands : ∀ node, StandsAmong nodes node → StandsAmong more node) :
    Enters outer more declared scope := by
  obtain ⟨names, leads, chain, isDeclared⟩ := enters
  exact ⟨names, leads, chain.lift stands, isDeclared⟩

/-- What leads on from the body of a declared class leads from where the class stands. -/
theorem ofBody {node : Node} {name : String} {line : Line} (stands : StandsAmong nodes node)
    (isClass : node.kind = .classDefinition) (named : nameOf? node.children = some name)
    (enters : Enters (outer ++ [name]) (bodyOf node.children) declared scope) :
    Enters outer nodes (⟨outer, name, .constant, line⟩ :: declared) scope := by
  obtain ⟨names, leads, chain, isDeclared⟩ := enters
  refine ⟨name :: names, by simpa using leads, .cons stands isClass named chain, ?_⟩
  intro above other below split
  cases above with
  | nil =>
      obtain ⟨rfl, -⟩ := List.cons.inj split
      exact ⟨line, by simp⟩
  | cons first above =>
      obtain ⟨rfl, splitRest⟩ := List.cons.inj split
      obtain ⟨onLine, isFound⟩ := isDeclared above other below splitRest
      exact ⟨onLine, List.mem_cons_of_mem _ (by simpa using isFound)⟩

/-- Nothing in the body of a class stands in the namespace around the class. -/
theorem ne_outer {name : String} (enters : Enters (outer ++ [name]) nodes declared scope) :
    scope ≠ outer := by
  obtain ⟨names, rfl, -⟩ := enters
  simp

end Enters

/-- What is found enters namespaces through declared classes only: a declaration through those
declared before it, a call through any. Outside class bodies no method on the class is found in the
namespace that the walk began in. -/
structure Findings.IsNested (found : Findings) (scope : Namespace) (inClass : Bool)
    (nodes : List Node) : Prop where
  declarations : ∀ before declaration after, found.declarations = before ++ declaration :: after →
    Enters scope nodes before declaration.scope
  calls : ∀ call ∈ found.calls, Enters scope nodes found.declarations call.scope
  classMethods : ∀ declaration ∈ found.declarations, declaration.kind = .classMethod →
    inClass = true ∨ declaration.scope ≠ scope

namespace Findings.IsNested

variable {scope : Namespace} {inClass : Bool} {nodes : List Node}

theorem empty (scope : Namespace) (inClass : Bool) (nodes : List Node) :
    Findings.empty.IsNested scope inClass nodes where
  declarations := by
    intro before declaration after split
    simp [Findings.empty] at split
  calls := by simp [Findings.empty]
  classMethods := by simp [Findings.empty]

theorem append {left right : Findings} (first : left.IsNested scope inClass nodes)
    (second : right.IsNested scope inClass nodes) :
    (left.append right).IsNested scope inClass nodes where
  declarations := by
    intro before declaration after split
    rcases List.append_eq_append_iff.1 split with
      ⟨between, rfl, splitRight⟩ | ⟨between, splitLeft, splitRight⟩
    · exact (second.declarations between declaration after splitRight).mono
        (List.subset_append_right _ _)
    · cases between with
      | nil =>
          have splitHere : right.declarations = [] ++ declaration :: after := by
            simpa using splitRight.symm
          exact (second.declarations [] declaration after splitHere).mono (List.nil_subset _)
      | cons head between =>
          obtain ⟨rfl, -⟩ := List.cons.inj splitRight
          exact first.declarations before declaration between splitLeft
  calls := by
    intro call isFound
    rcases List.mem_append.1 isFound with inLeft | inRight
    · exact (first.calls call inLeft).mono (List.subset_append_left _ _)
    · exact (second.calls call inRight).mono (List.subset_append_right _ _)
  classMethods := fun declaration isFound =>
    (List.mem_append.1 isFound).elim (first.classMethods declaration)
      (second.classMethods declaration)

theorem lift {found : Findings} {more : List Node} (nested : found.IsNested scope inClass nodes)
    (stands : ∀ node, StandsAmong nodes node → StandsAmong more node) :
    found.IsNested scope inClass more where
  declarations := fun before declaration after split =>
    (nested.declarations before declaration after split).lift stands
  calls := fun call isFound => (nested.calls call isFound).lift stands
  classMethods := nested.classMethods

theorem mono {found : Findings} {more : List Node} (nested : found.IsNested scope inClass nodes)
    (subset : nodes ⊆ more) : found.IsNested scope inClass more :=
  nested.lift fun _ stands => stands.mono subset

/-- Constants found in the namespace itself. -/
theorem constants {found : List Declaration}
    (inScope : ∀ declaration ∈ found, declaration.scope = scope ∧ declaration.kind = .constant) :
    (⟨found, []⟩ : Findings).IsNested scope inClass nodes where
  declarations := by
    rintro before declaration after rfl
    have ownScope := (inScope declaration (by simp)).1
    rw [ownScope]
    exact .self scope nodes before
  calls := by simp
  classMethods := by
    intro declaration isFound isMethod
    have isConstant := (inScope declaration isFound).2
    rw [isMethod] at isConstant
    contradiction

theorem call {found : Call} (inScope : found.scope = scope) :
    (⟨[], [found]⟩ : Findings).IsNested scope inClass nodes where
  declarations := by
    intro before declaration after split
    simp at split
  calls := by
    intro other isFound
    obtain rfl := List.mem_singleton.1 isFound
    rw [inScope]
    exact .self scope nodes []
  classMethods := by simp

/-- A class is declared first, and what its body holds comes after. -/
theorem ofClass {body : Findings} {node : Node} (stands : StandsAmong nodes node)
    (isClass : node.kind = .classDefinition)
    (nested : body.IsNested (scope ++ (nameOf? node.children).toList) true
      (bodyOf node.children)) :
    (classFindings scope node.start (nameOf? node.children) body).IsNested scope inClass nodes := by
  unfold classFindings
  cases named : nameOf? node.children with
  | none => exact .empty scope inClass nodes
  | some name =>
      rw [named, Option.toList_some] at nested
      constructor
      case declarations =>
        intro before declaration after split
        cases before with
        | nil =>
            obtain ⟨rfl, -⟩ := List.cons.inj split
            exact .self scope nodes []
        | cons first before =>
            obtain ⟨rfl, splitBody⟩ := List.cons.inj split
            have opened := nested.declarations before declaration after splitBody
            exact opened.ofBody stands isClass named
      case calls =>
        intro call isFound
        exact (nested.calls call isFound).ofBody stands isClass named
      case classMethods =>
        intro declaration isFound isMethod
        rcases List.mem_cons.1 isFound with rfl | inBody
        · contradiction
        · obtain ⟨before, after, split⟩ := List.append_of_mem inBody
          exact Or.inr (nested.declarations before declaration after split).ne_outer

theorem ofFunction (decorators : List String) (start : Position) (children : List Node) :
    (functionFindings scope inClass decorators start children).IsNested scope inClass nodes := by
  unfold functionFindings
  split
  next name _ =>
    constructor
    case declarations =>
      intro before declaration after split
      have isFound : declaration ∈ (Findings.declaration
          ⟨scope, name, functionKind inClass decorators, start.row + 1⟩).declarations := by
        rw [split]
        simp
      obtain rfl := List.mem_singleton.1 isFound
      exact .self scope nodes before
    case calls => simp [Findings.declaration]
    case classMethods =>
      intro declaration isFound isMethod
      obtain rfl := List.mem_singleton.1 isFound
      -- Only inside a class body do decorators make a method one on the class.
      cases inClass with
      | true => exact Or.inl rfl
      | false => simp [functionKind] at isMethod
  · exact .empty scope inClass nodes

end Findings.IsNested

/-! ## The walk -/

theorem isNested_expressionFindings (scope : Namespace) (inClass : Bool) (nodes : List Node)
    (node : Node) : (expressionFindings scope node).IsNested scope inClass nodes := by
  unfold expressionFindings
  split
  · refine .constants ?_
    intro declaration isFound
    obtain ⟨target, -, rfl⟩ := List.mem_map.1 isFound
    exact ⟨rfl, rfl⟩
  · exact .call rfl
  · exact .empty scope inClass nodes

theorem isNested_statementFindings (scope : Namespace) (inClass : Bool)
    (nodes children : List Node) :
    (statementFindings scope children).IsNested scope inClass nodes := by
  induction children with
  | nil => exact .empty scope inClass nodes
  | cons child rest inductionHypothesis =>
      exact (isNested_expressionFindings scope inClass nodes child).append inductionHypothesis

mutual

theorem isNested_visit (scope : Namespace) (inClass : Bool) :
    ∀ node : Node, (visit scope inClass node).IsNested scope inClass [node]
  | ⟨kind, role, start, text, children⟩ => by
      have self : StandsAmong [⟨kind, role, start, text, children⟩]
          ⟨kind, role, start, text, children⟩ := .here (List.mem_singleton.2 rfl)
      unfold visit
      split
      · exact .ofClass self rfl (isNested_walkBody _ children)
      · exact .ofFunction [] start children
      · refine isNested_decorated scope inClass _ _ children ?_
        intro definition isDefinition
        exact .decorated (List.mem_singleton.2 rfl) rfl isDefinition
      · exact isNested_statementFindings scope inClass _ children
      · split
        next isContainer =>
          refine (isNested_walk scope inClass children).lift ?_
          intro node stands
          exact .inside (List.mem_singleton.2 rfl) isContainer stands
        · exact .empty scope inClass _

/-- What a walk finds is nested in the classes that it enters. -/
theorem isNested_walk (scope : Namespace) (inClass : Bool) :
    ∀ nodes : List Node, (walk scope inClass nodes).IsNested scope inClass nodes
  | [] => by
      rw [walk]
      exact .empty scope inClass []
  | node :: rest => by
      rw [walk]
      exact ((isNested_visit scope inClass node).mono (by simp)).append
        ((isNested_walk scope inClass rest).mono (List.subset_cons_self _ _))

theorem isNested_walkBody (scope : Namespace) :
    ∀ nodes : List Node, (walkBody scope nodes).IsNested scope true (bodyOf nodes)
  | [] => by
      rw [walkBody]
      exact .empty scope true _
  | ⟨kind, role, start, text, children⟩ :: rest => by
      rw [walkBody, bodyOf, List.find?_cons]
      split
      next isBody =>
        simp only [isBody, decide_true]
        exact isNested_walk scope true children
      next notBody =>
        simp only [notBody, decide_false]
        exact isNested_walkBody scope rest

theorem isNested_decorated (scope : Namespace) (inClass : Bool) (decorators : List String)
    (nodes : List Node) : ∀ children : List Node,
      (∀ definition, (children.find? fun child => child.role = some .definition) = some definition →
        StandsAmong nodes definition) →
      (decorated scope inClass decorators children).IsNested scope inClass nodes
  | [], _ => by
      rw [decorated]
      exact .empty scope inClass nodes
  | ⟨kind, role, start, text, children⟩ :: rest, stands => by
      unfold decorated
      split
      next isDefinition =>
        have self := stands ⟨kind, role, start, text, children⟩ (by simp [isDefinition])
        split
        · exact .ofClass self rfl (isNested_walkBody _ children)
        · exact .ofFunction decorators start children
        · exact .empty scope inClass nodes
      next notDefinition =>
        refine isNested_decorated scope inClass decorators nodes rest ?_
        intro definition isFirst
        exact stands definition (by simpa [notDefinition] using isFirst)

end

/-! ## Closed namespaces -/

/-- A class is opened in a namespace: a constant of its name is declared there, and before it
nothing is declared in its body. -/
def Opens (declarations : List Declaration) (scope : Namespace) (name : String) : Prop :=
  ∃ before line after, declarations = before ++ ⟨scope, name, .constant, line⟩ :: after ∧
    ∀ declaration ∈ before, ¬ scope ++ [name] <+: declaration.scope

/-- A namespace is closed: it leads from an outer one into classes that stand in each other, and
each of them is opened where it stands. -/
def IsClosedIn (outer : Namespace) (nodes : List Node) (declarations : List Declaration)
    (scope : Namespace) : Prop :=
  ∃ names, scope = outer ++ names ∧ ClassChain nodes names ∧
    ∀ above name below, names = above ++ name :: below → Opens declarations (outer ++ above) name

/-- The first declaration of a class comes before all that is declared in its body, since each
declaration there has one before it. -/
theorem Findings.IsNested.opens {found : Findings} {scope above : Namespace} {inClass : Bool}
    {nodes : List Node} {name : String} {line : Line} (nested : found.IsNested scope inClass nodes)
    (declared : ⟨scope ++ above, name, .constant, line⟩ ∈ found.declarations) :
    Opens found.declarations (scope ++ above) name := by
  have isFound : (found.declarations.find? fun declaration =>
      decide (declaration.path = ⟨scope ++ above, name, .constant⟩)).isSome :=
    List.find?_isSome.2 ⟨_, declared, by simp [Declaration.path]⟩
  obtain ⟨⟨firstScope, firstName, firstKind, firstLine⟩, first⟩ :=
    Option.isSome_iff_exists.1 isFound
  obtain ⟨ofClass, before, after, split, others⟩ := List.find?_eq_some_iff_append.1 first
  obtain ⟨rfl, rfl, rfl⟩ : firstScope = scope ++ above ∧ firstName = name ∧
      firstKind = .constant := by
    simpa [Declaration.path] using ofClass
  refine ⟨before, firstLine, after, split, ?_⟩
  intro declaration isEarlier inBody
  obtain ⟨earlier, later, rfl⟩ := List.append_of_mem isEarlier
  obtain ⟨names, leads, -, isDeclared⟩ := nested.declarations earlier declaration
    (later ++ ⟨scope ++ above, firstName, .constant, firstLine⟩ :: after) (by simp [split])
  rw [leads, List.append_assoc, List.prefix_append_right_inj] at inBody
  obtain ⟨below, throughClass⟩ := inBody
  obtain ⟨onLine, isBefore⟩ := isDeclared above firstName below (by simp [← throughClass])
  have another := others _ (List.mem_append_left _ isBefore)
  simp [Declaration.path] at another

theorem Findings.IsNested.isClosedIn {found : Findings} {scope inner : Namespace} {inClass : Bool}
    {nodes : List Node} {before : List Declaration} (nested : found.IsNested scope inClass nodes)
    (enters : Enters scope nodes before inner) (subset : before ⊆ found.declarations) :
    IsClosedIn scope nodes found.declarations inner := by
  obtain ⟨names, leads, chain, isDeclared⟩ := enters
  refine ⟨names, leads, chain, ?_⟩
  intro above name below split
  obtain ⟨line, isBefore⟩ := isDeclared above name below split
  exact nested.opens (subset isBefore)

end Annotations.Source

namespace Annotations

open Source

/-- Every namespace in which a unit declares or calls something is closed, and no method on a class
is declared in the namespace of the unit itself. -/
structure SourceUnit.IsClosed (unit : SourceUnit) (nodes : List Node) : Prop where
  declarations : ∀ declaration ∈ unit.declarations,
    IsClosedIn unit.scope nodes unit.declarations declaration.scope
  calls : ∀ call ∈ unit.calls, IsClosedIn unit.scope nodes unit.declarations call.scope
  classMethods : ∀ declaration ∈ unit.declarations, declaration.kind = .classMethod →
    declaration.scope ≠ unit.scope

/-- Whatever its tree and its module, a unit has closed namespaces: they extend that of the module
by classes of the tree that stand in each other, each declared before all that its body declares. -/
theorem SourceUnit.isClosed_ofTree (source : List Char) (root : Node) (unitId : UnitId)
    (moduleName : String) :
    (SourceUnit.ofTree source root unitId moduleName).scope = Namespace.ofModule moduleName ∧
      (SourceUnit.ofTree source root unitId moduleName).IsClosed root.children := by
  have nested := isNested_walk (Namespace.ofModule moduleName) false root.children
  refine ⟨rfl, ?_⟩
  constructor
  case declarations =>
    intro declaration isFound
    obtain ⟨before, after, split⟩ := List.append_of_mem isFound
    have subset : before ⊆
        (walk (Namespace.ofModule moduleName) false root.children).declarations := by
      rw [show (walk (Namespace.ofModule moduleName) false root.children).declarations = _
        from split]
      exact List.subset_append_left _ _
    exact nested.isClosedIn (nested.declarations before declaration after split) subset
  case calls =>
    intro call isFound
    exact nested.isClosedIn (nested.calls call isFound) (List.Subset.refl _)
  case classMethods =>
    intro declaration isFound isMethod
    exact (nested.classMethods declaration isFound isMethod).resolve_left (by decide)

end Annotations
