import Annotations.Proofs.Source.Places
import Annotations.Proofs.Source.Walk

/-!
Contract: a walk finds things in the order in which they stand in the tree.

What a walk finds are definitions, names and calls of the tree. It takes them in
preorder, none twice, provided that in every assignment the left side stands
before the right one: of a chain of assignments the walk takes the left sides
first. So where the rows of such nodes do not decrease in preorder, lines do not
decrease in what is found.

Owns:
- `Node.isFindable` and `findableStarts`;
- `SidesInOrder`, trees with left sides before right sides;
- `Findings.IsTakenFrom`, what is found at nodes that begin at given places;
- `Node.IsInOrder` and `Node.IsInOrder.isAscending_walk`.

Does not own: that the tree of a source is in order; see
`Annotations.Proofs.Source.Blocks`.
-/

namespace Annotations.Source

/-! ## Nodes that can be found -/

/-- A walk can find the node: it is a definition, a name or a call. -/
def Node.isFindable (node : Node) : Bool :=
  match node.kind with
  | .classDefinition | .functionDefinition | .identifier | .call => true
  | _ => false

def findableStarts (nodes : List Node) : List Position :=
  ((preorderAll nodes).filter Node.isFindable).map Node.start

theorem findableStarts_append (left right : List Node) :
    findableStarts (left ++ right) = findableStarts left ++ findableStarts right := by
  unfold findableStarts
  rw [preorderAll_append, List.filter_append, List.map_append]

theorem findableStarts_cons (node : Node) (rest : List Node) :
    findableStarts (node :: rest) = findableStarts [node] ++ findableStarts rest :=
  findableStarts_append [node] rest

theorem findableStarts_singleton (node : Node) :
    findableStarts [node] =
      (if node.isFindable then [node.start] else []) ++ findableStarts node.children := by
  unfold findableStarts
  rw [preorderAll, preorderAll, List.append_nil, Node.preorder_eq, List.filter_cons]
  split <;> rfl

theorem findableStarts_children_sublist (node : Node) :
    (findableStarts node.children).Sublist (findableStarts [node]) := by
  rw [findableStarts_singleton]
  exact List.sublist_append_right _ _

/-! ## The sides of assignments -/

/-- No left side of the node stands after a right side. -/
def Node.HasLeftFirst (node : Node) : Prop :=
  node.children.Pairwise fun earlier later =>
    ¬ (earlier.role = some .right ∧ later.role = some .left)

def SidesInOrder (nodes : List Node) : Prop :=
  ∀ node ∈ preorderAll nodes, node.kind = .assignment → node.HasLeftFirst

theorem sidesInOrder_nil : SidesInOrder [] := by simp [SidesInOrder, preorderAll]

theorem sidesInOrder_append_iff {left right : List Node} :
    SidesInOrder (left ++ right) ↔ SidesInOrder left ∧ SidesInOrder right := by
  unfold SidesInOrder
  rw [preorderAll_append, List.forall_mem_append]

theorem sidesInOrder_cons_iff {node : Node} {rest : List Node} :
    SidesInOrder (node :: rest) ↔ SidesInOrder [node] ∧ SidesInOrder rest := by
  rw [← List.singleton_append, sidesInOrder_append_iff]

theorem sidesInOrder_singleton_iff {node : Node} :
    SidesInOrder [node] ↔
      (node.kind = .assignment → node.HasLeftFirst) ∧ SidesInOrder node.children := by
  unfold SidesInOrder
  rw [preorderAll, preorderAll, List.append_nil, Node.preorder_eq, List.forall_mem_cons]

/-! ## The order of findings -/

/-- Findings are taken in order: the lines of declarations are those of some places, in their order,
and so are the lines of calls. -/
structure Findings.IsTakenFrom (found : Findings) (places : List Position) : Prop where
  declarations : (found.declarations.map Declaration.line).Sublist
    (places.map fun place => (place.row : Int) + 1)
  calls : (found.calls.map Call.line).Sublist (places.map fun place => (place.row : Int) + 1)

namespace Findings.IsTakenFrom

variable {found : Findings} {places : List Position}

theorem empty (places : List Position) : Findings.empty.IsTakenFrom places where
  declarations := List.nil_sublist _
  calls := List.nil_sublist _

theorem mono {more : List Position} (taken : found.IsTakenFrom places)
    (inside : places.Sublist more) : found.IsTakenFrom more where
  declarations := taken.declarations.trans (inside.map _)
  calls := taken.calls.trans (inside.map _)

theorem append {later : Findings} {further : List Position} (taken : found.IsTakenFrom places)
    (takenLater : later.IsTakenFrom further) :
    (found.append later).IsTakenFrom (places ++ further) where
  declarations := by
    simp only [Findings.append, List.map_append]
    exact taken.declarations.append takenLater.declarations
  calls := by
    simp only [Findings.append, List.map_append]
    exact taken.calls.append takenLater.calls

theorem declaration {found : Declaration} {place : Position} (onRow : found.line = place.row + 1) :
    (Findings.declaration found).IsTakenFrom [place] where
  declarations := by simp [Findings.declaration, onRow]
  calls := List.nil_sublist _

end Findings.IsTakenFrom

/-! ## Expression statements -/

theorem leftTargets_sublist (left : Node) :
    (leftTargets left).Sublist (left.preorder.filter Node.isFindable) := by
  have below : ∀ children : List Node,
      (children.filter fun child => child.kind = .identifier).Sublist
        ((preorderAll children).filter Node.isFindable) := by
    intro children
    induction children with
    | nil => exact List.nil_sublist _
    | cons child rest inductionHypothesis =>
        rw [preorderAll, List.filter_append, List.filter_cons]
        split
        next isName =>
          rw [Node.preorder_eq, List.filter_cons_of_pos
            (by simp [Node.isFindable, of_decide_eq_true isName]), List.cons_append]
          exact (inductionHypothesis.trans (List.sublist_append_right _ _)).cons_cons child
        · exact inductionHypothesis.trans (List.sublist_append_right _ _)
  rw [Node.preorder_eq]
  unfold leftTargets
  split
  next isName =>
    rw [List.filter_cons_of_pos (by simp [Node.isFindable, isName])]
    exact (List.nil_sublist _).cons_cons left
  · exact (below left.children).trans ((List.sublist_cons_self left _).filter _)
  · exact (below left.children).trans ((List.sublist_cons_self left _).filter _)
  · exact List.nil_sublist _

mutual

theorem assignmentTargets_sublist : ∀ node : Node, SidesInOrder [node] →
    (assignmentTargets node).Sublist (node.preorder.filter Node.isFindable)
  | ⟨kind, role, start, text, children⟩, sides => by
      obtain ⟨leftFirst, below⟩ := sidesInOrder_singleton_iff.1 sides
      rw [assignmentTargets]
      split
      next isAssignment =>
        rw [Node.preorder]
        exact (sidesTargets_sublist children (leftFirst isAssignment.1) below).trans
          ((List.sublist_cons_self _ _).filter _)
      · exact List.nil_sublist _

/-- The names on the left side come first in the tree too, since it stands before the right side. -/
theorem sidesTargets_sublist : ∀ children : List Node,
    (children.Pairwise fun earlier later =>
      ¬ (earlier.role = some .right ∧ later.role = some .left)) →
    SidesInOrder children →
      (((children.find? fun child => child.role = some .left).map leftTargets).getD [] ++
        rightTargets children).Sublist ((preorderAll children).filter Node.isFindable)
  | [], _, _ => by simp [rightTargets]
  | child :: rest, leftFirst, sides => by
      obtain ⟨ahead, leftFirstLater⟩ := List.pairwise_cons.1 leftFirst
      obtain ⟨inChild, inRest⟩ := sidesInOrder_cons_iff.1 sides
      rw [preorderAll, List.filter_append, rightTargets]
      by_cases isLeft : child.role = some .left
      · rw [List.find?_cons_of_pos (by simpa using isLeft), if_neg (by simp [isLeft])]
        exact (leftTargets_sublist child).append (rightTargets_sublist rest inRest)
      · rw [List.find?_cons_of_neg (by simpa using isLeft)]
        by_cases isRight : child.role = some .right
        · have noLeft : (rest.find? fun other => other.role = some .left) = none := by
            rw [List.find?_eq_none]
            intro other isLater isLeft
            exact ahead other isLater ⟨isRight, of_decide_eq_true isLeft⟩
          rw [noLeft, if_pos isRight]
          exact (assignmentTargets_sublist child inChild).trans (List.sublist_append_left _ _)
        · rw [if_neg isRight]
          exact (sidesTargets_sublist rest leftFirstLater inRest).trans
            (List.sublist_append_right _ _)

theorem rightTargets_sublist : ∀ children : List Node, SidesInOrder children →
    (rightTargets children).Sublist ((preorderAll children).filter Node.isFindable)
  | [], _ => by simp [rightTargets]
  | child :: rest, sides => by
      obtain ⟨inChild, inRest⟩ := sidesInOrder_cons_iff.1 sides
      rw [preorderAll, List.filter_append, rightTargets]
      split
      · exact (assignmentTargets_sublist child inChild).trans (List.sublist_append_left _ _)
      · exact (rightTargets_sublist rest inRest).trans (List.sublist_append_right _ _)

end

theorem isTakenFrom_expressionFindings (scope : Namespace) {node : Node}
    (sides : SidesInOrder [node]) :
    (expressionFindings scope node).IsTakenFrom (findableStarts [node]) := by
  rw [findableStarts, preorderAll, preorderAll, List.append_nil]
  unfold expressionFindings
  split
  · constructor
    case declarations =>
      have lines : (constantsOf scope (assignmentTargets node)).map Declaration.line =
          ((assignmentTargets node).filter fun target => isConstantName target.text).map
            Node.line := by
        simp [constantsOf, Function.comp_def]
      rw [lines, List.map_map]
      exact (List.filter_sublist.trans (assignmentTargets_sublist node sides)).map Node.line
    case calls => exact List.nil_sublist _
  next isCall =>
    constructor
    case declarations => exact List.nil_sublist _
    case calls =>
      rw [Node.preorder_eq, List.filter_cons_of_pos (by simp [Node.isFindable, isCall])]
      exact (List.nil_sublist _).cons_cons _
  · exact .empty _

theorem isTakenFrom_statementFindings (scope : Namespace) {children : List Node}
    (sides : SidesInOrder children) :
    (statementFindings scope children).IsTakenFrom (findableStarts children) := by
  induction children with
  | nil => exact .empty _
  | cons child rest inductionHypothesis =>
      obtain ⟨inChild, inRest⟩ := sidesInOrder_cons_iff.1 sides
      rw [findableStarts_cons]
      exact (isTakenFrom_expressionFindings scope inChild).append (inductionHypothesis inRest)

/-! ## Definitions and blocks -/

theorem isTakenFrom_functionFindings (scope : Namespace) (inClass : Bool) (decorators : List String)
    (node : Node) (isFunction : node.kind = .functionDefinition) :
    (functionFindings scope inClass decorators node.start node.children).IsTakenFrom
      (findableStarts [node]) := by
  have first : [node.start].Sublist (findableStarts [node]) := by
    rw [findableStarts_singleton, if_pos (by simp [Node.isFindable, isFunction])]
    exact List.sublist_append_left _ _
  unfold functionFindings
  split
  · exact (Findings.IsTakenFrom.declaration rfl).mono first
  · exact .empty _

/-- A class is found before its body, and its node begins before the nodes below it. -/
theorem isTakenFrom_classFindings (scope : Namespace) (name? : Option String) (node : Node)
    {body : Findings} (isClass : node.kind = .classDefinition)
    (taken : body.IsTakenFrom (findableStarts node.children)) :
    (classFindings scope node.start name? body).IsTakenFrom (findableStarts [node]) := by
  rw [findableStarts_singleton, if_pos (by simp [Node.isFindable, isClass])]
  unfold classFindings
  split
  · exact (Findings.IsTakenFrom.declaration rfl).append taken
  · exact .empty _

mutual

theorem isTakenFrom_visit (scope : Namespace) (inClass : Bool) : ∀ node : Node,
    SidesInOrder [node] → (visit scope inClass node).IsTakenFrom (findableStarts [node])
  | ⟨kind, role, start, text, children⟩, sides => by
      have below := findableStarts_children_sublist ⟨kind, role, start, text, children⟩
      have inChildren : SidesInOrder children := (sidesInOrder_singleton_iff.1 sides).2
      unfold visit
      split
      · exact isTakenFrom_classFindings scope _ ⟨.classDefinition, role, start, text, children⟩ rfl
          (isTakenFrom_walkBody _ children inChildren)
      · exact isTakenFrom_functionFindings scope inClass []
          ⟨.functionDefinition, role, start, text, children⟩ rfl
      · exact (isTakenFrom_decorated scope inClass _ children inChildren).mono below
      · exact (isTakenFrom_statementFindings scope inChildren).mono below
      · split
        · exact (isTakenFrom_walk scope inClass children inChildren).mono below
        · exact .empty _

/-- A walk takes the findable nodes of trees in preorder. -/
theorem isTakenFrom_walk (scope : Namespace) (inClass : Bool) : ∀ nodes : List Node,
    SidesInOrder nodes → (walk scope inClass nodes).IsTakenFrom (findableStarts nodes)
  | [], _ => by
      rw [walk]
      exact .empty _
  | node :: rest, sides => by
      obtain ⟨inNode, inRest⟩ := sidesInOrder_cons_iff.1 sides
      rw [walk, findableStarts_cons]
      exact (isTakenFrom_visit scope inClass node inNode).append
        (isTakenFrom_walk scope inClass rest inRest)

theorem isTakenFrom_walkBody (scope : Namespace) : ∀ nodes : List Node,
    SidesInOrder nodes → (walkBody scope nodes).IsTakenFrom (findableStarts nodes)
  | [], _ => by
      rw [walkBody]
      exact .empty _
  | ⟨kind, role, start, text, children⟩ :: rest, sides => by
      obtain ⟨inNode, inRest⟩ := sidesInOrder_cons_iff.1 sides
      have inChildren : SidesInOrder children := (sidesInOrder_singleton_iff.1 inNode).2
      rw [walkBody, findableStarts_cons]
      split
      · exact (isTakenFrom_walk scope true children inChildren).mono
          ((findableStarts_children_sublist ⟨kind, role, start, text, children⟩).trans
            (List.sublist_append_left _ _))
      · exact (isTakenFrom_walkBody scope rest inRest).mono (List.sublist_append_right _ _)

theorem isTakenFrom_decorated (scope : Namespace) (inClass : Bool) (decorators : List String) :
    ∀ nodes : List Node, SidesInOrder nodes →
      (decorated scope inClass decorators nodes).IsTakenFrom (findableStarts nodes)
  | [], _ => by
      rw [decorated]
      exact .empty _
  | ⟨kind, role, start, text, children⟩ :: rest, sides => by
      obtain ⟨inNode, inRest⟩ := sidesInOrder_cons_iff.1 sides
      have inChildren : SidesInOrder children := (sidesInOrder_singleton_iff.1 inNode).2
      unfold decorated
      rw [findableStarts_cons]
      split
      · refine Findings.IsTakenFrom.mono ?_ (List.sublist_append_left _ _)
        split
        · exact isTakenFrom_classFindings scope _ ⟨.classDefinition, role, start, text, children⟩
            rfl (isTakenFrom_walkBody _ children inChildren)
        · exact isTakenFrom_functionFindings scope inClass decorators
            ⟨.functionDefinition, role, start, text, children⟩ rfl
        · exact .empty _
      · exact (isTakenFrom_decorated scope inClass decorators rest inRest).mono
          (List.sublist_append_right _ _)

end

/-! ## Trees in order -/

/-- What is asked of a tree whose things are to be found in order: the rows of its findable nodes do
not decrease in preorder, and left sides stand before right sides. -/
structure Node.IsInOrder (root : Node) : Prop where
  rows : (findableStarts [root]).Pairwise fun earlier later => earlier.row ≤ later.row
  sides : SidesInOrder [root]

/-- A tree is in order if no node begins before one that comes earlier in preorder. -/
theorem Node.isInOrder_of_preorder {root : Node}
    (ascends : root.preorder.Pairwise fun earlier later => ¬ later.start.Precedes earlier.start)
    (sides : SidesInOrder [root]) : root.IsInOrder where
  rows := by
    unfold findableStarts
    rw [preorderAll, preorderAll, List.append_nil, List.pairwise_map]
    refine (ascends.sublist List.filter_sublist).imp ?_
    intro earlier later notBefore
    exact Nat.le_of_not_lt fun above => notBefore (Or.inl above)
  sides := sides

structure Findings.IsAscending (found : Findings) : Prop where
  declarations : found.declarations.Pairwise fun earlier later => earlier.line ≤ later.line
  calls : found.calls.Pairwise fun earlier later => earlier.line ≤ later.line

theorem Findings.IsTakenFrom.isAscending {found : Findings} {places : List Position}
    (taken : found.IsTakenFrom places)
    (rows : places.Pairwise fun earlier later => earlier.row ≤ later.row) : found.IsAscending := by
  have lines : (places.map fun place => (place.row : Int) + 1).Pairwise (· ≤ ·) := by
    rw [List.pairwise_map]
    refine rows.imp ?_
    intro earlier later notBelow
    omega
  exact ⟨List.pairwise_map.1 (lines.sublist taken.declarations),
    List.pairwise_map.1 (lines.sublist taken.calls)⟩

/-- What a walk finds in a tree that is in order has ascending lines. -/
theorem Node.IsInOrder.isAscending_walk {root : Node} (inOrder : root.IsInOrder) (scope : Namespace)
    (inClass : Bool) : (walk scope inClass root.children).IsAscending := by
  have taken := isTakenFrom_walk scope inClass root.children
    (sidesInOrder_singleton_iff.1 inOrder.sides).2
  exact taken.isAscending (inOrder.rows.sublist (findableStarts_children_sublist root))

end Annotations.Source
