import Annotations.Source.Extraction

/-!
Contract: what a walk over a tree finds comes from nodes of the tree.

A declaration stands on the line of a definition or of a name with the shape of a
constant's, a call on the line of a call. The comments that the stack collects
are comment nodes of the tree, in preorder, and each node is taken at most once.

Owns:
- `Node.preorder`, all nodes of a tree;
- `Findings.ComesFrom` and `comesFrom_walk`;
- `collectCommentNodes_sublist`.

Does not own: which names and namespaces are found.
-/

namespace Annotations.Source

/-! ## Nodes of a tree -/

mutual

def Node.preorder : Node → List Node
  | ⟨kind, role, start, text, children⟩ =>
      ⟨kind, role, start, text, children⟩ :: preorderAll children

def preorderAll : List Node → List Node
  | [] => []
  | node :: rest => node.preorder ++ preorderAll rest

end

theorem preorderAll_append (left right : List Node) :
    preorderAll (left ++ right) = preorderAll left ++ preorderAll right := by
  induction left with
  | nil => rfl
  | cons node rest inductionHypothesis =>
      rw [List.cons_append, preorderAll, preorderAll, inductionHypothesis, List.append_assoc]

theorem Node.preorder_eq (node : Node) : node.preorder = node :: preorderAll node.children := by
  cases node
  rw [preorder]

theorem Node.mem_preorder_self (node : Node) : node ∈ node.preorder := by
  rw [preorder_eq]
  exact List.mem_cons_self

theorem preorderAll_subset_preorder (node : Node) : preorderAll node.children ⊆ node.preorder := by
  rw [Node.preorder_eq]
  exact List.subset_cons_self _ _

theorem mem_preorderAll_iff {node : Node} {nodes : List Node} :
    node ∈ preorderAll nodes ↔ ∃ root ∈ nodes, node ∈ root.preorder := by
  induction nodes with
  | nil => simp [preorderAll]
  | cons first rest inductionHypothesis =>
      rw [preorderAll, List.mem_append, inductionHypothesis]
      simp

theorem mem_preorderAll_of_mem {node : Node} {nodes : List Node} (isNode : node ∈ nodes) :
    node ∈ preorderAll nodes :=
  mem_preorderAll_iff.2 ⟨node, isNode, node.mem_preorder_self⟩

theorem preorder_subset_preorderAll {node : Node} {nodes : List Node} (isNode : node ∈ nodes) :
    node.preorder ⊆ preorderAll nodes :=
  fun _ below => mem_preorderAll_iff.2 ⟨node, isNode, below⟩

/-! ## Provenance -/

/-- A definition, or a name with the shape of a constant's. -/
def Node.IsDeclaring (node : Node) : Prop :=
  node.kind = .classDefinition ∨ node.kind = .functionDefinition ∨
    node.kind = .identifier ∧ isConstantName node.text = true

/-- Declarations stand on lines of declaring nodes, and calls on lines of calls. -/
structure Findings.ComesFrom (found : Findings) (nodes : List Node) : Prop where
  declarations : ∀ declaration ∈ found.declarations, ∃ node ∈ nodes,
    node.IsDeclaring ∧ declaration.line = node.line
  calls : ∀ call ∈ found.calls, ∃ node ∈ nodes, node.kind = .call ∧ call.line = node.line

namespace Findings.ComesFrom

theorem empty (nodes : List Node) : Findings.empty.ComesFrom nodes where
  declarations := by simp [Findings.empty]
  calls := by simp [Findings.empty]

theorem mono {found : Findings} {nodes more : List Node} (comes : found.ComesFrom nodes)
    (subset : nodes ⊆ more) : found.ComesFrom more where
  declarations := by
    intro declaration isFound
    obtain ⟨node, isNode, declares⟩ := comes.declarations declaration isFound
    exact ⟨node, subset isNode, declares⟩
  calls := by
    intro call isFound
    obtain ⟨node, isNode, calls⟩ := comes.calls call isFound
    exact ⟨node, subset isNode, calls⟩

theorem append {left right : Findings} {nodes : List Node} (first : left.ComesFrom nodes)
    (second : right.ComesFrom nodes) : (left.append right).ComesFrom nodes where
  declarations := fun declaration isFound =>
    (List.mem_append.1 isFound).elim (first.declarations declaration)
      (second.declarations declaration)
  calls := fun call isFound =>
    (List.mem_append.1 isFound).elim (first.calls call) (second.calls call)

theorem declaration {found : Declaration} {node : Node} {nodes : List Node} (isNode : node ∈ nodes)
    (declares : node.IsDeclaring) (onLine : found.line = node.line) :
    (Findings.declaration found).ComesFrom nodes where
  declarations := by
    intro other isFound
    obtain rfl := List.mem_singleton.1 isFound
    exact ⟨node, isNode, declares, onLine⟩
  calls := by simp [Findings.declaration]

end Findings.ComesFrom

/-! ## Expression statements -/

theorem kind_of_mem_leftTargets {left target : Node} (isTarget : target ∈ leftTargets left) :
    target ∈ left.preorder ∧ target.kind = .identifier := by
  unfold leftTargets at isTarget
  split at isTarget
  next isName =>
    rw [List.mem_singleton.1 isTarget]
    exact ⟨left.mem_preorder_self, isName⟩
  · obtain ⟨isChild, isName⟩ := List.mem_filter.1 isTarget
    exact ⟨preorderAll_subset_preorder left (mem_preorderAll_of_mem isChild), by simpa using isName⟩
  · obtain ⟨isChild, isName⟩ := List.mem_filter.1 isTarget
    exact ⟨preorderAll_subset_preorder left (mem_preorderAll_of_mem isChild), by simpa using isName⟩
  · contradiction

mutual

/-- The names that an assignment binds are nodes below it. -/
theorem kind_of_mem_assignmentTargets : ∀ (node target : Node),
    target ∈ assignmentTargets node → target ∈ node.preorder ∧ target.kind = .identifier
  | ⟨kind, role, start, text, children⟩, target, isTarget => by
      rw [assignmentTargets] at isTarget
      split at isTarget
      · rcases List.mem_append.1 isTarget with inLeft | inRight
        · cases found : children.find? fun child => child.role = some .left with
          | none => simp [found] at inLeft
          | some left =>
              rw [found] at inLeft
              obtain ⟨below, isName⟩ := kind_of_mem_leftTargets inLeft
              have isChild : left ∈ children := List.mem_of_find?_eq_some found
              have inChildren := preorder_subset_preorderAll isChild below
              exact ⟨preorderAll_subset_preorder _ inChildren, isName⟩
        · obtain ⟨below, isName⟩ := kind_of_mem_rightTargets children target inRight
          exact ⟨preorderAll_subset_preorder _ below, isName⟩
      · contradiction

theorem kind_of_mem_rightTargets : ∀ (nodes : List Node) (target : Node),
    target ∈ rightTargets nodes → target ∈ preorderAll nodes ∧ target.kind = .identifier
  | [], _, isTarget => by simp [rightTargets] at isTarget
  | child :: rest, target, isTarget => by
      rw [rightTargets] at isTarget
      rw [preorderAll, List.mem_append]
      split at isTarget
      · obtain ⟨below, isName⟩ := kind_of_mem_assignmentTargets child target isTarget
        exact ⟨Or.inl below, isName⟩
      · obtain ⟨below, isName⟩ := kind_of_mem_rightTargets rest target isTarget
        exact ⟨Or.inr below, isName⟩

end

theorem comesFrom_expressionFindings (scope : Namespace) (node : Node) :
    (expressionFindings scope node).ComesFrom node.preorder := by
  unfold expressionFindings
  split
  next =>
    refine ⟨?_, by simp⟩
    intro declaration isFound
    obtain ⟨target, isConstant, rfl⟩ := List.mem_map.1 isFound
    obtain ⟨isTarget, isConstant⟩ := List.mem_filter.1 isConstant
    obtain ⟨below, isName⟩ := kind_of_mem_assignmentTargets node target isTarget
    exact ⟨target, below, Or.inr (Or.inr ⟨isName, isConstant⟩), rfl⟩
  next isCall =>
    refine ⟨by simp, ?_⟩
    intro call isFound
    obtain rfl := List.mem_singleton.1 isFound
    exact ⟨node, node.mem_preorder_self, isCall, rfl⟩
  next => exact .empty _

theorem comesFrom_statementFindings (scope : Namespace) (children : List Node) :
    (statementFindings scope children).ComesFrom (preorderAll children) := by
  induction children with
  | nil => exact .empty _
  | cons child rest inductionHypothesis =>
      rw [preorderAll]
      exact ((comesFrom_expressionFindings scope child).mono (List.subset_append_left _ _)).append
        (inductionHypothesis.mono (List.subset_append_right _ _))

/-! ## Definitions and blocks -/

theorem comesFrom_functionFindings (scope : Namespace) (inClass : Bool) (decorators : List String)
    {node : Node} {nodes : List Node} (isNode : node ∈ nodes)
    (isFunction : node.kind = .functionDefinition) :
    (functionFindings scope inClass decorators node.start node.children).ComesFrom nodes := by
  unfold functionFindings
  split
  · exact .declaration isNode (Or.inr (Or.inl isFunction)) rfl
  · exact .empty _

theorem comesFrom_classFindings (scope : Namespace) (name? : Option String) {body : Findings}
    {node : Node} {nodes : List Node} (isNode : node ∈ nodes)
    (isClass : node.kind = .classDefinition) (inBody : body.ComesFrom nodes) :
    (classFindings scope node.start name? body).ComesFrom nodes := by
  unfold classFindings
  split
  · exact (Findings.ComesFrom.declaration isNode (Or.inl isClass) rfl).append inBody
  · exact .empty _

mutual

theorem comesFrom_visit (scope : Namespace) (inClass : Bool) :
    ∀ node : Node, (visit scope inClass node).ComesFrom node.preorder
  | ⟨kind, role, start, text, children⟩ => by
      have below : preorderAll children ⊆ Node.preorder ⟨kind, role, start, text, children⟩ :=
        preorderAll_subset_preorder ⟨kind, role, start, text, children⟩
      have self := Node.mem_preorder_self ⟨kind, role, start, text, children⟩
      unfold visit
      split
      · exact comesFrom_classFindings scope _ self rfl ((comesFrom_walkBody _ children).mono below)
      · exact comesFrom_functionFindings scope inClass [] self rfl
      · exact (comesFrom_decorated scope inClass _ children).mono below
      · exact (comesFrom_statementFindings scope children).mono below
      · split
        · exact (comesFrom_walk scope inClass children).mono below
        · exact .empty _

/-- What a walk over trees finds comes from their nodes. -/
theorem comesFrom_walk (scope : Namespace) (inClass : Bool) :
    ∀ nodes : List Node, (walk scope inClass nodes).ComesFrom (preorderAll nodes)
  | [] => by
      rw [walk]
      exact .empty _
  | node :: rest => by
      rw [walk, preorderAll]
      exact ((comesFrom_visit scope inClass node).mono (List.subset_append_left _ _)).append
        ((comesFrom_walk scope inClass rest).mono (List.subset_append_right _ _))

theorem comesFrom_walkBody (scope : Namespace) :
    ∀ nodes : List Node, (walkBody scope nodes).ComesFrom (preorderAll nodes)
  | [] => by
      rw [walkBody]
      exact .empty _
  | ⟨kind, role, start, text, children⟩ :: rest => by
      rw [walkBody, preorderAll]
      split
      · exact (comesFrom_walk scope true children).mono
          (List.Subset.trans (preorderAll_subset_preorder ⟨kind, role, start, text, children⟩)
            (List.subset_append_left _ _))
      · exact (comesFrom_walkBody scope rest).mono (List.subset_append_right _ _)

theorem comesFrom_decorated (scope : Namespace) (inClass : Bool) (decorators : List String) :
    ∀ nodes : List Node, (decorated scope inClass decorators nodes).ComesFrom (preorderAll nodes)
  | [] => by
      rw [decorated]
      exact .empty _
  | ⟨kind, role, start, text, children⟩ :: rest => by
      have self : (⟨kind, role, start, text, children⟩ : Node) ∈
          preorderAll (⟨kind, role, start, text, children⟩ :: rest) :=
        mem_preorderAll_of_mem List.mem_cons_self
      have below : preorderAll children ⊆
          preorderAll (⟨kind, role, start, text, children⟩ :: rest) :=
        List.Subset.trans (preorderAll_subset_preorder ⟨kind, role, start, text, children⟩)
          (preorder_subset_preorderAll List.mem_cons_self)
      unfold decorated
      split
      · split
        · exact comesFrom_classFindings scope _ self rfl
            ((comesFrom_walkBody _ children).mono below)
        · exact comesFrom_functionFindings scope inClass decorators self rfl
        · exact .empty _
      · rw [preorderAll]
        exact (comesFrom_decorated scope inClass decorators rest).mono
          (List.subset_append_right _ _)

end

/-! ## Comments -/

/-- The stack takes comment nodes in preorder, and none twice. -/
theorem collectCommentNodes_sublist (stack : List Node) :
    (collectCommentNodes stack).Sublist
      ((preorderAll stack).filter fun node => node.kind = .comment) := by
  induction stack using collectCommentNodes.induct with
  | case1 => simp [collectCommentNodes]
  | case2 role start text children rest inductionHypothesis =>
      rw [collectCommentNodes, if_pos rfl, preorderAll, Node.preorder, List.cons_append,
        List.filter_cons_of_pos (by simp), List.filter_append]
      exact (inductionHypothesis.trans (List.sublist_append_right _ _)).cons_cons _
  | case3 kind role start text children rest isOther inductionHypothesis =>
      rw [preorderAll_append] at inductionHypothesis
      rw [collectCommentNodes, if_neg isOther, preorderAll, Node.preorder, List.cons_append,
        List.filter_cons_of_neg (by simpa using isOther)]
      exact inductionHypothesis

end Annotations.Source
