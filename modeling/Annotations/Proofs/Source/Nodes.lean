import Annotations.Source.Statement
import Annotations.Proofs.Source.Layout
import Annotations.Proofs.Source.Walk

/-!
Contract: every node of the statements begins where a token does.

A node is built from groups of a line and begins with the first of them. Cutting
a line yields groups of the line again, so the starts of all nodes below are
starts of its tokens too. None of these nodes is a comment: comments are added to
the statements of a source afterwards.

Owns:
- `Node.IsCodeAt`, for the nodes of code, and a lemma for each kind of statement;
- `NodeKind.IsOfExpression`, for what the shape of an expression can be;
- `isCodeAt_blockNodes`.

Does not own: where tokens begin; see `Annotations.Proofs.Source.Tokens`.
-/

namespace Annotations.Source

def Group.AllAt (starts : Position → Prop) (groups : List Group) : Prop :=
  ∀ token ∈ tokensOfAll groups, starts token.start

/-- The node and all nodes below it begin at such a position, and are no comments. -/
def Node.IsCodeAt (starts : Position → Prop) (node : Node) : Prop :=
  ∀ below ∈ node.preorder, starts below.start ∧ below.kind ≠ .comment

section Starts

variable {starts : Position → Prop}

/-! ## Groups -/

namespace Group.AllAt

theorem subset {groups more : List Group} (allAt : AllAt starts more) (inside : groups ⊆ more) :
    AllAt starts groups := by
  intro token isToken
  obtain ⟨group, isGroup, inGroup⟩ := mem_tokensOfAll_iff.1 isToken
  exact allAt token (mem_tokensOfAll_iff.2 ⟨group, inside isGroup, inGroup⟩)

theorem of_mem {groups : List Group} {group : Group} (allAt : AllAt starts groups)
    (isGroup : group ∈ groups) : AllAt starts [group] :=
  allAt.subset (by simpa using isGroup)

theorem first {group : Group} {rest : List Group} (allAt : AllAt starts (group :: rest)) :
    starts group.first.start :=
  allAt group.first (mem_tokensOfAll_iff.2 ⟨group, List.mem_cons_self, group.first_mem_tokens⟩)

theorem items {opening : Token} {items : List Group} {closing : Option Token}
    (allAt : AllAt starts [.bracket opening items closing]) : AllAt starts items := by
  intro token isToken
  apply allAt token
  rw [tokensOfAll, tokensOfAll, tokens]
  simp [isToken]

theorem part {groups part : List Group} {symbol : String} (allAt : AllAt starts groups)
    (isPart : part ∈ cutAt symbol groups) : AllAt starts part :=
  allAt.subset (sublist_of_mem_cutAt isPart).subset

end Group.AllAt

/-! ## Nodes -/

theorem isCodeAt_of_children {node : Node} (atStart : starts node.start)
    (isCode : node.kind ≠ .comment) (children : ∀ child ∈ node.children, child.IsCodeAt starts) :
    node.IsCodeAt starts := by
  intro below isBelow
  rw [Node.preorder_eq] at isBelow
  rcases List.mem_cons.1 isBelow with rfl | deeper
  · exact ⟨atStart, isCode⟩
  · obtain ⟨child, isChild, inChild⟩ := mem_preorderAll_iff.1 deeper
    exact children child isChild below inChild

namespace Node.IsCodeAt

variable {node : Node}

theorem self (isCode : node.IsCodeAt starts) : starts node.start ∧ node.kind ≠ .comment :=
  isCode node node.mem_preorder_self

theorem child (isCode : node.IsCodeAt starts) : ∀ child ∈ node.children, child.IsCodeAt starts := by
  intro child isChild below isBelow
  have inChildren := preorder_subset_preorderAll isChild isBelow
  exact isCode below (preorderAll_subset_preorder node inChildren)

/-- The role of a node is not looked at. -/
theorem withRole (isCode : node.IsCodeAt starts) (role : Role) :
    (node.withRole role).IsCodeAt starts :=
  isCodeAt_of_children isCode.self.1 isCode.self.2 isCode.child

end Node.IsCodeAt

theorem isCodeAt_nodeAt {kind : NodeKind} {first : Group} {groups : List Group}
    {children : List Node} (atStart : starts first.first.start) (isCode : kind ≠ .comment)
    (below : ∀ child ∈ children, child.IsCodeAt starts) :
    (nodeAt kind first groups children).IsCodeAt starts :=
  isCodeAt_of_children atStart isCode below

theorem isCodeAt_leaf {kind : NodeKind} {first : Group} {groups : List Group}
    (atStart : starts first.first.start) (isCode : kind ≠ .comment) :
    (nodeAt kind first groups []).IsCodeAt starts :=
  isCodeAt_nodeAt atStart isCode (by simp)

theorem isCodeAt_of_mem_nodesOfParts {toNode : Group → List Group → Node}
    {parts : List (List Group)} {node : Node}
    (built : ∀ first rest, Group.AllAt starts (first :: rest) → (toNode first rest).IsCodeAt starts)
    (allAt : ∀ part ∈ parts, Group.AllAt starts part) (isNode : node ∈ nodesOfParts toNode parts) :
    node.IsCodeAt starts := by
  obtain ⟨part, isPart, isBuilt⟩ := List.mem_filterMap.1 isNode
  cases part with
  | nil => contradiction
  | cons first rest =>
      obtain rfl := Option.some.inj isBuilt
      exact built first rest (allAt _ isPart)

/-! ## Expressions -/

/-- An expression by itself is neither a comment nor an assignment. -/
structure NodeKind.IsOfExpression (kind : NodeKind) : Prop where
  noComment : kind ≠ .comment
  noAssignment : kind ≠ .assignment

theorem isOfExpression_of_atomKind? {group : Group} {kind : NodeKind}
    (isAtom : atomKind? group = some kind) : kind.IsOfExpression := by
  constructor
  all_goals
    rintro rfl
    unfold atomKind? at isAtom
    split at isAtom
    · contradiction
    · split at isAtom
      · contradiction
      · contradiction
      · simp only at isAtom
        split at isAtom <;> try split at isAtom
        all_goals contradiction
      · split at isAtom <;> contradiction

/-- An atom takes the first group at least. -/
theorem takeAtom?_cons {group : Group} {groups atom rest : List Group} {kind : NodeKind}
    (taken : takeAtom? (group :: groups) = some (kind, atom, rest)) :
    kind.IsOfExpression ∧ rest ⊆ groups := by
  obtain ⟨found, isAtom, same⟩ := Option.map_eq_some_iff.1 taken
  split at same
  · obtain ⟨isKind, -, isRest⟩ := by simpa using same
    subst isKind isRest
    refine ⟨⟨by split <;> simp, by split <;> simp⟩, ?_⟩
    exact (List.dropWhile_sublist _).subset
  · obtain ⟨isKind, -, isRest⟩ := by simpa using same
    subst isKind isRest
    exact ⟨isOfExpression_of_atomKind? isAtom, List.Subset.refl _⟩

/-- The arguments that groups end with are one of them. -/
theorem mem_of_lastTrailer? {before groups previous : List Group}
    {last : Option (Trailer × List Group)} {arguments : Group}
    (found : lastTrailer? before last groups = some (some (.call arguments, previous))) :
    arguments ∈ groups ∨ last = some (.call arguments, previous) := by
  fun_induction lastTrailer? before last groups with
  | case1 before last => exact Or.inr (Option.some.inj found)
  | case2 before last group rest isCall inductionHypothesis =>
      rcases inductionHypothesis found with later | here
      · exact Or.inl (List.mem_cons_of_mem group later)
      · simp_all
  | case3 before last group rest notCall isSubscript inductionHypothesis =>
      rcases inductionHypothesis found with later | here
      · exact Or.inl (List.mem_cons_of_mem group later)
      · simp at here
  | case4 before last group notCall notSubscript isPoint name rest isName inductionHypothesis =>
      rcases inductionHypothesis found with later | here
      · exact Or.inl (by simp [later])
      · simp at here
  | case5 | case6 | case7 => contradiction

theorem isOfExpression_of_plain {first : Group} {rest : List Group} {kind : NodeKind}
    (shape : ExpressionShape.of (first :: rest) = .plain kind) : kind.IsOfExpression := by
  unfold ExpressionShape.of at shape
  split at shape
  · obtain rfl := ExpressionShape.plain.inj shape
    exact ⟨by simp, by simp⟩
  next found atom after taken =>
    split at shape
    · obtain rfl := ExpressionShape.plain.inj shape
      exact ⟨by simp, by simp⟩
    · obtain rfl := ExpressionShape.plain.inj shape
      exact (takeAtom?_cons taken).1
    · contradiction
    · obtain rfl := ExpressionShape.plain.inj shape
      exact ⟨by simp, by simp⟩
    · obtain rfl := ExpressionShape.plain.inj shape
      exact ⟨by simp, by simp⟩

/-- The arguments of a call stand after its first group. -/
theorem arguments_mem_of_call {first : Group} {rest function : List Group} {arguments : Group}
    (shape : ExpressionShape.of (first :: rest) = .call function arguments) : arguments ∈ rest := by
  unfold ExpressionShape.of at shape
  split at shape
  · contradiction
  next found atom after taken =>
    split at shape
    · contradiction
    · contradiction
    next bracket before ends =>
      obtain ⟨-, rfl⟩ := ExpressionShape.call.inj shape
      rcases mem_of_lastTrailer? ends with isLater | isLast
      · exact (takeAtom?_cons taken).2 isLater
      · contradiction
    · contradiction
    · contradiction

theorem isCodeAt_argumentNode (first : Group) (rest : List Group)
    (allAt : Group.AllAt starts (first :: rest)) : (argumentNode first rest).IsCodeAt starts := by
  unfold argumentNode
  apply isCodeAt_leaf allAt.first
  split
  · simp
  · split
    · simp
    · split
      · simp
      · split
        next kind shape => exact (isOfExpression_of_plain shape).noComment
        · simp

theorem isCodeAt_argumentsNode {bracket : Group} (allAt : Group.AllAt starts [bracket]) :
    (argumentsNode bracket).IsCodeAt starts := by
  cases bracket with
  | leaf token => exact isCodeAt_leaf allAt.first (by simp)
  | bracket opening items closing =>
      unfold argumentsNode
      simp only
      split
      · exact isCodeAt_leaf allAt.first (by simp)
      · refine isCodeAt_nodeAt allAt.first (by simp) ?_
        intro child isChild
        exact isCodeAt_of_mem_nodesOfParts isCodeAt_argumentNode (fun _ => allAt.items.part) isChild

theorem isCodeAt_expressionNode (first : Group) (rest : List Group)
    (allAt : Group.AllAt starts (first :: rest)) : (expressionNode first rest).IsCodeAt starts := by
  unfold expressionNode
  simp only
  split
  next kind shape => exact isCodeAt_leaf allAt.first (isOfExpression_of_plain shape).noComment
  next function arguments shape =>
    have argumentsAt := allAt.of_mem (List.mem_cons_of_mem first (arguments_mem_of_call shape))
    refine isCodeAt_nodeAt allAt.first (by simp) ?_
    rw [List.forall_mem_cons, List.forall_mem_singleton]
    exact ⟨(isCodeAt_leaf allAt.first (by simp)).withRole _,
      (isCodeAt_argumentsNode argumentsAt).withRole _⟩

/-! ## Simple statements -/

theorem isCodeAt_patternItem (first : Group) (rest : List Group)
    (allAt : Group.AllAt starts (first :: rest)) : (patternItem first rest).IsCodeAt starts := by
  unfold patternItem
  apply isCodeAt_leaf allAt.first
  split <;> simp

theorem isCodeAt_targetNode (first : Group) (rest : List Group)
    (allAt : Group.AllAt starts (first :: rest)) : (targetNode first rest).IsCodeAt starts := by
  have patterns : ∀ groups, Group.AllAt starts groups →
      ∀ node ∈ nodesOfParts patternItem (cutAt "," groups), node.IsCodeAt starts :=
    fun groups groupsAt _ isNode =>
      isCodeAt_of_mem_nodesOfParts isCodeAt_patternItem (fun _ => groupsAt.part) isNode
  unfold targetNode
  simp only
  split
  · exact isCodeAt_nodeAt allAt.first (by simp) (patterns _ allAt)
  · split
    next opening items closing =>
      split
      · exact isCodeAt_nodeAt allAt.first (by simp) (patterns _ allAt.items)
      · exact isCodeAt_leaf allAt.first (by simp)
    · exact isCodeAt_patternItem first rest allAt

theorem isCodeAt_valueNode (first : Group) (rest : List Group)
    (allAt : Group.AllAt starts (first :: rest)) : (valueNode first rest).IsCodeAt starts :=
  isCodeAt_leaf allAt.first (by simp)

theorem isCodeAt_assignmentNode {left : Node} {parts : List (List Group)}
    (leftAt : left.IsCodeAt starts) (allAt : ∀ part ∈ parts, Group.AllAt starts part) :
    (assignmentNode left parts).IsCodeAt starts := by
  induction parts generalizing left with
  | nil =>
      refine isCodeAt_of_children leftAt.self.1 (by simp [assignmentNode]) ?_
      intro child isChild
      rw [List.mem_singleton.1 isChild]
      exact leftAt.withRole .left
  | cons part rest inductionHypothesis =>
      rw [List.forall_mem_cons] at allAt
      cases part with
      | nil => exact inductionHypothesis leftAt allAt.2
      | cons first groups =>
          refine isCodeAt_of_children leftAt.self.1 (by simp [assignmentNode]) ?_
          intro child isChild
          rcases List.mem_cons.1 isChild with rfl | isRight
          · exact leftAt.withRole .left
          · rw [List.mem_singleton.1 isRight]
            apply Node.IsCodeAt.withRole
            split
            · exact isCodeAt_valueNode first groups allAt.1
            · exact inductionHypothesis (isCodeAt_targetNode first groups allAt.1) allAt.2

theorem isCodeAt_expressionChildren (first : Group) (rest : List Group)
    (allAt : Group.AllAt starts (first :: rest)) :
    ∀ node ∈ expressionChildren first rest, node.IsCodeAt starts := by
  have alone : ∀ node ∈ [nodeAt .expression first (first :: rest) []], node.IsCodeAt starts := by
    intro node isNode
    rw [List.mem_singleton.1 isNode]
    exact isCodeAt_leaf allAt.first (by simp)
  unfold expressionChildren
  simp only
  split
  · exact alone
  · split
    · exact fun _ isNode =>
        isCodeAt_of_mem_nodesOfParts isCodeAt_expressionNode (fun _ => allAt.part) isNode
    · exact alone
    next target more sign after cut =>
      have whole := append_of_cutFirst? cut
      have targetAt : Group.AllAt starts (target :: more) :=
        allAt.subset (whole ▸ List.subset_append_left _ _)
      have afterAt : Group.AllAt starts after := allAt.subset fun _ isGroup => by
        rw [whole]
        exact List.mem_append_right _ (List.mem_cons_of_mem _ isGroup)
      have leftAt := isCodeAt_targetNode target more targetAt
      split
      · intro node isNode
        rw [List.mem_singleton.1 isNode]
        exact isCodeAt_assignmentNode leftAt fun _ => afterAt.part
      · split
        · intro node isNode
          rw [List.mem_singleton.1 isNode]
          exact isCodeAt_assignmentNode leftAt fun _ isPart =>
            afterAt.part (List.mem_of_mem_drop isPart)
        · exact alone

theorem isCodeAt_simpleStatement (first : Group) (rest : List Group)
    (allAt : Group.AllAt starts (first :: rest)) :
    (simpleStatement first rest).IsCodeAt starts := by
  unfold simpleStatement
  split
  · exact isCodeAt_of_children allAt.first (by simp) (by simp)
  · exact isCodeAt_of_children allAt.first (by simp) (isCodeAt_expressionChildren first rest allAt)

theorem isCodeAt_simpleStatements {groups : List Group} (allAt : Group.AllAt starts groups) :
    ∀ node ∈ simpleStatements groups, node.IsCodeAt starts :=
  fun _ isNode => isCodeAt_of_mem_nodesOfParts isCodeAt_simpleStatement (fun _ => allAt.part) isNode

/-! ## Compound statements -/

theorem allAt_afterHeader {line : LogicalLine} (allAt : Group.AllAt starts line.groups) :
    Group.AllAt starts (afterHeader line) := by
  unfold afterHeader
  split
  next before sign after cut =>
    refine allAt.subset fun _ isGroup => ?_
    rw [append_of_cutFirst? cut]
    exact List.mem_append_right _ (List.mem_cons_of_mem _ isGroup)
  · exact fun _ isToken => by contradiction

theorem isCodeAt_blockNode {start : Position} {statements : List Node} (atStart : starts start)
    (inBlock : ∀ node ∈ statements, node.IsCodeAt starts) :
    (blockNode start statements).IsCodeAt starts := by
  refine isCodeAt_of_children ?_ (by simp [blockNode]) inBlock
  unfold blockNode
  cases statements with
  | nil => exact atStart
  | cons first rest => exact (inBlock first List.mem_cons_self).self.1

theorem isCodeAt_definitionNode {kind : NodeKind} {line : LogicalLine} {body : Node}
    (isCode : kind ≠ .comment) (allAt : Group.AllAt starts line.groups)
    (bodyAt : body.IsCodeAt starts) : (definitionNode kind line body).IsCodeAt starts := by
  refine isCodeAt_of_children (Group.AllAt.first allAt) isCode ?_
  intro child isChild
  rcases List.mem_append.1 isChild with isName | isBody
  · rw [Option.mem_toList] at isName
    unfold definitionName? at isName
    split at isName
    next keyword name rest found =>
      obtain rfl := Option.some.inj isName
      have inLine : name ∈ line.groups := by
        apply (List.dropWhile_sublist _).subset
        rw [found]
        simp
      exact (isCodeAt_leaf (allAt.of_mem inLine).first (by simp)).withRole _
    · contradiction
  · rw [List.mem_singleton.1 isBody]
    exact bodyAt

theorem isCodeAt_decoratorNode {line : LogicalLine} (allAt : Group.AllAt starts line.groups) :
    (decoratorNode line).IsCodeAt starts := by
  refine isCodeAt_of_children (Group.AllAt.first allAt) (by simp [decoratorNode]) ?_
  intro child isChild
  refine isCodeAt_of_mem_nodesOfParts isCodeAt_valueNode ?_ isChild
  intro part isPart
  rw [List.mem_singleton.1 isPart]
  exact allAt.subset (List.subset_cons_self _ _)

theorem isCodeAt_decorate {decorators : List Node} {definition : Node}
    (decoratorsAt : ∀ node ∈ decorators, node.IsCodeAt starts)
    (definitionAt : definition.IsCodeAt starts) :
    (decorate decorators definition).IsCodeAt starts := by
  cases decorators with
  | nil => exact definitionAt
  | cons first rest =>
      refine isCodeAt_of_children (decoratorsAt first List.mem_cons_self).self.1
        (by simp [decorate]) ?_
      intro child isChild
      rcases List.mem_append.1 isChild with isDecorator | isDefinition
      · exact decoratorsAt child isDecorator
      · rw [List.mem_singleton.1 isDefinition]
        exact definitionAt.withRole .definition

mutual

/-- The nodes of a line and its block begin at tokens of these lines, and so do decorators that are
still without their definition. -/
theorem isCodeAt_lineNodes (inMatch : Bool) : ∀ (outline : Outline) (decorators : List Node),
    (∀ node ∈ decorators, node.IsCodeAt starts) →
      (∀ line ∈ outline.lines, Group.AllAt starts line.groups) →
        (∀ node ∈ (lineNodes inMatch decorators outline).1, node.IsCodeAt starts) ∧
          ∀ node ∈ (lineNodes inMatch decorators outline).2, node.IsCodeAt starts
  | .line line block, decorators, decoratorsAt, linesAt => by
      rw [Outline.lines, List.forall_mem_cons] at linesAt
      obtain ⟨lineAt, blockAt⟩ := linesAt
      have bodyAt : (blockNode line.first.first.start
          (simpleStatements (afterHeader line) ++
            blockNodes (Header.of inMatch line == .matching) [] block)).IsCodeAt starts := by
        apply isCodeAt_blockNode (Group.AllAt.first lineAt)
        intro node isNode
        rcases List.mem_append.1 isNode with onLine | inBlock
        · exact isCodeAt_simpleStatements (allAt_afterHeader lineAt) node onLine
        · exact isCodeAt_blockNodes _ block [] (by simp) blockAt node inBlock
      unfold lineNodes
      simp only
      -- The header decides only what the body is wrapped in.
      generalize blockNode line.first.first.start (simpleStatements (afterHeader line) ++
        blockNodes (Header.of inMatch line == .matching) [] block) = body at bodyAt ⊢
      have compound : ∀ kind : NodeKind, kind ≠ .comment →
          (⟨kind, none, line.first.first.start, "", [body]⟩ : Node).IsCodeAt starts := by
        intro kind isCode
        refine isCodeAt_of_children (Group.AllAt.first lineAt) isCode ?_
        intro child isChild
        rw [List.mem_singleton.1 isChild]
        exact bodyAt
      have definition : ∀ kind : NodeKind, kind ≠ .comment →
          (decorate decorators (definitionNode kind line body)).IsCodeAt starts :=
        fun kind isCode =>
          isCodeAt_decorate decoratorsAt (isCodeAt_definitionNode isCode lineAt bodyAt)
      split
      · exact ⟨isCodeAt_simpleStatements lineAt, by simp⟩
      · exact ⟨by simpa using compound .statement (by simp), by simp⟩
      · exact ⟨by simpa using compound .statement (by simp), by simp⟩
      · exact ⟨by simpa using compound .clause (by simp), by simp⟩
      · exact ⟨by simpa using definition .classDefinition (by simp), by simp⟩
      · exact ⟨by simpa using definition .functionDefinition (by simp), by simp⟩
      · refine ⟨by simp, ?_⟩
        intro node isNode
        rcases List.mem_append.1 isNode with wasThere | isNew
        · exact decoratorsAt node wasThere
        · rw [List.mem_singleton.1 isNew]
          exact isCodeAt_decoratorNode lineAt

theorem isCodeAt_blockNodes (inMatch : Bool) : ∀ (block : List Outline) (decorators : List Node),
    (∀ node ∈ decorators, node.IsCodeAt starts) →
      (∀ line ∈ linesOfAll block, Group.AllAt starts line.groups) →
        ∀ node ∈ blockNodes inMatch decorators block, node.IsCodeAt starts
  | [], _, _, _ => by simp [blockNodes]
  | outline :: rest, decorators, decoratorsAt, linesAt => by
      rw [linesOfAll, List.forall_mem_append] at linesAt
      obtain ⟨nodesAt, waitingAt⟩ :=
        isCodeAt_lineNodes inMatch outline decorators decoratorsAt linesAt.1
      rw [blockNodes]
      intro node isNode
      rcases List.mem_append.1 isNode with here | later
      · exact nodesAt node here
      · exact isCodeAt_blockNodes inMatch rest _ waitingAt linesAt.2 node later

end

end Starts

end Annotations.Source
