import Annotations.Proofs.Source.Ascent
import Annotations.Proofs.Source.Nodes

/-!
Contract: the nodes of a statement stand in the order of its tokens.

Nodes that a walk can find are built of groups of a line and begin at the first
of them, each at a token of its own. A node is made before those below it, and
parts are cut from left to right. So the starts of these nodes are starts of
tokens, in the order of the tokens.

Owns:
- `Group.starts`, where the tokens of groups begin;
- `KeepsOrder`, nodes that begin at places in their order, and a lemma for each
  kind of expression and simple statement.

Does not own: definitions and blocks; see `Annotations.Proofs.Source.Blocks`.
-/

namespace Annotations.Source

/-! ## Places of groups -/

def Group.starts (groups : List Group) : List Position :=
  (tokensOfAll groups).map Token.start

namespace Group

theorem starts_append (left right : List Group) :
    starts (left ++ right) = starts left ++ starts right := by
  unfold starts
  rw [tokensOfAll_append, List.map_append]

theorem starts_cons (group : Group) (rest : List Group) :
    starts (group :: rest) = starts [group] ++ starts rest :=
  starts_append [group] rest

/-- A group begins at its first token. -/
theorem exists_starts_cons (group : Group) (rest : List Group) :
    ∃ inside, starts (group :: rest) = group.first.start :: (inside ++ starts rest) := by
  rw [starts_cons]
  cases group with
  | leaf token => exact ⟨[], rfl⟩
  | bracket opening items closing =>
      exact ⟨(tokensOfAll items ++ closing.toList).map Token.start,
        by simp [starts, tokensOfAll, tokens, first]⟩

theorem starts_sublist {groups more : List Group} (inside : groups.Sublist more) :
    (starts groups).Sublist (starts more) := by
  induction inside with
  | slnil => exact .refl _
  | cons group _ inductionHypothesis =>
      rw [starts_cons]
      exact inductionHypothesis.trans (List.sublist_append_right _ _)
  | @cons_cons within more group _ inductionHypothesis =>
      rw [starts_cons group within, starts_cons group more]
      exact (List.Sublist.refl _).append inductionHypothesis

theorem starts_items_sublist (opening : Token) (items : List Group) (closing : Option Token) :
    (starts items).Sublist (starts [.bracket opening items closing]) := by
  unfold starts
  simp only [tokensOfAll, tokens, List.append_nil]
  exact ((List.sublist_append_left _ _).trans (List.sublist_cons_self _ _)).map Token.start

/-- What is drawn from the groups after the first begins after the first. -/
theorem cons_sublist_starts {places : List Position} (group : Group) {rest : List Group}
    (inside : places.Sublist (starts rest)) :
    (group.first.start :: places).Sublist (starts (group :: rest)) := by
  obtain ⟨within, starts⟩ := exists_starts_cons group rest
  rw [starts]
  exact (inside.trans (List.sublist_append_right within _)).cons_cons _

end Group

theorem flatten_cutAll_sublist (separates : Group → Bool) (lambdas : Nat)
    (current groups : List Group) :
    (cutAll separates lambdas current groups).flatten.Sublist (current.reverse ++ groups) := by
  induction groups generalizing lambdas current with
  | nil => simp [cutAll]
  | cons group rest inductionHypothesis =>
      unfold cutAll
      split
      · rw [List.flatten_cons]
        exact (List.Sublist.refl _).append ((inductionHypothesis 0 []).cons group)
      · simpa using inductionHypothesis (lambdasAfter lambdas group) (group :: current)

/-- The parts of a cut lie one after the other in what is cut. -/
theorem flatten_cutAt_sublist (symbol : String) (groups : List Group) :
    (cutAt symbol groups).flatten.Sublist groups :=
  flatten_cutAll_sublist _ _ [] groups

/-! ## Nodes that keep the order -/

/-- The findable nodes of some trees begin at places among these, in their order and each at a place
of its own, and in assignments left sides stand before right sides. -/
structure KeepsOrder (nodes : List Node) (places : List Position) : Prop where
  starts : (findableStarts nodes).Sublist places
  sides : SidesInOrder nodes

namespace KeepsOrder

variable {nodes : List Node} {places : List Position}

theorem nil (places : List Position) : KeepsOrder [] places :=
  ⟨List.nil_sublist places, sidesInOrder_nil⟩

theorem mono {more : List Position} (keeps : KeepsOrder nodes places)
    (inside : places.Sublist more) : KeepsOrder nodes more :=
  ⟨keeps.starts.trans inside, keeps.sides⟩

theorem append {later : List Node} {further : List Position} (keeps : KeepsOrder nodes places)
    (keepsLater : KeepsOrder later further) : KeepsOrder (nodes ++ later) (places ++ further) where
  starts := by
    rw [findableStarts_append]
    exact keeps.starts.append keepsLater.starts
  sides := sidesInOrder_append_iff.2 ⟨keeps.sides, keepsLater.sides⟩

/-- A node that is no assignment begins before those below it. -/
theorem ofNode (node : Node) (keeps : KeepsOrder node.children places)
    (isOther : node.kind ≠ .assignment) : KeepsOrder [node] (node.start :: places) where
  starts := by
    rw [findableStarts_singleton]
    split
    · exact keeps.starts.cons_cons node.start
    · exact keeps.starts.cons node.start
  sides := sidesInOrder_singleton_iff.2
    ⟨fun isAssignment => absurd isAssignment isOther, keeps.sides⟩

/-- A node that cannot be found takes up no place. -/
theorem ofHidden {node : Node} (keeps : KeepsOrder node.children places)
    (isHidden : node.isFindable = false)
    (leftFirst : node.kind = .assignment → node.HasLeftFirst) : KeepsOrder [node] places where
  starts := by
    rw [findableStarts_singleton, isHidden]
    exact keeps.starts
  sides := sidesInOrder_singleton_iff.2 ⟨leftFirst, keeps.sides⟩

/-- The role of a node is not looked at. -/
theorem withRole {node : Node} (keeps : KeepsOrder [node] places) (role : Role) :
    KeepsOrder [node.withRole role] places where
  starts := by
    have starts := keeps.starts
    rw [findableStarts_singleton] at starts ⊢
    exact starts
  sides := by
    obtain ⟨leftFirst, below⟩ := sidesInOrder_singleton_iff.1 keeps.sides
    exact sidesInOrder_singleton_iff.2 ⟨leftFirst, below⟩

theorem ofParts {toNode : Group → List Group → Node} {parts : List (List Group)}
    (built : ∀ first rest, KeepsOrder [toNode first rest] (Group.starts (first :: rest))) :
    KeepsOrder (nodesOfParts toNode parts) (Group.starts parts.flatten) := by
  induction parts with
  | nil => exact .nil _
  | cons part rest inductionHypothesis =>
      rw [List.flatten_cons, Group.starts_append]
      cases part with
      | nil => exact inductionHypothesis
      | cons first groups => exact (built first groups).append inductionHypothesis

theorem ofCut {toNode : Group → List Group → Node} (symbol : String) (groups : List Group)
    (built : ∀ first rest, KeepsOrder [toNode first rest] (Group.starts (first :: rest))) :
    KeepsOrder (nodesOfParts toNode (cutAt symbol groups)) (Group.starts groups) :=
  (ofParts built).mono (Group.starts_sublist (flatten_cutAt_sublist symbol groups))

/-- A node without children that begins with its groups. -/
theorem ofLeaf {kind : NodeKind} (isOther : kind ≠ .assignment) (first : Group)
    (groups rest : List Group) :
    KeepsOrder [nodeAt kind first groups []] (Group.starts (first :: rest)) := by
  have keeps : KeepsOrder [nodeAt kind first groups []] [first.first.start] :=
    ofNode _ (.nil []) isOther
  exact keeps.mono (Group.cons_sublist_starts first (List.nil_sublist _))

end KeepsOrder

/-! ## Expressions -/

theorem keepsOrder_argumentNode (first : Group) (rest : List Group) :
    KeepsOrder [argumentNode first rest] (Group.starts (first :: rest)) := by
  unfold argumentNode
  apply KeepsOrder.ofLeaf
  split
  · simp
  · split
    · simp
    · split
      · simp
      · split
        next kind shape => exact (isOfExpression_of_plain shape).noAssignment
        · simp

theorem keepsOrder_argumentsNode (bracket : Group) :
    KeepsOrder [argumentsNode bracket] (Group.starts [bracket]) := by
  cases bracket with
  | leaf token => exact .ofLeaf (by simp) _ _ []
  | bracket opening items closing =>
      unfold argumentsNode
      simp only
      split
      · exact .ofLeaf (by simp) _ _ []
      · refine KeepsOrder.ofHidden ?_ rfl nofun
        exact (KeepsOrder.ofCut "," items keepsOrder_argumentNode).mono
          (Group.starts_items_sublist opening items closing)

theorem keepsOrder_expressionNode (first : Group) (rest : List Group) :
    KeepsOrder [expressionNode first rest] (Group.starts (first :: rest)) := by
  unfold expressionNode
  simp only
  split
  next kind shape => exact .ofLeaf (isOfExpression_of_plain shape).noAssignment first _ rest
  next function arguments shape =>
    have inRest : (Group.starts [arguments]).Sublist (Group.starts rest) :=
      Group.starts_sublist (List.singleton_sublist.2 (arguments_mem_of_call shape))
    have function : KeepsOrder [(nodeAt .expression first function []).withRole .function] [] :=
      (KeepsOrder.ofHidden (.nil []) rfl (by simp [nodeAt])).withRole .function
    have below := function.append ((keepsOrder_argumentsNode arguments).withRole .arguments)
    have call := KeepsOrder.ofNode (nodeAt .call first (first :: rest) [_, _]) below
      (by simp [nodeAt])
    exact call.mono (Group.cons_sublist_starts first inRest)

/-! ## Simple statements -/

theorem keepsOrder_patternItem (first : Group) (rest : List Group) :
    KeepsOrder [patternItem first rest] (Group.starts (first :: rest)) := by
  unfold patternItem
  apply KeepsOrder.ofLeaf
  split <;> simp

theorem keepsOrder_targetNode (first : Group) (rest : List Group) :
    KeepsOrder [targetNode first rest] (Group.starts (first :: rest)) := by
  unfold targetNode
  simp only
  split
  · exact KeepsOrder.ofHidden (.ofCut "," _ keepsOrder_patternItem) rfl (by simp [nodeAt])
  · split
    next opening items closing _ =>
      split
      · refine KeepsOrder.ofHidden ?_ rfl (by simp [nodeAt])
        exact (KeepsOrder.ofCut "," items keepsOrder_patternItem).mono
          (Group.starts_items_sublist opening items closing)
      · exact .ofLeaf (by simp) _ _ []
    · exact keepsOrder_patternItem first rest

theorem keepsOrder_valueNode (first : Group) (rest : List Group) :
    KeepsOrder [valueNode first rest] (Group.starts (first :: rest)) :=
  .ofLeaf (by simp) first _ rest

/-- The targets of a chain of assignments follow each other, each a left side with its right side
after it. -/
theorem keepsOrder_assignmentNode {left : Node} {places : List Position}
    (parts : List (List Group)) (keeps : KeepsOrder [left] places) :
    KeepsOrder [assignmentNode left parts] (places ++ Group.starts parts.flatten) := by
  induction parts generalizing left places with
  | nil =>
      refine KeepsOrder.ofHidden ?_ rfl fun _ => List.pairwise_singleton _ _
      exact (keeps.withRole .left).mono (List.sublist_append_left _ _)
  | cons part rest inductionHypothesis =>
      cases part with
      | nil => exact inductionHypothesis keeps
      | cons first groups =>
          rw [List.flatten_cons, Group.starts_append]
          have leftFirst : ∀ right : Node,
              [left.withRole .left, right.withRole .right].Pairwise fun earlier later =>
                ¬ (earlier.role = some .right ∧ later.role = some .left) := by
            intro right
            simp [Node.withRole]
          refine KeepsOrder.ofHidden ((keeps.withRole .left).append (KeepsOrder.withRole ?_ .right))
            rfl fun _ => leftFirst _
          split
          · exact (keepsOrder_valueNode first groups).mono (List.sublist_append_left _ _)
          · exact inductionHypothesis (keepsOrder_targetNode first groups)

theorem keepsOrder_expressionChildren (first : Group) (rest : List Group) :
    KeepsOrder (expressionChildren first rest) (Group.starts (first :: rest)) := by
  have alone : KeepsOrder [nodeAt .expression first (first :: rest) []]
      (Group.starts (first :: rest)) := .ofLeaf (by simp) first _ rest
  unfold expressionChildren
  simp only
  split
  · exact alone
  · split
    · exact .ofCut "," _ keepsOrder_expressionNode
    · exact alone
    next target more sign after cut =>
      have whole : (Group.starts (target :: more) ++ Group.starts after).Sublist
          (Group.starts (first :: rest)) := by
        rw [append_of_cutFirst? cut, Group.starts_append]
        exact (List.Sublist.refl _).append
          (Group.starts_sublist (List.sublist_cons_self sign after))
      have chain : ∀ parts : List (List Group), parts.flatten.Sublist (cutAt "=" after).flatten →
          KeepsOrder [assignmentNode (targetNode target more) parts]
            (Group.starts (first :: rest)) := by
        intro parts inside
        have inAfter := inside.trans (flatten_cutAt_sublist "=" after)
        exact (keepsOrder_assignmentNode parts (keepsOrder_targetNode target more)).mono
          (((List.Sublist.refl _).append (Group.starts_sublist inAfter)).trans whole)
      split
      · exact chain _ (List.Sublist.refl _)
      · split
        · refine chain _ ?_
          cases cutAt "=" after with
          | nil => exact .refl _
          | cons part parts => exact List.sublist_append_right part parts.flatten
        · exact alone

theorem keepsOrder_simpleStatement (first : Group) (rest : List Group) :
    KeepsOrder [simpleStatement first rest] (Group.starts (first :: rest)) := by
  unfold simpleStatement
  split
  · exact KeepsOrder.ofHidden (.nil _) rfl nofun
  · exact KeepsOrder.ofHidden (keepsOrder_expressionChildren first rest) rfl nofun

theorem keepsOrder_simpleStatements (groups : List Group) :
    KeepsOrder (simpleStatements groups) (Group.starts groups) :=
  .ofCut ";" groups keepsOrder_simpleStatement

end Annotations.Source
