import Annotations.Source.Reader
import Annotations.Proofs.Source.Nodes
import Annotations.Proofs.Source.Tokens
import Annotations.Proofs.Suppression.Ranges

/-!
Contract: what is read of a source stands on lines of the source.

A node begins with a character that is no line feed, so its row is that of a line
that is counted. A comment runs to the end of its line and therefore shares it
with no other comment. Hence the ranges that comments disable end inside the
source, and those of one rule share no line.

Owns:
- `Node.IsTreeOf`, what is asked of a tree of a source, and `isTreeOf_moduleNode`;
- `SourceUnit.IsWellPlaced` and `SourceUnit.isWellPlaced_of_source`.

Does not own: which declarations, calls and comments are found; see
`Annotations.Proofs.Source.Walk`.
-/

namespace Annotations.Source

/-! ## Rows -/

/-- A character that is no line feed stands on a line that is counted. -/
theorem row_lt_countLines {before after : List Char} {c : Char} (noBreak : c ≠ '\n') :
    (Position.after ⟨0, 0⟩ before).row < countLines (before ++ c :: after) := by
  have lastOf : (before ++ c :: after).getLast? = (c :: after).getLast? :=
    List.getLast?_append_of_ne_nil before (by simp)
  have notEmpty : (before ++ c :: after).isEmpty = false := by simp
  rw [Position.row_after]
  simp only [countLines, List.count_append, List.count_cons_of_ne noBreak, notEmpty, lastOf,
    Bool.false_or, decide_eq_true_eq]
  by_cases endsInBreak : (c :: after).getLast? = some '\n'
  · have isBreak : '\n' ∈ after :=
      (List.mem_cons.1 (List.mem_of_getLast? endsInBreak)).resolve_left (Ne.symm noBreak)
    have counted : 0 < after.count '\n' := List.count_pos_iff.2 isBreak
    rw [if_pos endsInBreak]
    omega
  · rw [if_neg endsInBreak]
    omega

/-- Where a text runs to the end of its line, what begins after it begins on a later line. -/
theorem row_lt_of_prefix {before text after other rest : List Char} {c : Char}
    (split : before ++ text ++ after = other ++ c :: rest) (noBreak : c ≠ '\n')
    (toLineEnd : ∀ c ∈ after.head?, c = '\n') (isAfter : before ++ text <+: other) :
    (Position.after ⟨0, 0⟩ before).row < (Position.after ⟨0, 0⟩ other).row := by
  obtain ⟨gap, rfl⟩ := isAfter
  rw [List.append_assoc (before ++ text), List.append_cancel_left_eq] at split
  cases gap with
  | nil => exact absurd (toLineEnd c (by simp [split])) noBreak
  | cons first gap =>
      have isBreak : first = '\n' := toLineEnd first (by simp [split])
      rw [Position.row_after, Position.row_after, isBreak]
      simp only [List.count_append, List.count_cons_self]
      omega

/-- On one row it cannot begin after the text. -/
theorem not_after_on_row {before text after other rest : List Char} {c : Char}
    (split : before ++ text ++ after = other ++ c :: rest) (nonempty : text ≠ [])
    (noBreak : c ≠ '\n') (toLineEnd : ∀ c ∈ after.head?, c = '\n')
    (sameRow : (Position.after ⟨0, 0⟩ before).row = (Position.after ⟨0, 0⟩ other).row) :
    ¬ (Position.after ⟨0, 0⟩ before).column + text.length ≤
      (Position.after ⟨0, 0⟩ other).column := by
  intro isAfter
  have positive : 0 < text.length := List.length_pos_iff.2 nonempty
  have noneBetween : ∀ {first second : List Char},
      (Position.after ⟨0, 0⟩ first).row = (Position.after ⟨0, 0⟩ (first ++ second)).row →
        '\n' ∉ second := by
    intro first second same
    rw [Position.row_after, Position.row_after, List.count_append] at same
    rw [← List.count_eq_zero]
    omega
  have parts := split
  rw [List.append_assoc] at parts
  rcases List.append_eq_append_iff.1 parts with ⟨more, rfl, further⟩ | ⟨more, rfl, -⟩
  · rw [Position.after_append, Position.column_after _ (noneBetween sameRow)] at isAfter
    rcases List.append_eq_append_iff.1 further with ⟨gap, rfl, -⟩ | ⟨cut, rfl, -⟩
    · have later := row_lt_of_prefix split noBreak toLineEnd ⟨gap, by simp⟩
      omega
    · cases cut with
      | nil =>
          have later := row_lt_of_prefix split noBreak toLineEnd ⟨[], by simp⟩
          omega
      | cons first cut =>
          rw [List.length_append, List.length_cons] at isAfter
          omega
  · rw [Position.after_append, Position.column_after _ (noneBetween sameRow.symm)] at isAfter
    omega

/-! ## Trees of a source -/

/-- The node is not empty: it is a definition or a call, which hold a word or a bracket, or has a
text. -/
def Node.IsNonempty (node : Node) : Prop :=
  node.kind = .classDefinition ∨ node.kind = .functionDefinition ∨ node.kind = .call ∨
    node.text ≠ ""

/-- What is asked of a tree of a source. Nodes that are not empty begin in the source with a
character that is no line feed; a comment begins with `#` and runs to the next line feed or to the
end; and no two comments on one row overlap. -/
structure Node.IsTreeOf (root : Node) (source : List Char) : Prop where
  placed : ∀ node ∈ root.preorder, node.IsNonempty → StartsIn source node.start
  comments : ∀ node ∈ root.preorder, node.kind = .comment →
    ∃ before, PlacedComment.StandsIn ⟨node.text.toList, node.start⟩ source before
  apart : (root.preorder.filter fun node => node.kind = .comment).Pairwise fun left right =>
    left.start.row = right.start.row →
      left.start.column + left.text.length ≤ right.start.column ∨
        right.start.column + right.text.length ≤ left.start.column

/-- A name with the shape of a constant's has a text. -/
theorem Node.IsDeclaring.isNonempty {node : Node} (declares : node.IsDeclaring) :
    node.IsNonempty := by
  rcases declares with isClass | isFunction | ⟨-, isConstant⟩
  · exact Or.inl isClass
  · exact Or.inr (Or.inl isFunction)
  · refine Or.inr (Or.inr (Or.inr ?_))
    intro isEmpty
    rw [isEmpty] at isConstant
    contradiction

namespace Node.IsTreeOf

variable {root : Node} {source : List Char}

theorem line_inside (isTree : root.IsTreeOf source) {node : Node} (isNode : node ∈ root.preorder)
    (isNonempty : node.IsNonempty) : 1 ≤ node.line ∧ node.line ≤ countLines source := by
  obtain ⟨before, c, after, rfl, noBreak, starts⟩ := isTree.placed node isNode isNonempty
  have onLine : node.start.row < countLines (before ++ c :: after) :=
    starts ▸ row_lt_countLines noBreak
  unfold Node.line
  omega

theorem isNonempty_of_comment (isTree : root.IsTreeOf source) {node : Node}
    (isNode : node ∈ root.preorder) (isComment : node.kind = .comment) : node.IsNonempty := by
  obtain ⟨before, stands⟩ := isTree.comments node isNode isComment
  obtain ⟨remark, isText, -⟩ := stands.remark
  refine Or.inr (Or.inr (Or.inr ?_))
  intro isEmpty
  simp [isEmpty] at isText

theorem pairwise_comments (isTree : root.IsTreeOf source) :
    (root.preorder.filter fun node => node.kind = .comment).Pairwise fun left right =>
      left.start.row ≠ right.start.row := by
  refine isTree.apart.imp_of_mem ?_
  intro left right isLeft isRight apart sameRow
  obtain ⟨leftIn, leftComment⟩ := List.mem_filter.1 isLeft
  obtain ⟨rightIn, rightComment⟩ := List.mem_filter.1 isRight
  obtain ⟨before, starts, ⟨remark, isText, -⟩, after, split, toLineEnd⟩ :=
    isTree.comments left leftIn (of_decide_eq_true leftComment)
  obtain ⟨before', starts', ⟨remark', isText', -⟩, after', split', toLineEnd'⟩ :=
    isTree.comments right rightIn (of_decide_eq_true rightComment)
  simp only at starts starts' isText isText'
  have sameSplit : before ++ left.text.toList ++ after =
      before' ++ right.text.toList ++ after' := split ▸ split'
  rw [starts, starts', ← String.length_toList, ← String.length_toList] at apart
  rw [starts, starts'] at sameRow
  rw [isText, isText'] at sameSplit apart
  rcases apart sameRow with leftFirst | rightFirst
  · have thenRight : before ++ '#' :: remark ++ after = before' ++ '#' :: (remark' ++ after') := by
      rw [sameSplit, List.append_assoc, List.cons_append]
    exact not_after_on_row thenRight (by simp) (by decide) toLineEnd sameRow leftFirst
  · have thenLeft : before' ++ '#' :: remark' ++ after' = before ++ '#' :: (remark ++ after) := by
      rw [← sameSplit, List.append_assoc, List.cons_append]
    exact not_after_on_row thenLeft (by simp) (by decide) toLineEnd' sameRow.symm rightFirst

/-- The comments of a source stand on lines of their own, one below the other. -/
theorem ascending_comments (isTree : root.IsTreeOf source) (lines : List (List Char)) :
    (collectComments lines root).Pairwise fun left right => left.line < right.line := by
  have collected : (collectCommentNodes [root]).Sublist
      (root.preorder.filter fun node => node.kind = .comment) := by
    have inPreorder := collectCommentNodes_sublist [root]
    rwa [preorderAll, preorderAll, List.append_nil] at inPreorder
  have distinct : ((collectCommentNodes [root]).map (commentOf lines)).Pairwise
      fun left right => left.line ≠ right.line := by
    rw [List.pairwise_map]
    refine (isTree.pairwise_comments.sublist collected).imp ?_
    intro left right otherRow sameLine
    have sameRow : (left.start.row : Int) + 1 = right.start.row + 1 := sameLine
    omega
  have sorted := pairwise_sortByLine Comment.line
    ((collectCommentNodes [root]).map (commentOf lines))
  have sortedDistinct : (collectComments lines root).Pairwise
      fun left right => left.line ≠ right.line :=
    distinct.perm (List.mergeSort_perm _ _).symm Ne.symm
  exact (sorted.and sortedDistinct).imp fun both => Int.lt_iff_le_and_ne.2 both

end Node.IsTreeOf

/-! ## The tree that is built -/

namespace StandBetween

variable {source left right : List Char} {comments : List PlacedComment}

theorem exists_standsIn (between : StandBetween source left right comments) :
    ∀ comment ∈ comments, ∃ before, left <+: before ∧ comment.StandsIn source before := by
  induction between with
  | nil => simp
  | @cons left before right comment rest ascending stands _ inductionHypothesis =>
      refine List.forall_mem_cons.2 ⟨⟨before, ascending, stands⟩, ?_⟩
      intro other isOther
      obtain ⟨further, isAfter, otherStands⟩ := inductionHypothesis other isOther
      exact ⟨further, (ascending.trans (List.prefix_append _ _)).trans isAfter, otherStands⟩

theorem pairwise_rows (between : StandBetween source left right comments) :
    comments.Pairwise fun left right => left.start.row < right.start.row := by
  induction between with
  | nil => exact .nil
  | @cons left before right comment rest _ stands later inductionHypothesis =>
      refine .cons ?_ inductionHypothesis
      intro other isOther
      obtain ⟨further, isAfter, starts, ⟨remark, isText, -⟩, after', split', -⟩ :=
        later.exists_standsIn other isOther
      obtain ⟨after, split, toLineEnd⟩ := stands.lineEnd
      rw [stands.start, starts]
      rw [split, isText, List.append_assoc further, List.cons_append] at split'
      exact row_lt_of_prefix split' (by decide) toLineEnd isAfter

end StandBetween

theorem PlacedComment.StandsIn.startsIn {comment : PlacedComment} {source before : List Char}
    (stands : comment.StandsIn source before) : StartsIn source comment.start := by
  obtain ⟨starts, ⟨remark, isText, -⟩, after, split, -⟩ := stands
  refine ⟨before, '#', remark ++ after, ?_, by decide, starts⟩
  rw [split, isText, List.append_assoc, List.cons_append]

/-- The statements of a source begin at its tokens. -/
theorem isCodeAt_statements (source : List Char) :
    ∀ node ∈ blockNodes false [] (Outline.ofLines (LogicalLine.ofGroups (Group.ofTokens
      (Token.read source).1))), node.IsCodeAt (StartsIn source) := by
  refine isCodeAt_blockNodes false _ [] (by simp) ?_
  intro line isLine token isToken
  apply (reads_cut source).1 token
  rw [← flatMap_tokens_ofLines (Token.read source).1]
  exact List.mem_flatMap.2 ⟨line, isLine, isToken⟩

theorem preorderAll_commentNodes (comments : List PlacedComment) :
    preorderAll (comments.map commentNode) = comments.map commentNode := by
  induction comments with
  | nil => rfl
  | cons comment rest inductionHypothesis =>
      rw [List.map_cons, preorderAll, inductionHypothesis]
      rfl

/-- The tree that is built of a source is a tree of the source. -/
theorem isTreeOf_moduleNode (source : List Char) : (moduleNode source).IsTreeOf source := by
  obtain ⟨-, between⟩ := reads_cut source
  have statements : ∀ node ∈ preorderAll (blockNodes false [] (Outline.ofLines
      (LogicalLine.ofGroups (Group.ofTokens (Token.read source).1)))),
        StartsIn source node.start ∧ node.kind ≠ .comment := by
    intro node isNode
    obtain ⟨root, isRoot, below⟩ := mem_preorderAll_iff.1 isNode
    exact isCodeAt_statements source root isRoot node below
  have preorder : (moduleNode source).preorder = moduleNode source ::
      (preorderAll (blockNodes false [] (Outline.ofLines (LogicalLine.ofGroups (Group.ofTokens
        (Token.read source).1)))) ++ (Token.read source).2.map commentNode) := by
    rw [Node.preorder_eq, ← preorderAll_commentNodes, ← preorderAll_append]
    rfl
  constructor
  case placed =>
    intro node isNode isNonempty
    rw [preorder] at isNode
    rcases List.mem_cons.1 isNode with rfl | below
    · simp [Node.IsNonempty, moduleNode] at isNonempty
    · rcases List.mem_append.1 below with isCode | isAdded
      · exact (statements node isCode).1
      · obtain ⟨comment, isRead, rfl⟩ := List.mem_map.1 isAdded
        obtain ⟨before, -, stands⟩ := between.exists_standsIn comment isRead
        exact stands.startsIn
  case comments =>
    intro node isNode isComment
    rw [preorder] at isNode
    rcases List.mem_cons.1 isNode with rfl | below
    · contradiction
    · rcases List.mem_append.1 below with isCode | isAdded
      · exact absurd isComment (statements node isCode).2
      · obtain ⟨comment, isRead, rfl⟩ := List.mem_map.1 isAdded
        obtain ⟨before, -, stands⟩ := between.exists_standsIn comment isRead
        refine ⟨before, ?_⟩
        simpa [commentNode] using stands
  case apart =>
    -- The comments come after all statements, so their rows are compared with each other only.
    have onlyComments : ((moduleNode source).preorder.filter fun node => node.kind = .comment) =
        (Token.read source).2.map commentNode := by
      rw [preorder, List.filter_cons_of_neg (by simp [moduleNode]), List.filter_append,
        List.filter_eq_nil_iff.2, List.nil_append, List.filter_eq_self.2]
      · intro node isComment
        obtain ⟨comment, -, rfl⟩ := List.mem_map.1 isComment
        rfl
      · intro node isCode
        simpa using (statements node isCode).2
    rw [onlyComments, List.pairwise_map]
    refine between.pairwise_rows.imp ?_
    intro left right below sameRow
    exact absurd sameRow (Nat.ne_of_lt below)

end Annotations.Source

namespace Annotations

open Source

/-- All that a unit holds stands on its lines. Its comments stand one below the other, and under
every tag and set of known rules the ranges of a rule end inside the unit and share no line. -/
structure SourceUnit.IsWellPlaced (unit : SourceUnit) : Prop where
  declarations : ∀ declaration ∈ unit.declarations,
    1 ≤ declaration.line ∧ declaration.line ≤ unit.lineCount
  calls : ∀ call ∈ unit.calls, 1 ≤ call.line ∧ call.line ≤ unit.lineCount
  comments : ∀ comment ∈ unit.comments, 1 ≤ comment.line ∧ comment.line ≤ unit.lineCount
  ascending : unit.comments.Pairwise fun left right => left.line < right.line
  tracked : ∀ tracker : Tracker, ∃ ranges, tracker.processUnit unit = .ok ranges ∧
    Suppressions.AreApart ranges unit.lineCount

theorem one_le_countLines (source : List Char) : 1 ≤ countLines source := by
  unfold countLines
  exact Nat.le_max_right _ _

theorem SourceUnit.isWellPlaced_ofTree {source : List Char} {root : Node}
    (isTree : root.IsTreeOf source) (unitId : UnitId) (moduleName : String) :
    (SourceUnit.ofTree source root unitId moduleName).IsWellPlaced := by
  have found := comesFrom_walk (Namespace.ofModule moduleName) false root.children
  have below := preorderAll_subset_preorder root
  have comments : ∀ comment ∈ collectComments (splitLines source) root,
      1 ≤ comment.line ∧ comment.line ≤ countLines source := by
    intro comment isComment
    obtain ⟨node, isNode, rfl⟩ := List.mem_map.1 ((mem_sortByLine Comment.line).1 isComment)
    have isFound := (collectCommentNodes_sublist [root]).subset isNode
    rw [preorderAll, preorderAll, List.append_nil] at isFound
    obtain ⟨inTree, isComment⟩ := List.mem_filter.1 isFound
    exact isTree.line_inside inTree
      (isTree.isNonempty_of_comment inTree (of_decide_eq_true isComment))
  have ascending := isTree.ascending_comments (splitLines source)
  constructor
  case declarations =>
    intro declaration isFound
    obtain ⟨node, isNode, declares, onLine⟩ := found.declarations declaration isFound
    rw [onLine]
    exact isTree.line_inside (below isNode) declares.isNonempty
  case calls =>
    intro call isFound
    obtain ⟨node, isNode, isCall, onLine⟩ := found.calls call isFound
    rw [onLine]
    exact isTree.line_inside (below isNode) (Or.inr (Or.inr (Or.inl isCall)))
  case comments => exact comments
  case ascending => exact ascending
  case tracked =>
    intro tracker
    have hasLine := one_le_countLines source
    exact Suppressions.exists_areApart tracker (Int.ofNat_le.2 hasLine)
      (fun comment isComment => (comments comment isComment).2) ascending

/-- Whatever the octets of a source, what is read of them is well placed, and so is what any other
tree of a source contributes. -/
theorem SourceUnit.isWellPlaced_of_source (octets : List UInt8) (unitId : UnitId)
    (moduleName : String) :
    (SourceUnit.read octets unitId moduleName).IsWellPlaced ∧
      ∀ (source : List Char) (root : Node), root.IsTreeOf source →
        (SourceUnit.ofTree source root unitId moduleName).IsWellPlaced :=
  ⟨isWellPlaced_ofTree (isTreeOf_moduleNode _) unitId moduleName,
    fun _ _ isTree => isWellPlaced_ofTree isTree unitId moduleName⟩

/-- A comment in the code of a format string, and one that ends what it began. -/
private def hiddenComment : List Char :=
  "class Cart:\n  run(f'\x7ba # annotate: disable=A\n\x7d')\n# annotate: enable=A".toList

theorem hiddenComment_isWellPlaced :
    (moduleNode hiddenComment).IsTreeOf hiddenComment ∧
      (SourceUnit.ofTree hiddenComment (moduleNode hiddenComment) "a.py" "a").IsWellPlaced :=
  ⟨isTreeOf_moduleNode hiddenComment, (SourceUnit.isWellPlaced_of_source [] "a.py" "a").2
    hiddenComment _ (isTreeOf_moduleNode hiddenComment)⟩

end Annotations
