import Mathlib.Data.List.Lex
import Mathlib.Logic.Function.Iterate
import Annotations.Proofs.Sorting
import Annotations.Proofs.Source.Walk
import Annotations.Proofs.Text.Utf8
import Annotations.Source.Reader

/-!
Contract: the comments of a tree are those that a recursive traversal meets.

The loop keeps the trees that wait on a stack. Each turn takes the last of them
off and puts its children in its place, the first of them last, unless it is a
comment. What is found, together with what the traversals of the waiting trees
would find, never changes, and each turn takes one node off those that remain to
be visited.

Owns:

- `Collecting`, the loop, and `Node.outerComments`, the traversal;
- `Node.IsOuterComment`, comments by their places in the tree, and `IsTraversal`;
- `Comment.Records`, what a comment says of its node and of the octets before it;
- `collectComments_isTraversal`.
-/

namespace Annotations.Source

/-! ## The traversal -/

mutual

/-- The comment nodes of a tree, from left to right. Nothing below a comment is looked at. -/
def Node.outerComments : Node → List Node
  | ⟨kind, role, start, text, children⟩ =>
      if kind = .comment then [⟨kind, role, start, text, children⟩] else outerCommentsAll children

def outerCommentsAll : List Node → List Node
  | [] => []
  | node :: rest => node.outerComments ++ outerCommentsAll rest

end

mutual

def Node.visits : Node → Nat
  | ⟨kind, _, _, _, children⟩ => if kind = .comment then 1 else visitsAll children + 1

def visitsAll : List Node → Nat
  | [] => 0
  | node :: rest => node.visits + visitsAll rest

end

theorem Node.outerComments_eq (node : Node) :
    node.outerComments =
      if node.kind = .comment then [node] else outerCommentsAll node.children := by
  cases node
  rw [outerComments]

theorem Node.visits_eq (node : Node) :
    node.visits = if node.kind = .comment then 1 else visitsAll node.children + 1 := by
  cases node
  rw [visits]

theorem outerCommentsAll_append (left right : List Node) :
    outerCommentsAll (left ++ right) = outerCommentsAll left ++ outerCommentsAll right := by
  induction left with
  | nil => rfl
  | cons node rest inductionHypothesis =>
      rw [List.cons_append, outerCommentsAll, outerCommentsAll, inductionHypothesis,
        List.append_assoc]

theorem visitsAll_append (left right : List Node) :
    visitsAll (left ++ right) = visitsAll left + visitsAll right := by
  induction left with
  | nil => rw [List.nil_append, visitsAll, Nat.zero_add]
  | cons node rest inductionHypothesis =>
      rw [List.cons_append, visitsAll, visitsAll, inductionHypothesis, Nat.add_assoc]

theorem Node.visits_pos (node : Node) : 0 < node.visits := by
  rw [visits_eq]
  split <;> omega

theorem collectCommentNodes_eq_outerCommentsAll (stack : List Node) :
    collectCommentNodes stack = outerCommentsAll stack := by
  induction stack using collectCommentNodes.induct with
  | case1 => rw [collectCommentNodes, outerCommentsAll]
  | case2 role start text children rest inductionHypothesis =>
      rw [collectCommentNodes, if_pos rfl, outerCommentsAll, Node.outerComments, if_pos rfl,
        inductionHypothesis]
      rfl
  | case3 kind role start text children rest isOther inductionHypothesis =>
      rw [collectCommentNodes, if_neg isOther, outerCommentsAll, Node.outerComments,
        if_neg isOther, inductionHypothesis, outerCommentsAll_append]

/-! ## The loop -/

/-- The loop that collects comments: the trees that wait, the next of them last, and the comment
nodes found so far. -/
structure Collecting where
  waiting : List Node
  found : List Node

namespace Collecting

def start (root : Node) : Collecting :=
  ⟨[root], []⟩

/-- One turn: the last waiting tree is taken off. A comment is found; the children of any other node
wait in its place, the first of them last. -/
def turn (state : Collecting) : Collecting :=
  match state.waiting.getLast? with
  | none => state
  | some node =>
      if node.kind = .comment then ⟨state.waiting.dropLast, state.found ++ [node]⟩
      else ⟨state.waiting.dropLast ++ node.children.reverse, state.found⟩

/-- What is found in the end: what is found, and what the traversals of the waiting trees give. -/
def outcome (state : Collecting) : List Node :=
  state.found ++ outerCommentsAll state.waiting.reverse

def remaining (state : Collecting) : Nat :=
  visitsAll state.waiting.reverse

theorem remaining_eq_zero_iff {state : Collecting} : state.remaining = 0 ↔ state.waiting = [] := by
  unfold remaining
  rw [← List.reverse_eq_nil_iff]
  cases state.waiting.reverse with
  | nil => exact iff_of_true rfl rfl
  | cons node rest =>
      have visited := node.visits_pos
      rw [visitsAll]
      exact iff_of_false (by omega) (List.cons_ne_nil _ _)

theorem turn_of_ne_nil {state : Collecting} (waits : state.waiting ≠ []) :
    ∃ others node, state.waiting = others ++ [node] ∧ state.turn =
      if node.kind = .comment then ⟨others, state.found ++ [node]⟩
      else ⟨others ++ node.children.reverse, state.found⟩ := by
  refine ⟨_, _, (List.dropLast_concat_getLast waits).symm, ?_⟩
  rw [turn, List.getLast?_eq_some_getLast waits]

/-- A turn keeps the outcome. -/
theorem outcome_turn (state : Collecting) : state.turn.outcome = state.outcome := by
  by_cases waits : state.waiting = []
  · rw [turn, waits]
    rfl
  · obtain ⟨others, node, isLast, turned⟩ := turn_of_ne_nil waits
    have before : state.outcome =
        state.found ++ (node.outerComments ++ outerCommentsAll others.reverse) := by
      rw [outcome, isLast, List.reverse_concat, outerCommentsAll]
    rw [turned, before, node.outerComments_eq]
    split
    · rw [outcome, List.append_assoc]
    · rw [outcome, List.reverse_append, List.reverse_reverse, outerCommentsAll_append]

/-- A turn visits one node. -/
theorem remaining_turn (state : Collecting) : state.turn.remaining = state.remaining - 1 := by
  by_cases waits : state.waiting = []
  · have finished := remaining_eq_zero_iff.2 waits
    rw [turn, waits]
    change state.remaining = _
    omega
  · obtain ⟨others, node, isLast, turned⟩ := turn_of_ne_nil waits
    have before : state.remaining = node.visits + visitsAll others.reverse := by
      rw [remaining, isLast, List.reverse_concat, visitsAll]
    rw [turned, before, node.visits_eq]
    split
    · exact (Nat.add_sub_cancel_left ..).symm
    · rw [remaining, List.reverse_append, List.reverse_reverse, visitsAll_append]
      omega

theorem outcome_iterate (turns : Nat) (state : Collecting) :
    (turn^[turns] state).outcome = state.outcome := by
  induction turns with
  | zero => rfl
  | succ turns inductionHypothesis =>
      rw [Function.iterate_succ_apply', outcome_turn, inductionHypothesis]

theorem remaining_iterate (turns : Nat) (state : Collecting) :
    (turn^[turns] state).remaining = state.remaining - turns := by
  induction turns with
  | zero => rfl
  | succ turns inductionHypothesis =>
      rw [Function.iterate_succ_apply', remaining_turn, inductionHypothesis]
      omega

theorem waiting_iterate_eq_nil_iff {turns : Nat} {state : Collecting} :
    (turn^[turns] state).waiting = [] ↔ state.remaining ≤ turns := by
  rw [← remaining_eq_zero_iff, remaining_iterate, Nat.sub_eq_zero_iff_le]

/-- Once no tree waits, the outcome is found. -/
theorem iterate_remaining (state : Collecting) :
    turn^[state.remaining] state = ⟨[], state.outcome⟩ := by
  have finished : (turn^[state.remaining] state).waiting = [] :=
    waiting_iterate_eq_nil_iff.2 (Nat.le_refl _)
  have found : (turn^[state.remaining] state).found = state.outcome := by
    rw [← outcome_iterate state.remaining state, outcome, finished]
    exact (List.append_nil _).symm
  exact congrArg₂ Collecting.mk finished found

theorem remaining_start (root : Node) : (start root).remaining = root.visits := by
  change root.visits + 0 = _
  omega

theorem outcome_start (root : Node) : (start root).outcome = collectCommentNodes [root] :=
  (collectCommentNodes_eq_outerCommentsAll [root]).symm

end Collecting

/-! ## Places in a tree -/

/-- The node at an address: the way down from the root, as the indices of children. -/
def Node.at? : Node → List Nat → Option Node
  | root, [] => some root
  | root, index :: address => (root.children[index]?).bind fun child => child.at? address

/-- A comment stands at the address, and none above it. -/
def Node.IsOuterComment (root : Node) (address : List Nat) : Prop :=
  (∃ node, root.at? address = some node ∧ node.kind = .comment) ∧
    ∀ above, above <+: address → above ≠ address →
      ∀ node, root.at? above = some node → node.kind ≠ .comment

/-- The nodes are those of all outer comments of a tree, in preorder and each taken once: their
addresses ascend, a shorter one before those that it begins. -/
def IsTraversal (root : Node) (nodes : List Node) : Prop :=
  ∃ addresses : List (List Nat), addresses.Pairwise (· < ·) ∧
    (∀ address, address ∈ addresses ↔ root.IsOuterComment address) ∧
    addresses.map root.at? = nodes.map some

mutual

def Node.outerAddresses : Node → List (List Nat)
  | ⟨kind, _, _, _, children⟩ =>
      if kind = .comment then [[]] else outerAddressesFrom 0 children

def outerAddressesFrom (index : Nat) : List Node → List (List Nat)
  | [] => []
  | node :: rest =>
      node.outerAddresses.map (index :: ·) ++ outerAddressesFrom (index + 1) rest

end

theorem Node.outerAddresses_eq (node : Node) :
    node.outerAddresses =
      if node.kind = .comment then [[]] else outerAddressesFrom 0 node.children := by
  cases node
  rw [outerAddresses]

theorem mem_outerAddressesFrom_iff {address : List Nat} {index : Nat} {nodes : List Node} :
    address ∈ outerAddressesFrom index nodes ↔
      ∃ offset node below, nodes[offset]? = some node ∧ address = (index + offset) :: below ∧
        below ∈ node.outerAddresses := by
  induction nodes generalizing index with
  | nil => simp [outerAddressesFrom]
  | cons first rest inductionHypothesis =>
      rw [outerAddressesFrom, List.mem_append, List.mem_map, inductionHypothesis]
      constructor
      · intro isAddress
        rcases isAddress with ⟨below, isBelow, rfl⟩ | ⟨offset, node, below, isNode, rfl, isBelow⟩
        · exact ⟨0, first, below, rfl, rfl, isBelow⟩
        · refine ⟨offset + 1, node, below, isNode, ?_, isBelow⟩
          rw [Nat.add_right_comm, Nat.add_assoc]
      · intro isAddress
        obtain ⟨offset, node, below, isNode, rfl, isBelow⟩ := isAddress
        cases offset with
        | zero =>
            obtain rfl := Option.some.inj isNode
            exact Or.inl ⟨below, isBelow, rfl⟩
        | succ offset =>
            refine Or.inr ⟨offset, node, below, isNode, ?_, isBelow⟩
            rw [Nat.add_right_comm, Nat.add_assoc]

theorem Node.isOuterComment_nil_iff {root : Node} :
    root.IsOuterComment [] ↔ root.kind = .comment := by
  unfold IsOuterComment
  simp [at?]

theorem Node.at?_cons_eq_some_iff {root node : Node} {index : Nat} {below : List Nat} :
    root.at? (index :: below) = some node ↔
      ∃ child, root.children[index]? = some child ∧ child.at? below = some node := by
  rw [at?, Option.bind_eq_some_iff]

/-- A comment below a child is an outer one if it is one of the child, and the root is none. -/
theorem Node.isOuterComment_cons_iff {root : Node} {index : Nat} {below : List Nat} :
    root.IsOuterComment (index :: below) ↔
      root.kind ≠ .comment ∧ ∃ child, root.children[index]? = some child ∧
        child.IsOuterComment below := by
  constructor
  · intro isOuter
    obtain ⟨⟨node, found, isComment⟩, noneAbove⟩ := isOuter
    obtain ⟨child, isChild, foundBelow⟩ := at?_cons_eq_some_iff.1 found
    refine ⟨noneAbove [] List.nil_prefix (List.cons_ne_nil _ _).symm root rfl, child, isChild,
      ⟨node, foundBelow, isComment⟩, ?_⟩
    intro above isAbove isShorter other isOther
    exact noneAbove (index :: above) (List.cons_prefix_cons.2 ⟨rfl, isAbove⟩)
      (fun same => isShorter (List.cons.inj same).2) other
      (at?_cons_eq_some_iff.2 ⟨child, isChild, isOther⟩)
  · intro isOuter
    obtain ⟨rootIsOther, child, isChild, ⟨node, found, isComment⟩, noneAbove⟩ := isOuter
    refine ⟨⟨node, at?_cons_eq_some_iff.2 ⟨child, isChild, found⟩, isComment⟩, ?_⟩
    intro above isAbove isShorter other isOther
    cases above with
    | nil =>
        obtain rfl := Option.some.inj isOther
        exact rootIsOther
    | cons first above =>
        obtain ⟨rfl, aboveBelow⟩ := List.cons_prefix_cons.1 isAbove
        obtain ⟨sibling, isSibling, found⟩ := at?_cons_eq_some_iff.1 isOther
        obtain rfl := Option.some.inj (isChild.symm.trans isSibling)
        exact noneAbove above aboveBelow (fun same => isShorter (congrArg _ same)) other found

/-- The traversal meets the outer comments, all of them and nothing else. -/
theorem Node.mem_outerAddresses_iff {root : Node} {address : List Nat} :
    address ∈ root.outerAddresses ↔ root.IsOuterComment address := by
  induction address generalizing root with
  | nil =>
      rw [outerAddresses_eq, isOuterComment_nil_iff]
      split
      next isComment => exact iff_of_true List.mem_cons_self isComment
      next isOther =>
        rw [mem_outerAddressesFrom_iff]
        exact iff_of_false (by simp) isOther
  | cons index below inductionHypothesis =>
      rw [outerAddresses_eq, isOuterComment_cons_iff]
      split
      next isComment => exact iff_of_false (by simp) fun isOuter => isOuter.1 isComment
      next isOther =>
        rw [mem_outerAddressesFrom_iff]
        constructor
        · intro isAddress
          obtain ⟨offset, child, rest, isChild, same, isBelow⟩ := isAddress
          obtain ⟨rfl, rfl⟩ := List.cons.inj same
          rw [Nat.zero_add]
          exact ⟨isOther, child, isChild, inductionHypothesis.1 isBelow⟩
        · intro isOuter
          obtain ⟨-, child, isChild, isBelow⟩ := isOuter
          exact ⟨index, child, below, isChild, by rw [Nat.zero_add],
            inductionHypothesis.2 isBelow⟩

mutual

theorem Node.pairwise_outerAddresses : ∀ root : Node, root.outerAddresses.Pairwise (· < ·)
  | ⟨kind, role, start, text, children⟩ => by
      rw [Node.outerAddresses]
      split
      · exact List.pairwise_singleton _ _
      · exact pairwise_outerAddressesFrom 0 children

theorem pairwise_outerAddressesFrom : ∀ (index : Nat) (nodes : List Node),
    (outerAddressesFrom index nodes).Pairwise (· < ·)
  | _, [] => List.Pairwise.nil
  | index, node :: rest => by
      have below : (node.outerAddresses.map (index :: ·)).Pairwise (· < ·) :=
        node.pairwise_outerAddresses.map _ fun _ _ before =>
          List.cons_lt_cons_iff.2 (Or.inr ⟨rfl, before⟩)
      refine List.pairwise_append.2 ⟨below, pairwise_outerAddressesFrom (index + 1) rest, ?_⟩
      intro first isFirst later isLater
      obtain ⟨_, -, rfl⟩ := List.mem_map.1 isFirst
      obtain ⟨offset, _, _, -, rfl, -⟩ := mem_outerAddressesFrom_iff.1 isLater
      exact List.cons_lt_cons_iff.2 (Or.inl (by omega))

end

mutual

theorem Node.map_at?_outerAddresses : ∀ root : Node,
    root.outerAddresses.map root.at? = root.outerComments.map some
  | ⟨kind, role, start, text, children⟩ => by
      rw [Node.outerAddresses, Node.outerComments]
      split
      · rfl
      · apply map_outerAddressesFrom 0 children
        intro offset node below isNode
        rw [Node.at?, Nat.zero_add, isNode]
        rfl

theorem map_outerAddressesFrom : ∀ (index : Nat) (nodes : List Node)
    {read : List Nat → Option Node},
    (∀ offset node below, nodes[offset]? = some node →
      read ((index + offset) :: below) = node.at? below) →
    (outerAddressesFrom index nodes).map read = (outerCommentsAll nodes).map some
  | _, [], _, _ => rfl
  | index, node :: rest, read, reads => by
      have first : (node.outerAddresses.map (index :: ·)).map read =
          node.outerComments.map some := by
        rw [List.map_map, ← node.map_at?_outerAddresses]
        apply List.map_congr_left
        intro below _
        exact reads 0 node below rfl
      have later : (outerAddressesFrom (index + 1) rest).map read =
          (outerCommentsAll rest).map some := by
        apply map_outerAddressesFrom (index + 1) rest
        intro offset sibling below isSibling
        rw [Nat.add_right_comm, Nat.add_assoc]
        exact reads (offset + 1) sibling below isSibling
      rw [outerAddressesFrom, outerCommentsAll, List.map_append, List.map_append, first, later]

end

theorem isTraversal_outerComments (root : Node) : IsTraversal root root.outerComments :=
  ⟨root.outerAddresses, root.pairwise_outerAddresses, fun _ => Node.mem_outerAddresses_iff,
    root.map_at?_outerAddresses⟩

/-! ## Comments and the octets before them -/

def blankOctets : List UInt8 :=
  [9, 10, 11, 12, 13, 32]

/-- Octets that stand before a place on its line. The place counts the characters before it, and the
octets read as these. Beyond the last line there are none. -/
def StandsBefore (octets : List UInt8) (place : Position) (before : List UInt8) : Prop :=
  let line := ((octets.splitOn 10)[place.row]?).getD []
  before <+: line ∧
    Text.Utf8.decodeReplacing before = (Text.Utf8.decodeReplacing line).take place.column

/-- What a comment says of a node in a source of these octets. -/
structure Records (octets : List UInt8) (node : Node) (comment : Comment) : Prop where
  line : comment.line = node.start.row + 1
  text : comment.text = node.text
  placed : ∃ before, StandsBefore octets node.start before
  /-- It is trailing if octets before it on its line are not all ASCII whitespace. -/
  trailing : ∀ before, StandsBefore octets node.start before →
    (comment.trailing = true ↔ ∃ octet ∈ before, octet ∉ blankOctets)

theorem agreesOnAscii_blank :
    Text.Utf8.AgreesOnAscii true (fun c => !Text.isAsciiBlank c)
      (fun octet => octet ∉ blankOctets) where
  ascii := by decide
  character := by
    intro c isBeyond
    simp only [Text.isAsciiBlank]
    unfold Text.Utf8.IsBeyond at isBeyond
    grind
  octet := by decide +kernel

theorem splitLines_decodeReplacing (octets : List UInt8) :
    splitLines (Text.Utf8.decodeReplacing octets) =
      (octets.splitOn 10).map Text.Utf8.decodeReplacing :=
  Text.Utf8.splitOn_decodeReplacing octets

theorem records_commentOf (octets : List UInt8) (node : Node) :
    Records octets node
      (commentOf (splitLines (Text.Utf8.decodeReplacing octets)) node) where
  line := rfl
  text := rfl
  placed := by
    obtain ⟨before, begins, reads⟩ := Text.Utf8.exists_decodeReplacing_eq_take
      (((octets.splitOn 10)[node.start.row]?).getD []) node.start.column
    exact ⟨before, begins, reads⟩
  trailing := by
    intro before stands
    have sameLine : ((splitLines (Text.Utf8.decodeReplacing octets))[node.start.row]?).getD [] =
        Text.Utf8.decodeReplacing (((octets.splitOn 10)[node.start.row]?).getD []) := by
      rw [splitLines_decodeReplacing, List.getElem?_map]
      cases (octets.splitOn 10)[node.start.row]? with
      | none => simp [Text.Utf8.decodeReplacing, Text.Utf8.pieces]
      | some line => rfl
    simp only [commentOf]
    rw [sameLine, ← stands.2, Text.Utf8.any_decodeReplacing agreesOnAscii_blank, List.any_eq_true]
    simp only [decide_eq_true_eq]

/-! ## The comments of a tree -/

theorem pairwise_row_collectCommentNodes {root : Node}
    (ascending : root.preorder.Pairwise fun left right => left.start.row ≤ right.start.row) :
    (collectCommentNodes [root]).Pairwise fun left right => left.start.row ≤ right.start.row := by
  have taken := collectCommentNodes_sublist [root]
  rw [preorderAll, preorderAll, List.append_nil] at taken
  exact ascending.sublist (taken.trans List.filter_sublist)

theorem collectComments_eq_map {lines : List (List Char)} {root : Node}
    (ascending : root.preorder.Pairwise fun left right => left.start.row ≤ right.start.row) :
    collectComments lines root = (collectCommentNodes [root]).map (commentOf lines) := by
  apply sortByLine_of_pairwise
  rw [List.pairwise_map]
  apply (pairwise_row_collectCommentNodes ascending).imp
  intro left right inOrder
  change (left.start.row : Int) + 1 ≤ right.start.row + 1
  omega

/-- The loop ends, after one turn for each node that is not below a comment. It has then found what
a recursive traversal finds: the outer comments of the tree, each once, in preorder. The comments
that are read are those of these nodes, in the same order where rows do not decrease in preorder. -/
theorem collectComments_isTraversal (octets : List UInt8) (root : Node) :
    let lines := splitLines (Text.Utf8.decodeReplacing octets)
    let nodes := collectCommentNodes [root]
    Collecting.turn^[root.visits] (Collecting.start root) = ⟨[], nodes⟩ ∧
    (∀ turns < root.visits, (Collecting.turn^[turns] (Collecting.start root)).waiting ≠ []) ∧
    nodes = root.outerComments ∧ IsTraversal root nodes ∧
    (∀ node ∈ nodes, Records octets node (commentOf lines node)) ∧
    (collectComments lines root).Perm (nodes.map (commentOf lines)) ∧
    ((root.preorder.Pairwise fun left right => left.start.row ≤ right.start.row) →
      collectComments lines root = nodes.map (commentOf lines)) := by
  have isOuter : collectCommentNodes [root] = root.outerComments := by
    rw [collectCommentNodes_eq_outerCommentsAll, outerCommentsAll, outerCommentsAll,
      List.append_nil]
  refine ⟨?_, ?_, isOuter, ?_, ?_, ?_, collectComments_eq_map⟩
  · rw [← Collecting.remaining_start, Collecting.iterate_remaining, Collecting.outcome_start]
  · intro turns isEarlier finished
    have enough := Collecting.waiting_iterate_eq_nil_iff.1 finished
    rw [Collecting.remaining_start] at enough
    omega
  · rw [isOuter]
    exact isTraversal_outerComments root
  · exact fun node _ => records_commentOf octets node
  · exact List.mergeSort_perm _ _

/-- A comment behind an assignment to `é`, which is two octets, and one on a line of its own. -/
theorem collectComments_behind_assignment :
    let octets : List UInt8 := [195, 169, 61, 49, 32, 35, 97, 10, 9, 35, 98]
    let root : Node :=
      ⟨.module, none, ⟨0, 0⟩, "",
        [⟨.expressionStatement, none, ⟨0, 0⟩, "", [⟨.assignment, none, ⟨0, 0⟩, "é=1", []⟩]⟩,
          ⟨.comment, none, ⟨0, 4⟩, "#a", []⟩, ⟨.comment, none, ⟨1, 1⟩, "#b", []⟩]⟩
    (root.preorder.Pairwise fun left right => left.start.row ≤ right.start.row) ∧
      collectComments (splitLines (Text.Utf8.decodeReplacing octets)) root =
        [⟨1, "#a", true⟩, ⟨2, "#b", false⟩] := by
  intro octets root
  have ascending : root.preorder.Pairwise fun left right => left.start.row ≤ right.start.row := by
    decide
  obtain ⟨-, -, isOuter, -, -, -, sameOrder⟩ := collectComments_isTraversal octets root
  have source : Text.Utf8.decodeReplacing octets = "é=1 #a\n\t#b".toList := by
    simp [octets, Text.Utf8.decodeReplacing, Text.Utf8.pieces, Text.Utf8.firstPiece,
      Text.Utf8.lead?, Text.Utf8.readTails]
  refine ⟨ascending, ?_⟩
  rw [sameOrder ascending, isOuter, source]
  rfl

end Annotations.Source
