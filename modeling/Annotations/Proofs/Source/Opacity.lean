import Annotations.Source.Reader
import Annotations.Proofs.Source.Walk

/-!
Contract: function bodies are opaque to a walk over statements.

Of the definition of a function a walk reads where it begins and what its name
is. It reaches other statements through blocks, clauses, class bodies and
decorated definitions only, and what it reads of an expression never leads into a
definition. So trees that differ inside functions alone have the same
declarations and calls, and nothing inside a function is found.

Owns:
- `Node.hideFunctions`, a tree with nothing left of its functions but their names;
- `walk_hideFunctionsIn` and `SourceUnit.found_outside_functions`.

Does not own: comments, which are collected inside functions too.
-/

namespace Annotations.Source

/-! ## Trees without functions -/

/-- Nodes of the kind hold statements, and so their text may hold the text of a function. -/
def NodeKind.holdsStatements : NodeKind → Bool
  | .module | .block | .statement | .clause => true
  | .classDefinition | .functionDefinition | .decoratedDefinition => true
  | _ => false

mutual

/-- The tree with each function reduced to its name. The text of a node that holds statements goes
too, unless the node is part of what is quoted as a whole. A node in the role of a body is a body
and no function. -/
def Node.hideFunctions (quoted : Bool) : Node → Node
  | ⟨kind, role, start, text, children⟩ =>
      let quotes := quoted || !kind.holdsStatements
      ⟨kind, role, start, if quotes then text else "",
        if kind = .functionDefinition ∧ role ≠ some .body then
          (children.find? fun child => child.role = some .name).toList
        else hideFunctionsIn quotes children⟩

/-- The same for several trees. Names are quoted. -/
def hideFunctionsIn (quoted : Bool) : List Node → List Node
  | [] => []
  | node :: rest =>
      node.hideFunctions (quoted || decide (node.role = some .name)) :: hideFunctionsIn quoted rest

end

@[simp] theorem Node.kind_hideFunctions (quoted : Bool) (node : Node) :
    (node.hideFunctions quoted).kind = node.kind := by
  cases node
  rw [hideFunctions]

@[simp] theorem Node.role_hideFunctions (quoted : Bool) (node : Node) :
    (node.hideFunctions quoted).role = node.role := by
  cases node
  rw [hideFunctions]

@[simp] theorem Node.start_hideFunctions (quoted : Bool) (node : Node) :
    (node.hideFunctions quoted).start = node.start := by
  cases node
  rw [hideFunctions]

@[simp] theorem Node.line_hideFunctions (quoted : Bool) (node : Node) :
    (node.hideFunctions quoted).line = node.line := by
  rw [line, line, start_hideFunctions]

@[simp] theorem Node.text_hideFunctions (node : Node) :
    (node.hideFunctions true).text = node.text := by
  cases node
  simp [hideFunctions]

/-- Below a node that is no function nothing is dropped but what functions hold. -/
theorem Node.children_hideFunctions {quoted : Bool} {node : Node}
    (notFunction : node.kind ≠ .functionDefinition) :
    (node.hideFunctions quoted).children =
      hideFunctionsIn (quoted || !node.kind.holdsStatements) node.children := by
  cases node
  simp_all [hideFunctions]

theorem hideFunctionsIn_eq_map (quoted : Bool) (nodes : List Node) :
    hideFunctionsIn quoted nodes =
      nodes.map fun node => node.hideFunctions (quoted || decide (node.role = some .name)) := by
  induction nodes with
  | nil => rfl
  | cons node rest inductionHypothesis => rw [hideFunctionsIn, inductionHypothesis, List.map_cons]

theorem hideFunctionsIn_quoted (nodes : List Node) :
    hideFunctionsIn true nodes = nodes.map (Node.hideFunctions true) := by
  rw [hideFunctionsIn_eq_map]
  simp only [Bool.true_or]

theorem find?_role_hideFunctionsIn (quoted : Bool) (role : Role) (nodes : List Node) :
    ((hideFunctionsIn quoted nodes).find? fun node => node.role = some role) =
      (nodes.find? fun node => node.role = some role).map
        (Node.hideFunctions (quoted || decide (role = .name))) := by
  rw [hideFunctionsIn_eq_map, List.find?_map]
  simp only [Function.comp_def, Node.role_hideFunctions]
  cases found : nodes.find? fun node => node.role = some role with
  | none => rfl
  | some node =>
      have ofRole : node.role = some role := by simpa using List.find?_some found
      simp [ofRole]

theorem nameOf?_hideFunctionsIn (quoted : Bool) (children : List Node) :
    nameOf? (hideFunctionsIn quoted children) = nameOf? children := by
  unfold nameOf?
  rw [find?_role_hideFunctionsIn, Option.map_map]
  simp [Function.comp_def]

/-- A definition keeps its name, whether or not it is that of a function. -/
theorem nameOf?_hideFunctions (quoted : Bool) (node : Node) :
    nameOf? (node.hideFunctions quoted).children = nameOf? node.children := by
  obtain ⟨kind, role, start, text, children⟩ := node
  rw [Node.hideFunctions]
  dsimp only
  split
  · unfold nameOf?
    cases found : children.find? fun child => child.role = some .name with
    | none => rfl
    | some name =>
        have isName : name.role = some .name := by simpa using List.find?_some found
        simp [isName]
  · exact nameOf?_hideFunctionsIn _ children

/-! ## Expressions -/

theorem argumentOf_hideFunctions (node : Node) :
    argumentOf (node.hideFunctions true) = argumentOf node := by
  unfold argumentOf stringArgument
  rw [Node.kind_hideFunctions, Node.text_hideFunctions]

theorem child?_hideFunctions {node : Node} (notFunction : node.kind ≠ .functionDefinition)
    (role : Role) :
    (node.hideFunctions true).child? role = (node.child? role).map (Node.hideFunctions true) := by
  unfold Node.child?
  rw [Node.children_hideFunctions notFunction, find?_role_hideFunctionsIn]
  simp only [Bool.true_or]

theorem argumentsOf_hideFunctions {call : Node} (isCall : call.kind = .call) :
    argumentsOf (call.hideFunctions true) = argumentsOf call := by
  unfold argumentsOf
  rw [child?_hideFunctions (by simp [isCall])]
  cases call.child? .arguments with
  | none => rfl
  | some arguments =>
      simp only [Option.map_some, Node.kind_hideFunctions, Node.text_hideFunctions]
      split
      next isList =>
        rw [Node.children_hideFunctions (by simp [isList]), Bool.true_or, hideFunctionsIn_quoted,
          List.filter_map, List.map_map]
        simp only [Function.comp_def, Node.kind_hideFunctions, argumentOf_hideFunctions]
      · rfl

theorem callOf_hideFunctions (scope : Namespace) {call : Node} (isCall : call.kind = .call) :
    callOf scope (call.hideFunctions true) = callOf scope call := by
  unfold callOf
  rw [argumentsOf_hideFunctions isCall, child?_hideFunctions (by simp [isCall]), Option.map_map,
    Node.line_hideFunctions]
  simp only [Function.comp_def, Node.text_hideFunctions]

theorem leftTargets_hideFunctions (left : Node) :
    leftTargets (left.hideFunctions true) =
      (leftTargets left).map (Node.hideFunctions true) := by
  have names (isPattern : left.kind ≠ .functionDefinition) :
      ((left.hideFunctions true).children.filter fun child => child.kind = .identifier) =
        (left.children.filter fun child => child.kind = .identifier).map
          (Node.hideFunctions true) := by
    rw [Node.children_hideFunctions isPattern, Bool.true_or, hideFunctionsIn_quoted,
      List.filter_map]
    simp only [Function.comp_def, Node.kind_hideFunctions]
  unfold leftTargets
  rw [Node.kind_hideFunctions]
  split
  · rfl
  next isPattern => exact names (by simp [isPattern])
  next isPattern => exact names (by simp [isPattern])
  · rfl

mutual

theorem assignmentTargets_hideFunctions : ∀ node : Node,
    assignmentTargets (node.hideFunctions true) =
      (assignmentTargets node).map (Node.hideFunctions true)
  | ⟨kind, role, start, text, children⟩ => by
      rw [Node.hideFunctions, assignmentTargets, assignmentTargets]
      by_cases isAssignment : kind = .assignment
      · have sameRight :
            (hideFunctionsIn true children).any (fun child => child.role = some .right) =
              children.any fun child => child.role = some .right := by
          rw [hideFunctionsIn_quoted, List.any_map]
          simp only [Function.comp_def, Node.role_hideFunctions]
        subst isAssignment
        simp only [reduceCtorEq, false_and, if_false, Bool.true_or, sameRight]
        split
        · rw [find?_role_hideFunctionsIn, rightTargets_hideFunctionsIn children, List.map_append]
          cases children.find? fun child => child.role = some .left with
          | none => rfl
          | some left => simp [leftTargets_hideFunctions]
        · rfl
      · simp [isAssignment]

theorem rightTargets_hideFunctionsIn : ∀ children : List Node,
    rightTargets (hideFunctionsIn true children) =
      (rightTargets children).map (Node.hideFunctions true)
  | [] => by simp [hideFunctionsIn, rightTargets]
  | child :: rest => by
      rw [hideFunctionsIn, Bool.true_or, rightTargets, rightTargets, Node.role_hideFunctions]
      split
      · exact assignmentTargets_hideFunctions child
      · exact rightTargets_hideFunctionsIn rest

end

theorem constantsOf_hideFunctions (scope : Namespace) (targets : List Node) :
    constantsOf scope (targets.map (Node.hideFunctions true)) = constantsOf scope targets := by
  unfold constantsOf
  rw [List.filter_map, List.map_map]
  simp only [Function.comp_def, Node.text_hideFunctions, Node.line_hideFunctions]

theorem expressionFindings_hideFunctions (scope : Namespace) (node : Node) :
    expressionFindings scope (node.hideFunctions true) = expressionFindings scope node := by
  unfold expressionFindings
  rw [Node.kind_hideFunctions]
  split
  · rw [assignmentTargets_hideFunctions, constantsOf_hideFunctions]
  next isCall => rw [callOf_hideFunctions scope isCall]
  · rfl

theorem statementFindings_hideFunctionsIn (scope : Namespace) (children : List Node) :
    statementFindings scope (hideFunctionsIn true children) = statementFindings scope children := by
  unfold statementFindings
  rw [hideFunctionsIn_quoted, List.foldr_map]
  simp only [expressionFindings_hideFunctions]

/-! ## Statements -/

theorem decoratorTexts_hideFunctionsIn (quoted : Bool) (children : List Node) :
    decoratorTexts (hideFunctionsIn quoted children) = decoratorTexts children := by
  unfold decoratorTexts
  rw [hideFunctionsIn_eq_map, List.filter_map, List.flatMap_map]
  simp only [Function.comp_def, Node.kind_hideFunctions, List.flatMap_def]
  congr 1
  apply List.map_congr_left
  intro decorator isDecorator
  have isOne : decorator.kind = .decorator := by simpa using (List.mem_filter.1 isDecorator).2
  have quotes : NodeKind.decorator.holdsStatements = false := rfl
  rw [Node.children_hideFunctions (by simp [isOne]), isOne, quotes, Bool.not_false, Bool.or_true,
    hideFunctionsIn_quoted, List.filter_map, List.map_map]
  simp only [Function.comp_def, Node.kind_hideFunctions, Node.text_hideFunctions]

theorem functionFindings_hideFunctions (scope : Namespace) (inClass quoted : Bool)
    (decorators : List String) (node : Node) :
    functionFindings scope inClass decorators node.start (node.hideFunctions quoted).children =
      functionFindings scope inClass decorators node.start node.children := by
  unfold functionFindings
  rw [nameOf?_hideFunctions]

mutual

theorem visit_hideFunctions (scope : Namespace) (inClass quoted : Bool) :
    ∀ node : Node, visit scope inClass (node.hideFunctions quoted) = visit scope inClass node
  | ⟨kind, role, start, text, children⟩ => by
      cases kind
      case classDefinition =>
        simp only [Node.hideFunctions, visit, reduceCtorEq, false_and, if_false]
        rw [nameOf?_hideFunctionsIn, walkBody_hideFunctionsIn]
      case functionDefinition =>
        have sameName := functionFindings_hideFunctions scope inClass quoted []
          ⟨.functionDefinition, role, start, text, children⟩
        rw [Node.hideFunctions] at sameName ⊢
        rw [visit, visit]
        exact sameName
      case decoratedDefinition =>
        simp only [Node.hideFunctions, visit, reduceCtorEq, false_and, if_false]
        rw [decoratorTexts_hideFunctionsIn, decorated_hideFunctionsIn]
      case expressionStatement =>
        simp only [Node.hideFunctions, visit, reduceCtorEq, false_and, if_false,
          NodeKind.holdsStatements, Bool.not_false, Bool.or_true]
        exact statementFindings_hideFunctionsIn scope children
      case block | statement | clause =>
        simp only [Node.hideFunctions, visit, reduceCtorEq, false_and, if_false]
        rw [walk_hideFunctionsIn]
      all_goals simp [Node.hideFunctions, visit, NodeKind.isContainer]

/-- Nothing that functions hold, beside their names, changes what a walk finds. -/
theorem walk_hideFunctionsIn (scope : Namespace) (inClass quoted : Bool) :
    ∀ nodes : List Node,
      walk scope inClass (hideFunctionsIn quoted nodes) = walk scope inClass nodes
  | [] => by rw [hideFunctionsIn]
  | node :: rest => by
      rw [hideFunctionsIn, walk, walk, visit_hideFunctions scope inClass _ node,
        walk_hideFunctionsIn scope inClass quoted rest]

theorem walkBody_hideFunctionsIn (scope : Namespace) (quoted : Bool) :
    ∀ nodes : List Node, walkBody scope (hideFunctionsIn quoted nodes) = walkBody scope nodes
  | [] => by rw [hideFunctionsIn]
  | ⟨kind, role, start, text, children⟩ :: rest => by
      rw [hideFunctionsIn, Node.hideFunctions, walkBody, walkBody]
      split
      next isBody =>
        subst isBody
        simp only [ne_eq, not_true_eq_false, and_false, if_false]
        exact walk_hideFunctionsIn scope true _ children
      · exact walkBody_hideFunctionsIn scope quoted rest

theorem decorated_hideFunctionsIn (scope : Namespace) (inClass : Bool) (decorators : List String)
    (quoted : Bool) : ∀ nodes : List Node,
      decorated scope inClass decorators (hideFunctionsIn quoted nodes) =
        decorated scope inClass decorators nodes
  | [] => by rw [hideFunctionsIn]
  | ⟨kind, role, start, text, children⟩ :: rest => by
      rw [hideFunctionsIn, Node.hideFunctions]
      unfold decorated
      split
      · cases kind
        case classDefinition =>
          simp only [reduceCtorEq, false_and, if_false]
          rw [nameOf?_hideFunctionsIn, walkBody_hideFunctionsIn]
        case functionDefinition =>
          have sameName := functionFindings_hideFunctions scope inClass
            (quoted || decide (role = some .name)) decorators
            ⟨.functionDefinition, role, start, text, children⟩
          rw [Node.hideFunctions] at sameName
          exact sameName
        all_goals rfl
      · exact decorated_hideFunctionsIn scope inClass decorators quoted rest

end

end Annotations.Source

namespace Annotations

open Source

/-- Trees that agree once their functions are reduced to names have the same declarations and calls.
These are what is found in the tree so reduced, and they come from its nodes: nothing inside a
function is found. -/
theorem SourceUnit.found_outside_functions (source other : List Char) {first second : Node}
    (unitId otherId : UnitId) (moduleName : String)
    (same : hideFunctionsIn false first.children = hideFunctionsIn false second.children) :
    let unit := SourceUnit.ofTree source first unitId moduleName
    let otherUnit := SourceUnit.ofTree other second otherId moduleName
    let reduced := hideFunctionsIn false first.children
    (unit.declarations = otherUnit.declarations ∧ unit.calls = otherUnit.calls) ∧
      walk unit.scope false reduced = ⟨unit.declarations, unit.calls⟩ ∧
      Findings.ComesFrom ⟨unit.declarations, unit.calls⟩ (preorderAll reduced) := by
  have firstReduced :=
    walk_hideFunctionsIn (Namespace.ofModule moduleName) false false first.children
  have secondReduced :=
    walk_hideFunctionsIn (Namespace.ofModule moduleName) false false second.children
  have sameFindings := firstReduced.symm.trans ((congrArg _ same).trans secondReduced)
  have comes := comesFrom_walk (Namespace.ofModule moduleName) false
    (hideFunctionsIn false first.children)
  rw [firstReduced] at comes
  exact ⟨⟨congrArg Findings.declarations sameFindings, congrArg Findings.calls sameFindings⟩,
    firstReduced, comes⟩

/-- A class with a static method, and what the method holds beside its name. -/
private def cartWith (text : String) (held : List Node) : Node :=
  ⟨.module, none, ⟨0, 0⟩, text,
    [⟨.classDefinition, none, ⟨0, 0⟩, text,
      [⟨.identifier, some .name, ⟨0, 6⟩, "Cart", []⟩,
        ⟨.block, some .body, ⟨1, 4⟩, text,
          [⟨.decoratedDefinition, none, ⟨1, 4⟩, text,
            [⟨.decorator, none, ⟨1, 4⟩, "@staticmethod",
                [⟨.identifier, none, ⟨1, 5⟩, "staticmethod", []⟩]⟩,
              ⟨.functionDefinition, some .definition, ⟨2, 4⟩, text,
                ⟨.identifier, some .name, ⟨2, 8⟩, "load", []⟩ :: held⟩]⟩]⟩]⟩]⟩

private def cartBody : Node :=
  ⟨.block, some .body, ⟨3, 8⟩, "",
    [⟨.classDefinition, none, ⟨3, 8⟩, "class Item: pass",
        [⟨.identifier, some .name, ⟨3, 14⟩, "Item", []⟩,
          ⟨.block, some .body, ⟨3, 20⟩, "pass", []⟩]⟩,
      ⟨.expressionStatement, none, ⟨4, 8⟩, "private_constant('Item')",
        [⟨.call, none, ⟨4, 8⟩, "private_constant('Item')",
          [⟨.identifier, some .function, ⟨4, 8⟩, "private_constant", []⟩,
            ⟨.argumentList, some .arguments, ⟨4, 24⟩, "('Item')",
              [⟨.string, none, ⟨4, 25⟩, "'Item'", []⟩]⟩]⟩]⟩]⟩

/-- Neither the class nor the directive in the method is found; the method itself is. -/
theorem found_outside_static_method :
    hideFunctionsIn false (cartWith "class Cart: ..." [cartBody]).children =
        hideFunctionsIn false (cartWith "" []).children ∧
      (SourceUnit.ofTree [] (cartWith "class Cart: ..." [cartBody]) "shop.py" "shop").declarations =
        [⟨["shop"], "Cart", .constant, 1⟩, ⟨["shop", "Cart"], "load", .classMethod, 3⟩] ∧
      (SourceUnit.ofTree [] (cartWith "class Cart: ..." [cartBody]) "shop.py" "shop").calls =
        [] := by
  have same : hideFunctionsIn false (cartWith "class Cart: ..." [cartBody]).children =
      hideFunctionsIn false (cartWith "" []).children := rfl
  obtain ⟨⟨declarations, calls⟩, -⟩ :=
    SourceUnit.found_outside_functions [] [] "shop.py" "shop.py" "shop" same
  refine ⟨same, declarations.trans ?_, calls.trans ?_⟩
  · decide +kernel
  · decide +kernel

end Annotations
