import Annotations.Source.Node
import Annotations.Source.StringLiteral
import Annotations.SourceUnit
import Annotations.Text.Blank

/-!
Contract: the declarations, calls and comments of a syntax tree.

Statements are followed into blocks and clauses, and into class bodies, which
add the class to the namespace; function bodies are never entered. Comments are
collected everywhere.

Owns:

- `Findings` and the walk that collects them;
- the classification of arguments;
- `collectComments` and the lines of a source.
-/

namespace Annotations.Source

/-- What a walk over statements collects. -/
structure Findings where
  declarations : List Declaration
  calls : List Call
deriving DecidableEq, Repr

namespace Findings

def empty : Findings := ⟨[], []⟩

def append (left right : Findings) : Findings :=
  ⟨left.declarations ++ right.declarations, left.calls ++ right.calls⟩

def declaration (found : Declaration) : Findings := ⟨[found], []⟩

end Findings

/-! ## Calls -/

/-- The argument that a string node is: a string if it has a value. -/
def stringArgument (node : Node) : Argument :=
  match StringLiteral.value? node.text with
  | some value => ⟨.string, node.text, some value⟩
  | none => ⟨.expression, node.text, none⟩

def argumentOf (node : Node) : Argument :=
  match node.kind with
  | .string => stringArgument node
  | .identifier => ⟨.identifier, node.text, some (.text node.text)⟩
  | .attribute => ⟨.attribute, node.text, none⟩
  | .listSplat | .dictionarySplat => ⟨.splat, node.text, none⟩
  | .keywordArgument => ⟨.keyword, node.text, none⟩
  | _ => ⟨.expression, node.text, none⟩

/-- The arguments of a call node. Arguments that are not a list are one expression. -/
def argumentsOf (call : Node) : List Argument :=
  match call.child? .arguments with
  | none => []
  | some arguments =>
      if arguments.kind = .argumentList then
        (arguments.children.filter fun child => child.kind ≠ .comment).map argumentOf
      else [⟨.expression, arguments.text, none⟩]

def callOf (scope : Namespace) (node : Node) : Call :=
  { scope := scope
    callee := ((node.child? .function).map Node.text).getD ""
    line := node.line
    arguments := argumentsOf node }

/-! ## Assignments -/

def leftTargets (left : Node) : List Node :=
  match left.kind with
  | .identifier => [left]
  | .patternList | .tuplePattern => left.children.filter fun child => child.kind = .identifier
  | _ => []

mutual

/-- The names that an assignment binds, and those of the assignments on its right side. One without
a right side binds nothing. -/
def assignmentTargets : Node → List Node
  | ⟨kind, _, _, _, children⟩ =>
      if kind = .assignment ∧ children.any (fun child => child.role = some .right) then
        ((children.find? fun child => child.role = some .left).map leftTargets).getD [] ++
          rightTargets children
      else []

def rightTargets : List Node → List Node
  | [] => []
  | child :: rest =>
      if child.role = some .right then assignmentTargets child else rightTargets rest

end

def constantsOf (scope : Namespace) (targets : List Node) : List Declaration :=
  (targets.filter fun target => isConstantName target.text).map fun target =>
    ⟨scope, target.text, .constant, target.line⟩

def expressionFindings (scope : Namespace) (node : Node) : Findings :=
  match node.kind with
  | .assignment => ⟨constantsOf scope (assignmentTargets node), []⟩
  | .call => ⟨[], [callOf scope node]⟩
  | _ => Findings.empty

def statementFindings (scope : Namespace) (children : List Node) : Findings :=
  children.foldr (fun child found => (expressionFindings scope child).append found) Findings.empty

/-! ## Definitions -/

def decoratorTexts (children : List Node) : List String :=
  (children.filter fun child => child.kind = .decorator).flatMap fun decorator =>
    (decorator.children.filter fun child => child.kind ≠ .comment).map Node.text

/-- The decorators that put a method on the class. -/
def classLevelDecorators : List String := ["classmethod", "staticmethod"]

def functionKind (inClass : Bool) (decorators : List String) : Kind :=
  if inClass && decorators.any (· ∈ classLevelDecorators) then .classMethod else .instanceMethod

def nameOf? (children : List Node) : Option String :=
  (children.find? fun child => child.role = some .name).map Node.text

def functionFindings (scope : Namespace) (inClass : Bool) (decorators : List String)
    (start : Position) (children : List Node) : Findings :=
  match nameOf? children with
  | some name =>
      Findings.declaration ⟨scope, name, functionKind inClass decorators, start.row + 1⟩
  | none => Findings.empty

/-- The node is only walked through. -/
def NodeKind.isContainer : NodeKind → Bool
  | .block | .statement | .clause => true
  | _ => false

/-- What the definition of a class adds: the class as a constant, and what its body holds. -/
def classFindings (scope : Namespace) (start : Position) (name? : Option String)
    (body : Findings) : Findings :=
  match name? with
  | some name => (Findings.declaration ⟨scope, name, .constant, start.row + 1⟩).append body
  | none => Findings.empty

mutual

/-- What a node adds where it stands as a statement. -/
def visit (scope : Namespace) (inClass : Bool) : Node → Findings
  | ⟨kind, _, start, _, children⟩ =>
      match kind with
      | .classDefinition =>
          let name? := nameOf? children
          classFindings scope start name? (walkBody (scope ++ name?.toList) children)
      | .functionDefinition => functionFindings scope inClass [] start children
      | .decoratedDefinition => decorated scope inClass (decoratorTexts children) children
      | .expressionStatement => statementFindings scope children
      | kind => if kind.isContainer then walk scope inClass children else Findings.empty

def walk (scope : Namespace) (inClass : Bool) : List Node → Findings
  | [] => Findings.empty
  | node :: rest => (visit scope inClass node).append (walk scope inClass rest)

def walkBody (scope : Namespace) : List Node → Findings
  | [] => Findings.empty
  | ⟨_, role, _, _, children⟩ :: rest =>
      if role = some .body then walk scope true children else walkBody scope rest

/-- What the definition among the children of a decorated one adds. -/
def decorated (scope : Namespace) (inClass : Bool) (decorators : List String) :
    List Node → Findings
  | [] => Findings.empty
  | ⟨kind, role, start, _, children⟩ :: rest =>
      if role = some .definition then
        match kind with
        | .classDefinition =>
            let name? := nameOf? children
            classFindings scope start name? (walkBody (scope ++ name?.toList) children)
        | .functionDefinition => functionFindings scope inClass decorators start children
        | _ => Findings.empty
      else decorated scope inClass decorators rest

end

/-! ## Comments and lines -/

/-- The lines of a text, without their line feeds. -/
def splitLines (source : List Char) : List (List Char) :=
  source.splitOn '\n'

/-- The number of lines of a source: its line feeds, and one more if text follows the last of them;
at least one. -/
def countLines (source : List Char) : Nat :=
  let breaks := source.count '\n'
  max (if source.isEmpty || source.getLast? = some '\n' then breaks else breaks + 1) 1

def commentOf (lines : List (List Char)) (node : Node) : Comment :=
  let before := ((lines[node.start.row]?).getD []).take node.start.column
  ⟨node.line, node.text, before.any fun c => !Text.isAsciiBlank c⟩

private theorem sizeOf_append (left right : List Node) :
    sizeOf (left ++ right) + 1 = sizeOf left + sizeOf right := by
  induction left with
  | nil => simp only [List.nil_append, List.nil.sizeOf_spec]; omega
  | cons head tail inductionHypothesis =>
      simp only [List.cons_append, List.cons.sizeOf_spec]
      omega

/-- The comment nodes of the trees that wait on a stack, in preorder. Nothing below a comment is
collected. -/
def collectCommentNodes : List Node → List Node
  | [] => []
  | ⟨kind, role, start, text, children⟩ :: rest =>
      if kind = .comment then ⟨kind, role, start, text, children⟩ :: collectCommentNodes rest
      else collectCommentNodes (children ++ rest)
termination_by stack => sizeOf stack
decreasing_by
  · simp only [List.cons.sizeOf_spec]; omega
  · have size := sizeOf_append children rest
    simp only [List.cons.sizeOf_spec, Node.mk.sizeOf_spec]
    omega

/-- The comments of a tree, by line. -/
def collectComments (lines : List (List Char)) (root : Node) : List Comment :=
  sortByLine Comment.line ((collectCommentNodes [root]).map (commentOf lines))

end Annotations.Source
