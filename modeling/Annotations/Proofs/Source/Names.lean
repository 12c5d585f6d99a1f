import Annotations.Proofs.Catalog
import Annotations.Proofs.Source.Walk
import Annotations.Proofs.Text.Runs
import Annotations.Source.Reader

/-!
Contract: the names in the paths that a source declares.

A walk puts three kinds of names into a path: the parts of the module's name, the
names of definitions, and names with the shape of a constant's. What holds of all
of these holds of every name in a declared path.

Owns:

- `Findings.AreNamed` and `areNamed_walk`, for any property of names;
- `Path.IsDotless`, and `SourceUnit.IsParsed.isDotless`, that no name has a dot.
-/

namespace Annotations

namespace Source

/-! ## A property of names -/

variable {named : String → Prop}

def Findings.AreNamed (named : String → Prop) (found : Findings) : Prop :=
  ∀ declaration ∈ found.declarations,
    (∀ part ∈ declaration.scope, named part) ∧ named declaration.name

def DefinesNamed (named : String → Prop) (nodes : List Node) : Prop :=
  ∀ node ∈ nodes, node.role = some .name → named node.text

namespace Findings.AreNamed

theorem empty : Findings.empty.AreNamed named := nofun

theorem append {left right : Findings} (first : left.AreNamed named)
    (second : right.AreNamed named) : (left.append right).AreNamed named :=
  fun declaration isFound =>
    (List.mem_append.1 isFound).elim (first declaration) (second declaration)

theorem declaration {scope : Namespace} {name : String} {kind : Kind} {line : Line}
    (inScope : ∀ part ∈ scope, named part) (isNamed : named name) :
    (Findings.declaration ⟨scope, name, kind, line⟩).AreNamed named := by
  intro declared isFound
  obtain rfl := List.mem_singleton.1 isFound
  exact ⟨inScope, isNamed⟩

end Findings.AreNamed

theorem DefinesNamed.mono {nodes fewer : List Node} (defines : DefinesNamed named nodes)
    (subset : fewer ⊆ nodes) : DefinesNamed named fewer :=
  fun node isNode => defines node (subset isNode)

/-- The name of a definition is the text of a node in that role. -/
theorem DefinesNamed.of_nameOf? {children : List Node}
    (defines : DefinesNamed named (preorderAll children)) {name : String}
    (isName : nameOf? children = some name) : named name := by
  unfold nameOf? at isName
  obtain ⟨node, found, rfl⟩ := Option.map_eq_some_iff.1 isName
  have inRole : node.role = some .name := by
    simpa using List.find?_some found
  exact defines node (mem_preorderAll_of_mem (List.mem_of_find?_eq_some found)) inRole

/-! ## Walks -/

variable {scope : Namespace}

theorem areNamed_statementFindings (constants : ∀ name, isConstantName name = true → named name)
    (inScope : ∀ part ∈ scope, named part) (children : List Node) :
    (statementFindings scope children).AreNamed named := by
  induction children with
  | nil => exact .empty
  | cons child rest inductionHypothesis =>
      have first : (expressionFindings scope child).AreNamed named := by
        unfold expressionFindings
        split
        · intro declared isFound
          obtain ⟨target, isConstant, rfl⟩ := List.mem_map.1 isFound
          exact ⟨inScope, constants _ (List.mem_filter.1 isConstant).2⟩
        · exact nofun
        · exact .empty
      exact first.append inductionHypothesis

theorem areNamed_functionFindings (inScope : ∀ part ∈ scope, named part) (inClass : Bool)
    (decorators : List String) (start : Position) {children : List Node}
    (defines : DefinesNamed named (preorderAll children)) :
    (functionFindings scope inClass decorators start children).AreNamed named := by
  unfold functionFindings
  split
  next isName => exact .declaration inScope (defines.of_nameOf? isName)
  · exact .empty

theorem areNamed_classFindings (inScope : ∀ part ∈ scope, named part) (start : Position)
    {children : List Node} (defines : DefinesNamed named (preorderAll children)) {body : Findings}
    (inBody : (∀ part ∈ scope ++ (nameOf? children).toList, named part) → body.AreNamed named) :
    (classFindings scope start (nameOf? children) body).AreNamed named := by
  unfold classFindings
  split
  next name isName =>
    have isNamed := defines.of_nameOf? isName
    refine (Findings.AreNamed.declaration inScope isNamed).append (inBody ?_)
    rw [isName]
    exact List.forall_mem_append.2 ⟨inScope, List.forall_mem_singleton.2 isNamed⟩
  · exact .empty

mutual

theorem areNamed_visit (constants : ∀ name, isConstantName name = true → named name)
    (scope : Namespace) (inScope : ∀ part ∈ scope, named part) (inClass : Bool) :
    ∀ node : Node, DefinesNamed named node.preorder → (visit scope inClass node).AreNamed named
  | ⟨kind, role, start, text, children⟩, defines => by
      have below : DefinesNamed named (preorderAll children) :=
        defines.mono (preorderAll_subset_preorder ⟨kind, role, start, text, children⟩)
      unfold visit
      split
      · exact areNamed_classFindings inScope start below fun inClassScope =>
          areNamed_walkBody constants _ inClassScope children below
      · exact areNamed_functionFindings inScope inClass [] start below
      · exact areNamed_decorated constants scope inScope inClass _ children below
      · exact areNamed_statementFindings constants inScope children
      · split
        · exact areNamed_walk constants scope inScope inClass children below
        · exact .empty

/-- Names that a walk puts into paths have the property that definitions' and constants' names and
those of the namespace have. -/
theorem areNamed_walk (constants : ∀ name, isConstantName name = true → named name)
    (scope : Namespace) (inScope : ∀ part ∈ scope, named part) (inClass : Bool) :
    ∀ nodes : List Node, DefinesNamed named (preorderAll nodes) →
      (walk scope inClass nodes).AreNamed named
  | [], _ => by
      rw [walk]
      exact .empty
  | node :: rest, defines => by
      rw [preorderAll] at defines
      rw [walk]
      exact (areNamed_visit constants scope inScope inClass node
          (defines.mono (List.subset_append_left _ _))).append
        (areNamed_walk constants scope inScope inClass rest
          (defines.mono (List.subset_append_right _ _)))

theorem areNamed_walkBody (constants : ∀ name, isConstantName name = true → named name)
    (scope : Namespace) (inScope : ∀ part ∈ scope, named part) :
    ∀ nodes : List Node, DefinesNamed named (preorderAll nodes) →
      (walkBody scope nodes).AreNamed named
  | [], _ => by
      rw [walkBody]
      exact .empty
  | ⟨kind, role, start, text, children⟩ :: rest, defines => by
      rw [preorderAll] at defines
      rw [walkBody]
      split
      · exact areNamed_walk constants scope inScope true children
          ((defines.mono (List.subset_append_left _ _)).mono
            (preorderAll_subset_preorder ⟨kind, role, start, text, children⟩))
      · exact areNamed_walkBody constants scope inScope rest
          (defines.mono (List.subset_append_right _ _))

theorem areNamed_decorated (constants : ∀ name, isConstantName name = true → named name)
    (scope : Namespace) (inScope : ∀ part ∈ scope, named part) (inClass : Bool)
    (decorators : List String) :
    ∀ nodes : List Node, DefinesNamed named (preorderAll nodes) →
      (decorated scope inClass decorators nodes).AreNamed named
  | [], _ => by
      rw [decorated]
      exact .empty
  | ⟨kind, role, start, text, children⟩ :: rest, defines => by
      rw [preorderAll] at defines
      have below : DefinesNamed named (preorderAll children) :=
        (defines.mono (List.subset_append_left _ _)).mono
          (preorderAll_subset_preorder ⟨kind, role, start, text, children⟩)
      unfold decorated
      split
      · split
        · exact areNamed_classFindings inScope start below fun inClassScope =>
            areNamed_walkBody constants _ inClassScope children below
        · exact areNamed_functionFindings inScope inClass decorators start below
        · exact .empty
      · exact areNamed_decorated constants scope inScope inClass decorators rest
          (defines.mono (List.subset_append_right _ _))

end

end Source

/-! ## Names without dots -/

structure Path.IsDotless (path : Path) : Prop where
  scope : ∀ part ∈ path.scope, '.' ∉ part.toList
  name : '.' ∉ path.name.toList

/-- The unit was read from a tree in which identifiers name the definitions. -/
def SourceUnit.IsParsed (unit : SourceUnit) : Prop :=
  ∃ (source : List Char) (root : Source.Node) (unitId : UnitId) (moduleName : String),
    unit = SourceUnit.ofTree source root unitId moduleName ∧
      Source.DefinesNamed (fun name => Text.isIdentifier name.toList = true) root.preorder

theorem Text.dot_not_mem_of_isIdentifier {text : List Char} (isName : isIdentifier text = true) :
    '.' ∉ text := by
  intro dotted
  rw [isIdentifier_eq_false_of_dot dotted] at isName
  contradiction

theorem dot_not_mem_of_isConstantName {name : String} (isConstant : isConstantName name = true) :
    '.' ∉ name.toList := by
  unfold isConstantName at isConstant
  cases characters : name.toList with
  | nil => exact List.not_mem_nil
  | cons first rest =>
      rw [characters] at isConstant
      obtain ⟨isUpper, isTail⟩ := Bool.and_eq_true_iff.1 isConstant
      have notFirst : '.' ≠ first := by
        intro isFirst
        subst isFirst
        contradiction
      have plain : ∀ {tail : List Char}, (tail.all fun c => c.isAlphanum || c == '_') = true →
          '.' ∉ tail := by
        intro tail isPlain isPart
        exact absurd (List.all_eq_true.1 isPlain _ isPart) (by decide)
      refine List.not_mem_cons_of_ne_of_not_mem notFirst ?_
      by_cases endsLine : rest.getLast? = some '\n'
      · obtain ⟨tail, rfl⟩ := List.getLast?_eq_some_iff.1 endsLine
        rw [if_pos endsLine, List.dropLast_concat] at isTail
        rw [List.mem_append, not_or]
        exact ⟨plain isTail, by decide⟩
      · rw [if_neg endsLine] at isTail
        exact plain isTail

theorem Namespace.dot_not_mem_of_mem_ofModule {moduleName part : String}
    (isPart : part ∈ Namespace.ofModule moduleName) : '.' ∉ part.toList := by
  unfold Namespace.ofModule at isPart
  obtain ⟨characters, isKept, rfl⟩ := List.mem_map.1 isPart
  rw [String.toList_ofList]
  exact Text.not_mem_of_mem_splitOn (List.mem_filter.1 isKept).1

/-- The paths that a parsed source declares have no dots in their names. -/
theorem SourceUnit.IsParsed.isDotless {unit : SourceUnit} (isParsed : unit.IsParsed) :
    ∀ declaration ∈ unit.declarations, declaration.path.IsDotless := by
  obtain ⟨source, root, unitId, moduleName, rfl, defines⟩ := isParsed
  have dotless : Source.DefinesNamed (fun name => '.' ∉ name.toList)
      (Source.preorderAll root.children) := by
    intro node isNode inRole
    exact Text.dot_not_mem_of_isIdentifier
      (defines node (Source.preorderAll_subset_preorder root isNode) inRole)
  have named := Source.areNamed_walk (fun _ => dot_not_mem_of_isConstantName)
    (Namespace.ofModule moduleName) (fun _ => Namespace.dot_not_mem_of_mem_ofModule) false
    root.children dotless
  intro declaration isDeclared
  obtain ⟨scope, name⟩ := named declaration isDeclared
  exact ⟨scope, name⟩

end Annotations
