import Annotations.Directive
import Annotations.Text.Identifier

/-!
Contract: a catalog whose lists have no name in common recognises directives
without ambiguity.

Each name then has the shape of the one list that holds it, in whatever order the
lists are asked. Where all names are identifiers, no other text is a directive.

Owns:
- `Catalog.names` and `Catalog.IsDisjoint`;
- `Catalog.classifyIn`, recognition in a given order of the lists;
- `Catalog.IsUnambiguous` and `Catalog.IsDisjoint.isUnambiguous`.

Does not own: which catalogs a configuration can have; see
`Annotations.Proofs.Config.CallNames`.
-/

namespace Annotations

/-! ## The lists of a catalog -/

def Kind.listKey : Kind → String
  | .constant => "constant"
  | .instanceMethod => "method"
  | .classMethod => "class_method"

theorem Kind.listKey_inj {kind other : Kind} : kind.listKey = other.listKey ↔ kind = other := by
  cases kind <;> cases other <;> decide

def Kind.shape (kind : Kind) (name : String) : Shape :=
  ⟨if kind = .constant then .markConstantPrivate else .markMethodPrivate, kind, name⟩

def Catalog.names (catalog : Catalog) : Kind → List String
  | .constant => catalog.constant
  | .instanceMethod => catalog.method
  | .classMethod => catalog.classMethod

/-- The names for two kinds have nothing in common. -/
def Catalog.IsDisjoint (catalog : Catalog) : Prop :=
  ∀ name kind other, name ∈ catalog.names kind → name ∈ catalog.names other → kind = other

/-! ## Recognition in any order -/

/-- The shape of a callee where the lists are asked in a given order. -/
def Catalog.classifyIn (catalog : Catalog) (order : List Kind) (callee : String) : Option Shape :=
  (order.find? fun kind => decide (callee ∈ catalog.names kind)).map fun kind => kind.shape callee

theorem Catalog.classify?_eq_classifyIn (catalog : Catalog) (callee : String) :
    catalog.classify? callee =
      catalog.classifyIn [.constant, .classMethod, .instanceMethod] callee := by
  unfold classify? classifyIn
  by_cases isConstant : callee ∈ catalog.constant
  · simp [names, Kind.shape, isConstant]
  · by_cases isClassMethod : callee ∈ catalog.classMethod
    · simp [names, Kind.shape, isConstant, isClassMethod]
    · by_cases isMethod : callee ∈ catalog.method
      · simp [names, Kind.shape, isConstant, isClassMethod, isMethod]
      · simp [names, isConstant, isClassMethod, isMethod]

theorem Catalog.classifyIn_eq_none (catalog : Catalog) (order : List Kind) {callee : String}
    (unlisted : ∀ kind, callee ∉ catalog.names kind) : catalog.classifyIn order callee = none := by
  unfold classifyIn
  rw [Option.map_eq_none_iff, List.find?_eq_none]
  intro kind _
  simpa using unlisted kind

theorem Catalog.IsDisjoint.classifyIn_eq {catalog : Catalog} (disjoint : catalog.IsDisjoint)
    {order : List Kind} (complete : ∀ kind, kind ∈ order) {callee : String} {kind : Kind}
    (listed : callee ∈ catalog.names kind) :
    catalog.classifyIn order callee = some (kind.shape callee) := by
  unfold classifyIn
  cases first : order.find? fun kind => decide (callee ∈ catalog.names kind) with
  | none =>
      have unlisted := List.find?_eq_none.1 first kind (complete kind)
      exact absurd (decide_eq_true listed) unlisted
  | some other =>
      have alsoListed : callee ∈ catalog.names other := by simpa using List.find?_some first
      rw [disjoint callee kind other listed alsoListed]
      rfl

/-- Each name has the shape of the one list that holds it, in whatever order the lists are asked,
and only identifiers are names; so nothing with a dot is. -/
structure Catalog.IsUnambiguous (catalog : Catalog) : Prop where
  listed : ∀ callee kind, callee ∈ catalog.names kind →
    catalog.classify? callee = some (kind.shape callee)
  unlisted : ∀ callee, (∀ kind, callee ∉ catalog.names kind) → catalog.classify? callee = none
  inAnyOrder : ∀ order : List Kind, (∀ kind, kind ∈ order) →
    ∀ callee, catalog.classifyIn order callee = catalog.classify? callee
  identifiers : ∀ callee : String, Text.isIdentifier callee.toList = false →
    catalog.classify? callee = none
  bare : ∀ callee : String, '.' ∈ callee.toList → catalog.classify? callee = none

theorem Text.isIdentifierContinue_of_isIdentifier {text : List Char}
    (isName : isIdentifier text = true) : ∀ c ∈ text, isIdentifierContinue c = true := by
  cases text with
  | nil => contradiction
  | cons first rest =>
      obtain ⟨starts, continues⟩ := Bool.and_eq_true_iff.1 isName
      refine List.forall_mem_cons.2 ⟨?_, List.all_eq_true.1 continues⟩
      simp [isIdentifierContinue, starts]

theorem Text.isIdentifier_eq_false_of_dot {text : List Char} (dotted : '.' ∈ text) :
    isIdentifier text = false := by
  refine Bool.eq_false_iff.2 ?_
  intro isName
  exact absurd (isIdentifierContinue_of_isIdentifier isName _ dotted) (by decide)

theorem Catalog.IsDisjoint.isUnambiguous {catalog : Catalog} (disjoint : catalog.IsDisjoint)
    (identifiers : ∀ kind, ∀ name ∈ catalog.names kind, Text.isIdentifier name.toList = true) :
    catalog.IsUnambiguous := by
  have complete : ∀ kind : Kind, kind ∈ [.constant, .classMethod, .instanceMethod] := by
    intro kind
    cases kind <;> decide
  have unlisted : ∀ callee, (∀ kind, callee ∉ catalog.names kind) →
      catalog.classify? callee = none := by
    intro callee isUnlisted
    rw [classify?_eq_classifyIn]
    exact catalog.classifyIn_eq_none _ isUnlisted
  have noIdentifier : ∀ callee : String, Text.isIdentifier callee.toList = false →
      catalog.classify? callee = none := by
    intro callee isNone
    refine unlisted callee ?_
    intro kind isListed
    exact Bool.false_ne_true (isNone.symm.trans (identifiers kind callee isListed))
  constructor
  case listed =>
    intro callee kind isListed
    rw [classify?_eq_classifyIn]
    exact disjoint.classifyIn_eq complete isListed
  case unlisted => exact unlisted
  case inAnyOrder =>
    intro order asksAll callee
    rw [classify?_eq_classifyIn]
    by_cases isListed : ∃ kind, callee ∈ catalog.names kind
    · obtain ⟨kind, isListed⟩ := isListed
      rw [disjoint.classifyIn_eq asksAll isListed, disjoint.classifyIn_eq complete isListed]
    · have isUnlisted := not_exists.1 isListed
      rw [catalog.classifyIn_eq_none _ isUnlisted, catalog.classifyIn_eq_none _ isUnlisted]
  case identifiers => exact noIdentifier
  case bare =>
    intro callee dotted
    exact noIdentifier callee (Text.isIdentifier_eq_false_of_dot dotted)

end Annotations
