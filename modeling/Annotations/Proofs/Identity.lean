import Annotations.Proofs.Invariant
import Annotations.Proofs.Order
import Annotations.Proofs.Registry.Requests
import Annotations.Proofs.Source.Names
import Annotations.Proofs.Text.Runs

/-!
Contract: the textual identities of paths.

A qualified name joins names with dots, so names without dots can be read off it
again, however many there are. A key and a description put the kind behind it,
where no qualified name can be mistaken for it: the last colon or opening bracket
of the text is always the one before the kind.

Owns:

- `Path.qualifiedName_inj`, `Path.key_inj` and `Path.describe_inj`;
- `Request.handed`, the units that a request brings, and that a run has no others;
- `Path.identities_unambiguous`.
-/

namespace Annotations

open Text

namespace Path

/-! ## Reading paths off texts -/

theorem splitOn_qualifiedName {path : Path} (dotless : path.IsDotless) :
    path.qualifiedName.toList.splitOn '.' = (path.scope ++ [path.name]).map String.toList := by
  exact splitOn_intercalate_names rfl (by simp)
    (List.forall_mem_append.2 ⟨dotless.scope, List.forall_mem_singleton.2 dotless.name⟩)

/-- Names without dots are the same where they are joined to the same text. -/
theorem qualifiedName_inj {left right : Path} (dotless : left.IsDotless)
    (otherDotless : right.IsDotless) (sameName : left.qualifiedName = right.qualifiedName)
    (sameKind : left.kind = right.kind) : left = right := by
  have parts := splitOn_qualifiedName dotless
  rw [sameName, splitOn_qualifiedName otherDotless] at parts
  have sameParts := (List.map_inj_right fun _ _ => String.toList_inj.1).1 parts
  obtain ⟨sameScope, sameLast⟩ := List.append_singleton_inj.1 sameParts
  cases left
  cases right
  simp_all

theorem toList_key (path : Path) :
    path.key.toList =
      ("symkey:".toList ++ (path.qualifiedName.toList ++ [':'])) ++
        ':' :: path.kind.label.toList := by
  simp [key]

theorem toList_describe (path : Path) :
    path.describe.toList =
      (path.qualifiedName.toList ++ [' ']) ++ '(' :: (path.kind.label.toList ++ [')']) := by
  simp [describe]

theorem key_inj {left right : Path} (dotless : left.IsDotless) (otherDotless : right.IsDotless)
    (same : left.key = right.key) : left = right := by
  have noColon : ∀ kind : Kind, ':' ∉ kind.label.toList := by
    intro kind
    cases kind <;> decide
  have characters := congrArg String.toList same
  rw [toList_key, toList_key] at characters
  obtain ⟨sameFront, sameLabel⟩ :=
    append_cons_inj_of_not_mem (noColon left.kind) (noColon right.kind) characters
  have sameName := List.append_cancel_right (List.append_cancel_left sameFront)
  exact qualifiedName_inj dotless otherDotless (String.toList_injective sameName)
    (Kind.label_injective (String.toList_injective sameLabel))

theorem describe_inj {left right : Path} (dotless : left.IsDotless) (otherDotless : right.IsDotless)
    (same : left.describe = right.describe) : left = right := by
  have noBracket : ∀ kind : Kind, '(' ∉ kind.label.toList ++ [')'] := by
    intro kind
    cases kind <;> decide
  have characters := congrArg String.toList same
  rw [toList_describe, toList_describe] at characters
  obtain ⟨sameFront, sameBack⟩ :=
    append_cons_inj_of_not_mem (noBracket left.kind) (noBracket right.kind) characters
  have sameLabel := List.append_cancel_right sameBack
  exact qualifiedName_inj dotless otherDotless
    (String.toList_injective (List.append_cancel_right sameFront))
    (Kind.label_injective (String.toList_injective sameLabel))

end Path

/-! ## Units of a run -/

def Request.handed : Request → List SourceUnit
  | .add unit => [unit]
  | .addMany batch => batch
  | _ => []

namespace History

theorem mem_units_add {history : History} {units : List SourceUnit} {unit : SourceUnit}
    (isUnit : unit ∈ (history.add units).units) : unit ∈ history.units ∨ unit ∈ units := by
  induction units generalizing history with
  | nil => exact Or.inl isUnit
  | cons first rest inductionHypothesis =>
      rw [add] at isUnit
      split at isUnit
      · exact Or.inl isUnit
      · rcases inductionHypothesis isUnit with isOld | isNew
        · rw [units_push, List.mem_append, List.mem_singleton] at isOld
          rw [List.mem_cons]
          tauto
        · exact Or.inr (List.mem_cons_of_mem _ isNew)

theorem mem_units_after {options : RunOptions} {history : History} {request : Request}
    {unit : SourceUnit} (isUnit : unit ∈ (history.after options request).units) :
    unit ∈ history.units ∨ unit ∈ request.handed := by
  cases request with
  | add first => exact mem_units_add (show unit ∈ (history.add [first]).units from isUnit)
  | addMany batch => exact mem_units_add (show unit ∈ (history.add batch).units from isUnit)
  | analyze | resolve =>
      rw [after, units_analyse] at isUnit
      exact Or.inl isUnit
  | suppressions =>
      rw [after] at isUnit
      split at isUnit
      · rw [units_analyse] at isUnit
        exact Or.inl isUnit
      · exact Or.inl isUnit
  | reset => exact absurd isUnit List.not_mem_nil
  | units | unitReports | diagnostics | symbols | changes => exact Or.inl isUnit

/-- The units of a run are among those that its requests brought. -/
theorem mem_units_ofRequests {options : RunOptions} {requests : List Request} {unit : SourceUnit}
    (isUnit : unit ∈ (ofRequests options requests).units) :
    ∃ request ∈ requests, unit ∈ request.handed := by
  induction requests using List.reverseRecOn with
  | nil => exact absurd isUnit List.not_mem_nil
  | append_singleton requests request inductionHypothesis =>
      rw [ofRequests_append_singleton] at isUnit
      rcases mem_units_after isUnit with isOld | isNew
      · obtain ⟨earlier, isEarlier, isHanded⟩ := inductionHypothesis isOld
        exact ⟨earlier, List.mem_append_left _ isEarlier, isHanded⟩
      · exact ⟨request, List.mem_append_right _ List.mem_cons_self, isNew⟩

end History

/-! ## Identities -/

namespace Path

/-- The paths have the same qualified name and kind. -/
def LooksLike (left right : Path) : Prop :=
  left.qualifiedName = right.qualifiedName ∧ left.kind = right.kind

end Path

theorem isDotless_of_mem_symbols {options : RunOptions} {requests : List Request}
    (parsed : ∀ request ∈ requests, ∀ unit ∈ request.handed, unit.IsParsed) {symbol : Symbol}
    (isSymbol : symbol ∈ ((Run.fresh options).performAll requests).2.symbols) :
    symbol.path.IsDotless := by
  have consistent := (History.isConsistent_of_requests options requests).2
  obtain ⟨unit, isAnalysed, declaration, isDeclared, samePath⟩ :=
    (consistent.registered symbol.path).1 (List.mem_map_of_mem isSymbol)
  rw [← samePath]
  have isUnit : unit ∈ (History.ofRequests options requests).units := by
    rw [History.snd_performAll_fresh] at isAnalysed
    exact (List.mem_filter.1 isAnalysed).1
  obtain ⟨request, isRequest, isHanded⟩ := History.mem_units_ofRequests isUnit
  exact (parsed request isRequest unit isHanded).isDotless declaration isDeclared

/-- Paths without dots in their names are told apart by their keys, by their descriptions, and by
their qualified names together with their kinds. So are the symbols of a run whose units were read
from sources, after any requests. -/
theorem Path.identities_unambiguous :
    (∀ left right : Path, left.IsDotless → right.IsDotless →
      (left.key = right.key ∨ left.LooksLike right ∨ left.describe = right.describe) →
        left = right) ∧
    ∀ (options : RunOptions) (requests : List Request),
      (∀ request ∈ requests, ∀ unit ∈ request.handed, unit.IsParsed) →
        ((Run.fresh options).performAll requests).2.symbols.Pairwise fun left right =>
          ¬ left.path.LooksLike right.path := by
  constructor
  · intro left right dotless otherDotless same
    rcases same with sameKey | looksLike | sameText
    · exact key_inj dotless otherDotless sameKey
    · exact qualifiedName_inj dotless otherDotless looksLike.1 looksLike.2
    · exact describe_inj dotless otherDotless sameText
  · intro options requests parsed
    have distinct := List.pairwise_map.1
      (Registry.nodup_symbols ((Run.fresh options).performAll requests).2.table.registry)
    apply distinct.imp_of_mem
    intro left right isLeft isRight isOther looksLike
    exact isOther (qualifiedName_inj (isDotless_of_mem_symbols parsed isLeft)
      (isDotless_of_mem_symbols parsed isRight) looksLike.1 looksLike.2)

/-- Paths of empty names in namespaces of different depth, and the method of a class in a file that
is the module `a.b`. -/
theorem Path.identities_of_class :
    let deeper : Path := ⟨["", ""], "", .constant⟩
    let shallower : Path := ⟨[""], "", .constant⟩
    let method : Path := ⟨["a", "b", "C"], "run", .instanceMethod⟩
    let source := "class C:\n\tdef run(): 0"
    let unit := SourceUnit.read (source.toList.map fun c => UInt8.ofNat c.toNat) "c.py" "a.b"
    let options : RunOptions := ⟨Catalog.standard, false, ⟨"annotate", []⟩, false, 1⟩
    let run := ((Run.fresh options).performAll [.add unit, .analyze]).2
    (deeper.IsDotless ∧ shallower.IsDotless ∧ deeper.key ≠ shallower.key) ∧
      unit.IsParsed ∧ method ∈ run.symbols.map Symbol.path ∧
        run.symbols.Pairwise fun left right => ¬ left.path.LooksLike right.path := by
  intro deeper shallower method source unit options run
  have dotless : deeper.IsDotless := ⟨by decide, by decide⟩
  have otherDotless : shallower.IsDotless := ⟨by decide, by decide⟩
  have isParsed : unit.IsParsed := ⟨_, _, _, _, rfl, by
    unfold Source.DefinesNamed
    decide +kernel⟩
  have isAnalysed : unit ∈ run.analysedUnits := by
    change unit ∈ ((Run.fresh options).performAll [.add unit, .analyze]).2.analysedUnits
    rw [History.snd_performAll_fresh,
      History.analysedUnits_replay options (History.isDistinct_ofRequests options _)]
    exact List.mem_singleton_self unit
  have isMethod : method ∈ run.symbols.map Symbol.path := by
    have consistent := (History.isConsistent_of_requests options [.add unit, .analyze]).2
    have isDeclared : (⟨["a", "b", "C"], "run", .instanceMethod, 2⟩ : Declaration) ∈
        unit.declarations := by
      decide +kernel
    exact (consistent.registered method).2 ⟨unit, isAnalysed, _, isDeclared, rfl⟩
  refine ⟨⟨dotless, otherDotless, ?_⟩, isParsed, isMethod, ?_⟩
  · intro same
    have samePath := identities_unambiguous.1 deeper shallower dotless otherDotless (Or.inl same)
    exact absurd samePath (by decide)
  · apply identities_unambiguous.2 options
    simpa [Request.handed] using isParsed

end Annotations
