import Mathlib.Data.List.Basic
import Annotations.Source.Quoted

/-!
Contract: what the scan of a string tells about the comments in it.

A step of the scan looks ahead, but only at characters that belong to the string
too. So a string scanned on its own, cut off at its end, is marked as it was
within the source. A marked run opens with `#` and goes on to a line feed, or to
the end of the source where the string is not closed.

Owns:
- `markQuoted_take`, that nothing after a string decides about its marks;
- `MarksRemarks`, the runs that marks can show, and `marksRemarks_markQuoted`.

Does not own: where strings begin; see `Annotations.Source.Lexeme`.
-/

namespace Annotations.Source

/-! ## Characters that decide about a step -/

theorem isPrefixOf_take {symbol text : List Char} {n : Nat}
    (enough : symbol.isPrefixOf text = true → symbol.length ≤ n) :
    symbol.isPrefixOf (text.take n) = symbol.isPrefixOf text := by
  rw [Bool.eq_iff_iff, List.isPrefixOf_iff_prefix, List.isPrefixOf_iff_prefix, List.prefix_take_iff]
  rw [List.isPrefixOf_iff_prefix] at enough
  exact ⟨And.left, fun isPrefix => ⟨isPrefix, enough isPrefix⟩⟩

theorem head?_take {text : List Char} {n : Nat} (enough : min 1 text.length ≤ n) :
    (text.take n).head? = text.head? := by
  cases text with
  | nil => simp
  | cons c rest =>
      cases n with
      | zero => simp at enough
      | succ n => rfl

theorem namedEscapeLength_pos (text : List Char) : 1 ≤ namedEscapeLength text := by
  unfold namedEscapeLength
  split
  · simp only
    split <;> omega
  · exact Nat.le_refl 1

theorem namedEscapeLength_take {text : List Char} {n : Nat}
    (enough : min (namedEscapeLength text + 1) text.length ≤ n) :
    namedEscapeLength (text.take n) = namedEscapeLength text := by
  have positive := namedEscapeLength_pos text
  by_cases isNamed : ∃ rest, text = 'N' :: '{' :: rest
  · obtain ⟨rest, rfl⟩ := isNamed
    obtain ⟨m, rfl⟩ : ∃ m, n = m + 2 := ⟨n - 2, by simp at enough; omega⟩
    rw [List.take_succ_cons, List.take_succ_cons]
    simp only [namedEscapeLength, List.length_cons] at enough ⊢
    rw [← List.take_takeWhile]
    -- A name that is closed is covered whole; one that is not closed is not closed earlier either.
    by_cases unclosed : ((rest.takeWhile (· != '}')).isEmpty ||
        decide ((rest.takeWhile (· != '}')).length = rest.length)) = true
    · rw [if_pos unclosed, if_pos]
      simp only [Bool.or_eq_true, List.isEmpty_iff, decide_eq_true_eq, List.length_take]
        at unclosed ⊢
      rcases unclosed with empty | whole
      · exact Or.inl (by rw [empty, List.take_nil])
      · exact Or.inr (by rw [whole])
    · rw [if_neg unclosed] at enough ⊢
      simp only [Bool.or_eq_true, List.isEmpty_iff, decide_eq_true_eq, not_or] at unclosed
      have shorter := (List.takeWhile_sublist (l := rest) (· != '}')).length_le
      have whole : (rest.takeWhile (· != '}')).take m = rest.takeWhile (· != '}') :=
        List.take_of_length_le (by omega)
      rw [whole, if_neg]
      simp only [Bool.or_eq_true, List.isEmpty_iff, decide_eq_true_eq, not_or, List.length_take]
      exact ⟨unclosed.1, by omega⟩
  · have other : ∀ rest : List Char, rest <+: text → (¬ ∃ more, rest = 'N' :: '{' :: more) := by
      rintro _ ⟨after, rfl⟩ ⟨more, rfl⟩
      exact isNamed ⟨more ++ after, rfl⟩
    have short : ∀ rest : List Char, rest <+: text → namedEscapeLength rest = 1 := by
      intro rest isPrefix
      unfold namedEscapeLength
      split
      · exact absurd ⟨_, rfl⟩ (other _ isPrefix)
      · rfl
    rw [short text List.prefix_rfl, short _ (List.take_prefix n text)]

theorem escapeLength_take (style : QuoteStyle) {text : List Char} {n : Nat}
    (enough : min (escapeLength style text + 1) text.length ≤ n) :
    escapeLength style (text.take n) = escapeLength style text := by
  cases text with
  | nil => rw [List.take_nil]
  | cons next rest =>
      cases n with
      | zero => simp at enough
      | succ n =>
          unfold escapeLength at enough ⊢
          rw [List.take_succ_cons]
          simp only at enough ⊢
          split
          · rfl
          next notRaw =>
            rw [if_neg notRaw] at enough
            split
            next isFormat =>
              rw [if_pos isFormat] at enough
              split
              · rfl
              next notBrace =>
                rw [if_neg notBrace] at enough
                rw [← List.take_succ_cons]
                exact namedEscapeLength_take enough
            · rfl

/-- How far a step can look ahead: at what it covers, and one character more if anything is open
after it. -/
def needed (stepped : List QuoteFrame × Nat) : Nat :=
  stepped.2 + if stepped.1.isEmpty then 0 else 1

theorem ofOpening_take (flags : List Char) (quote : Char) {text : List Char} {n : Nat}
    (enough : min (QuoteStyle.ofOpening flags quote text).furtherQuotes text.length ≤ n) :
    QuoteStyle.ofOpening flags quote (text.take n) = QuoteStyle.ofOpening flags quote text := by
  unfold QuoteStyle.ofOpening at enough ⊢
  by_cases isBacktick : quote = '`'
  · simp [isBacktick]
  · have same : [quote, quote].isPrefixOf (text.take n) = [quote, quote].isPrefixOf text := by
      apply isPrefixOf_take
      intro tripled
      have long := (List.isPrefixOf_iff_prefix.1 tripled).length_le
      simp [QuoteStyle.furtherQuotes, tripled, isBacktick] at enough
      simp at long ⊢
      omega
    rw [same]

theorem needed_cons (frame : QuoteFrame) (frames : List QuoteFrame) (covered : Nat) :
    needed (frame :: frames, covered) = covered + 1 := rfl

theorem le_needed (frames : List QuoteFrame) (covered : Nat) : covered ≤ needed (frames, covered) :=
  Nat.le_add_right _ _

theorem stepBody_take (style : QuoteStyle) (outer : List QuoteFrame) (c : Char) {text : List Char}
    {n : Nat} (enough : min (needed (stepBody style outer c text)) text.length ≤ n) :
    stepBody style outer c (text.take n) = stepBody style outer c text := by
  unfold stepBody at enough ⊢
  simp only at enough ⊢
  by_cases closes : c = style.quote ∧ (!style.tripled ∨ [c, c].isPrefixOf text)
  · rw [if_pos closes] at enough ⊢
    rw [if_pos]
    refine ⟨closes.1, ?_⟩
    cases tripled : style.tripled with
    | false => exact Or.inl rfl
    | true =>
        have isPair : [c, c].isPrefixOf text = true := by simpa [tripled] using closes.2
        have covers := le_needed outer style.furtherQuotes
        rw [show style.furtherQuotes = 2 by simp [QuoteStyle.furtherQuotes, tripled]]
          at covers enough
        refine Or.inr ((isPrefixOf_take ?_).trans isPair)
        intro _
        have long := (List.isPrefixOf_iff_prefix.1 isPair).length_le
        simp only [List.length_cons, List.length_nil] at long ⊢
        omega
  · -- Cutting the text can take a quote away, but it cannot add one.
    have stillOpen : ¬ (c = style.quote ∧ (!style.tripled ∨ [c, c].isPrefixOf (text.take n))) := by
      rw [List.isPrefixOf_iff_prefix] at closes ⊢
      exact fun closesEarly => closes ⟨closesEarly.1, closesEarly.2.imp_right fun isPair =>
        (List.prefix_take_iff.1 isPair).1⟩
    rw [if_neg closes] at enough ⊢
    rw [if_neg stillOpen]
    split
    next isEscape =>
      rw [if_pos isEscape, needed_cons] at enough
      rw [escapeLength_take style enough]
    next notEscape =>
      rw [if_neg notEscape] at enough
      have sameHead : (text.take n).head? = text.head? := by
        have isOpen : 1 ≤ needed (if style.format ∧ c = '{' then
            if text.head? = some '{' then (.body style :: outer, 1)
            else (.code 0 [] :: .body style :: outer, 0)
          else if style.format ∧ c = '}' ∧ text.head? = some '}' then (.body style :: outer, 1)
          else (.body style :: outer, 0)) := by
          split_ifs <;> simp [needed_cons]
        exact head?_take (by omega)
      rw [sameHead]

theorem stepCode_take (depth : Nat) (word : List Char) (outer : List QuoteFrame) (c : Char)
    {text : List Char} {n : Nat}
    (enough : min (needed (stepCode depth word outer c text)) text.length ≤ n) :
    stepCode depth word outer c (text.take n) = stepCode depth word outer c text := by
  unfold stepCode at enough ⊢
  split
  next isOpening =>
    rw [if_pos isOpening, needed_cons] at enough
    have sameStyle :=
      @ofOpening_take (if word.all isQuoteFlag then word else []) c text n (by omega)
    simp only [sameStyle]
  · rfl

theorem stepQuoted_take (frames : List QuoteFrame) (c : Char) {text : List Char} {n : Nat}
    (enough : min (needed (stepQuoted frames c text)) text.length ≤ n) :
    stepQuoted frames c (text.take n) = stepQuoted frames c text := by
  unfold stepQuoted at enough ⊢
  split
  · rfl
  · exact stepBody_take _ _ c enough
  · exact stepCode_take _ _ _ c enough
  · rfl
  · rfl

/-! ## Scans of shortened texts -/

/-- A scan marks what is covered and, where something is open, one character more. -/
theorem needed_le_length (frames : List QuoteFrame) (covered : Nat) (text : List Char) :
    min (needed (frames, covered)) text.length ≤ (scanQuoted frames covered text).length := by
  induction text generalizing frames covered with
  | nil => simp
  | cons c rest inductionHypothesis =>
      cases covered with
      | succ covered =>
          have later := inductionHypothesis frames covered
          simp only [scanQuoted, needed, List.length_cons] at later ⊢
          omega
      | zero =>
          rw [scanQuoted, needed]
          split <;> simp

/-- Nothing beyond its end decides about a scan. -/
theorem scanQuoted_take (frames : List QuoteFrame) (covered : Nat) (text : List Char) :
    scanQuoted frames covered (text.take (scanQuoted frames covered text).length) =
      scanQuoted frames covered text := by
  induction text generalizing frames covered with
  | nil => simp
  | cons c rest inductionHypothesis =>
      cases covered with
      | succ covered =>
          rw [scanQuoted, List.length_cons, List.take_succ_cons, scanQuoted, inductionHypothesis]
      | zero =>
          by_cases closed : frames.isEmpty = true
          · simp [scanQuoted, closed]
          · have enough := needed_le_length (stepQuoted frames c rest).1
              (stepQuoted frames c rest).2 rest
            rw [scanQuoted, if_neg closed]
            simp only [List.length_cons, List.take_succ_cons]
            rw [scanQuoted, if_neg closed]
            simp only [stepQuoted_take frames c enough, inductionHypothesis]
/-- A string is as long as its opening and what is scanned after it. Cut off at its end it is marked
as before. -/
theorem markQuoted_take (flags : List Char) (quote : Char) (text : List Char) :
    ∃ n, (markQuoted flags quote text).length = flags.length + (n + 1) ∧
      markQuoted flags quote (text.take n) = markQuoted flags quote text := by
  have enough := needed_le_length [.body (QuoteStyle.ofOpening flags quote text)]
    (QuoteStyle.ofOpening flags quote text).furtherQuotes text
  rw [needed_cons] at enough
  refine ⟨(scanQuoted [.body (QuoteStyle.ofOpening flags quote text)]
    (QuoteStyle.ofOpening flags quote text).furtherQuotes text).length, by simp [markQuoted], ?_⟩
  simp only [markQuoted]
  rw [ofOpening_take flags quote (by omega), scanQuoted_take]

/-! ## Marked runs -/

/-- Marks of the characters of a text, or of its first ones, that are set in remarks only. A remark
is opened by `#` and closed by a line feed. The marks may stop where none is open. -/
inductive MarksRemarks : Bool → List Char → List Bool → Prop where
  | stopped {text : List Char} : MarksRemarks false text []
  | exhausted {inRemark : Bool} : MarksRemarks inRemark [] []
  | outside {c : Char} {rest : List Char} {marks : List Bool}
      (later : MarksRemarks false rest marks) : MarksRemarks false (c :: rest) (false :: marks)
  | opened {rest : List Char} {marks : List Bool}
      (later : MarksRemarks true rest marks) : MarksRemarks false ('#' :: rest) (true :: marks)
  | within {c : Char} {rest : List Char} {marks : List Bool} (noBreak : c ≠ '\n')
      (later : MarksRemarks true rest marks) : MarksRemarks true (c :: rest) (true :: marks)
  | closed {rest : List Char} {marks : List Bool}
      (later : MarksRemarks false rest marks) : MarksRemarks true ('\n' :: rest) (false :: marks)

theorem remark_not_mem_stepBody {style : QuoteStyle} {outer : List QuoteFrame} {c : Char}
    {rest : List Char} (outside : .remark ∉ outer) :
    .remark ∉ (stepBody style outer c rest).1 := by
  unfold stepBody
  simp only
  split_ifs <;> simp [outside]

/-- Code opens a remark at `#`, and nowhere else. -/
theorem stepCode_remark {depth : Nat} {word : List Char} {outer : List QuoteFrame} {c : Char}
    {rest : List Char} (outside : .remark ∉ outer) :
    .remark ∉ (stepCode depth word outer c rest).1 ∨
      c = '#' ∧ stepCode depth word outer c rest = (.remark :: .code depth [] :: outer, 0) := by
  unfold stepCode
  by_cases opens : c = '#'
  · subst opens
    exact Or.inr ⟨rfl, rfl⟩
  · left
    rw [if_neg opens]
    split_ifs <;> simp [outside]

theorem marksRemarks_of_not_mem {frames : List QuoteFrame} {covered : Nat} {text : List Char}
    (outside : .remark ∉ frames)
    (marked : MarksRemarks (frames.head? == some .remark) text (scanQuoted frames covered text)) :
    (frames.head? == some .remark) = false ∧
      MarksRemarks false text (scanQuoted frames covered text) := by
  have notOnTop : (frames.head? == some .remark) = false := by
    rw [beq_eq_false_iff_ne]
    exact fun onTop => outside (List.mem_of_mem_head? onTop)
  rw [notOnTop] at marked
  exact ⟨notOnTop, marked⟩

/-- No frame is ever put on a remark, so the marks are those of remarks. -/
theorem marksRemarks_scanQuoted {frames : List QuoteFrame} {covered : Nat} (text : List Char)
    (below : .remark ∉ frames.tail) (uncovered : .remark ∈ frames → covered = 0) :
    MarksRemarks (frames.head? == some .remark) text (scanQuoted frames covered text) := by
  induction text generalizing frames covered with
  | nil => exact .exhausted
  | cons c rest inductionHypothesis =>
      have later : ∀ frames covered, .remark ∉ frames →
          (frames.head? == some .remark) = false ∧
            MarksRemarks false rest (scanQuoted frames covered rest) := by
        intro frames covered outside
        exact marksRemarks_of_not_mem outside (@inductionHypothesis frames covered
          (fun inTail => outside (List.mem_of_mem_tail inTail)) fun inside => absurd inside outside)
      -- A step that leaves no remark open leaves this character outside all remarks.
      have leaves : ∀ frames covered, .remark ∉ frames →
          MarksRemarks false (c :: rest)
            ((frames.head? == some .remark) :: scanQuoted frames covered rest) := by
        intro frames covered outside
        rw [(later frames covered outside).1]
        exact .outside (later frames covered outside).2
      cases covered with
      | succ covered =>
          have outside : .remark ∉ frames := fun inside => by simpa using uncovered inside
          rw [scanQuoted, (later frames covered outside).1]
          exact .outside (later frames covered outside).2
      | zero =>
          cases frames with
          | nil => exact .stopped
          | cons frame outer =>
              rw [List.tail_cons] at below
              rw [scanQuoted, if_neg (by simp)]
              cases frame with
              | body style => exact leaves _ _ (remark_not_mem_stepBody below)
              | code depth word =>
                  rcases @stepCode_remark depth word outer c rest below with
                    outside | ⟨isHash, opens⟩
                  · exact leaves _ _ outside
                  · have opened := @inductionHypothesis (.remark :: .code depth [] :: outer) 0
                      (by simpa using below) fun _ => rfl
                    simp only [stepQuoted, opens]
                    rw [isHash]
                    exact .opened opened
              | specification =>
                  simp only [stepQuoted]
                  split_ifs <;> exact leaves _ _ (by simp [below])
              | remark =>
                  by_cases isBreak : c = '\n'
                  · subst isBreak
                    simp only [stepQuoted, if_pos]
                    rw [(later outer 0 below).1]
                    exact .closed (later outer 0 below).2
                  · have within := @inductionHypothesis (.remark :: outer) 0 below fun _ => rfl
                    simp only [stepQuoted, if_neg isBreak]
                    exact .within isBreak within

theorem MarksRemarks.append {text : List Char} {marks : List Bool}
    (marked : MarksRemarks false text marks) (before : List Char) :
    MarksRemarks false (before ++ text) (before.map (fun _ => false) ++ marks) := by
  induction before with
  | nil => exact marked
  | cons c before inductionHypothesis => exact .outside inductionHypothesis

theorem marksRemarks_markQuoted (flags : List Char) (quote : Char) (text : List Char) :
    MarksRemarks false (flags ++ quote :: text) (markQuoted flags quote text) :=
  (MarksRemarks.outside (@marksRemarks_scanQuoted [.body (QuoteStyle.ofOpening flags quote text)]
    (QuoteStyle.ofOpening flags quote text).furtherQuotes text (by simp) (by simp))).append flags

end Annotations.Source
