import Annotations.Source.Token
import Annotations.Proofs.Source.Quoted
import Annotations.Proofs.Text.Runs

/-!
Contract: where the tokens and comments of a source stand.

The reader is always at the place after the lexemes it has read. So a token
begins at the place after some characters of the source, with a character that is
no line feed. The comments follow each other; each runs to the end of its line,
those in the code of format strings too.

Owns:
- the row and column after a text;
- `StartsIn` and `PlacedComment.StandsIn`, the places of tokens and comments;
- `reads_cut`, that both hold of all that is read.

Does not own: how tokens make up statements; see `Annotations.Proofs.Source.Nodes`.
-/

namespace Annotations.Source

/-! ## Positions -/

namespace Position

theorem after_append (position : Position) (first second : List Char) :
    position.after (first ++ second) = (position.after first).after second :=
  List.foldl_append

theorem after_cons (position : Position) (c : Char) (rest : List Char) :
    position.after (c :: rest) = (position.after [c]).after rest := rfl

theorem row_after (position : Position) (text : List Char) :
    (position.after text).row = position.row + text.count '\n' := by
  induction text generalizing position with
  | nil => rfl
  | cons c rest inductionHypothesis =>
      rw [after_cons, inductionHypothesis, List.count_cons]
      by_cases isBreak : c = '\n'
      · simp [after, isBreak]
        omega
      · simp [after, isBreak]

theorem column_after (position : Position) {text : List Char} (noBreak : '\n' ∉ text) :
    (position.after text).column = position.column + text.length := by
  induction text generalizing position with
  | nil => rfl
  | cons c rest inductionHypothesis =>
      rw [List.mem_cons, not_or] at noBreak
      rw [after_cons, inductionHypothesis _ noBreak.2, List.length_cons]
      simp only [after, List.foldl_cons, if_neg (Ne.symm noBreak.1), List.foldl_nil]
      omega

end Position

/-- The position is that of a character of the source which is no line feed. -/
def StartsIn (source : List Char) (position : Position) : Prop :=
  ∃ before c after, source = before ++ c :: after ∧ c ≠ '\n' ∧
    position = Position.after ⟨0, 0⟩ before

/-! ## Comments -/

/-- The comment stands in the source after these characters. It begins with `#` and runs to just
before the next line feed, or to the end. -/
structure PlacedComment.StandsIn (comment : PlacedComment) (source before : List Char) : Prop where
  start : comment.start = Position.after ⟨0, 0⟩ before
  remark : ∃ remark, comment.text = '#' :: remark ∧ '\n' ∉ remark
  lineEnd : ∃ after, source = before ++ comment.text ++ after ∧ ∀ c ∈ after.head?, c = '\n'

/-- Comments stand one after the other between two places of the source. -/
inductive StandBetween (source : List Char) :
    List Char → List Char → List PlacedComment → Prop where
  | nil {left right : List Char} (ascending : left <+: right) : StandBetween source left right []
  | cons {left before right : List Char} {comment : PlacedComment} {rest : List PlacedComment}
      (ascending : left <+: before) (stands : comment.StandsIn source before)
      (later : StandBetween source (before ++ comment.text) right rest) :
      StandBetween source left right (comment :: rest)

namespace StandBetween

variable {source : List Char}

theorem of_prefix {outer left right : List Char} {comments : List PlacedComment}
    (between : StandBetween source left right comments) (ascending : outer <+: left) :
    StandBetween source outer right comments := by
  cases between with
  | nil further => exact .nil (ascending.trans further)
  | cons further stands later => exact .cons (ascending.trans further) stands later

theorem append {left middle right : List Char} {first second : List PlacedComment}
    (before : StandBetween source left middle first)
    (after : StandBetween source middle right second) :
    StandBetween source left right (first ++ second) := by
  induction before with
  | nil ascending => exact after.of_prefix ascending
  | cons ascending stands _ inductionHypothesis =>
      exact .cons ascending stands (inductionHypothesis after)

theorem single {before : List Char} {comment : PlacedComment}
    (stands : comment.StandsIn source before) :
    StandBetween source before (before ++ comment.text) [comment] :=
  .cons List.prefix_rfl stands (.nil List.prefix_rfl)

end StandBetween

/-! ## Comments in a string -/

theorem remarks_take (position : Position) (text : List Char) (marks : List Bool)
    (current : Option PlacedComment) :
    TokenReader.remarks position (text.take marks.length) marks current =
      TokenReader.remarks position text marks current := by
  induction marks generalizing position text current with
  | nil => cases text <;> rfl
  | cons mark marks inductionHypothesis =>
      cases text with
      | nil => rfl
      | cons c rest =>
          rw [List.length_cons, List.take_succ_cons]
          cases mark <;> cases current <;> simp [TokenReader.remarks, inductionHypothesis]

/-- The runs of marked characters are comments. -/
theorem standBetween_remarks {source text : List Char} {inRemark : Bool} {marks : List Bool}
    (marked : MarksRemarks inRemark text marks) {consumed : List Char}
    (split : source = consumed ++ text) :
    (inRemark = false → StandBetween source consumed (consumed ++ text.take marks.length)
      (TokenReader.remarks (Position.after ⟨0, 0⟩ consumed) text marks none)) ∧
    (inRemark = true → ∀ before remark, consumed = before ++ '#' :: remark → '\n' ∉ remark →
      StandBetween source before (consumed ++ text.take marks.length)
        (TokenReader.remarks (Position.after ⟨0, 0⟩ consumed) text marks
          (some ⟨'#' :: remark, Position.after ⟨0, 0⟩ before⟩))) := by
  induction marked generalizing consumed with
  | stopped =>
      refine ⟨fun _ => ?_, by simp⟩
      simpa [TokenReader.remarks] using StandBetween.nil List.prefix_rfl
  | exhausted =>
      refine ⟨fun _ => ?_, ?_⟩
      · simpa [TokenReader.remarks] using StandBetween.nil List.prefix_rfl
      · intro _ before remark isConsumed noBreak
        have stands : PlacedComment.StandsIn ⟨'#' :: remark, Position.after ⟨0, 0⟩ before⟩ source
            before := ⟨rfl, ⟨remark, rfl, noBreak⟩, [], by simp [split, isConsumed], by simp⟩
        simpa [TokenReader.remarks, isConsumed] using StandBetween.single stands
  | @outside c rest marks later inductionHypothesis =>
      have whole : source = (consumed ++ [c]) ++ rest := by simp [split]
      refine ⟨fun _ => ?_, by simp⟩
      have outside := (inductionHypothesis whole).1 rfl
      rw [Position.after_append] at outside
      simpa [TokenReader.remarks] using outside.of_prefix (List.prefix_append consumed [c])
  | @opened rest marks later inductionHypothesis =>
      have whole : source = (consumed ++ ['#']) ++ rest := by simp [split]
      refine ⟨fun _ => ?_, by simp⟩
      have within := (inductionHypothesis whole).2 rfl consumed [] rfl (by simp)
      rw [Position.after_append] at within
      simpa [TokenReader.remarks] using within
  | @within c rest marks noBreak later inductionHypothesis =>
      have whole : source = (consumed ++ [c]) ++ rest := by simp [split]
      refine ⟨by simp, fun _ before remark isConsumed noneBefore => ?_⟩
      have within := (inductionHypothesis whole).2 rfl before (remark ++ [c]) (by simp [isConsumed])
        (by simp [noneBefore, Ne.symm noBreak])
      rw [Position.after_append] at within
      simpa [TokenReader.remarks] using within
  | @closed rest marks later inductionHypothesis =>
      have whole : source = (consumed ++ ['\n']) ++ rest := by simp [split]
      refine ⟨by simp, fun _ before remark isConsumed noneBefore => ?_⟩
      have stands : PlacedComment.StandsIn ⟨'#' :: remark, Position.after ⟨0, 0⟩ before⟩ source
          before :=
        ⟨rfl, ⟨remark, rfl, noneBefore⟩, '\n' :: rest, by simp [split, isConsumed], by simp⟩
      have outside := (inductionHypothesis whole).1 rfl
      rw [Position.after_append] at outside
      have onward := outside.of_prefix (List.prefix_append consumed ['\n'])
      rw [isConsumed] at onward
      simpa [TokenReader.remarks, isConsumed] using StandBetween.cons List.prefix_rfl stands onward

theorem isQuoteFlag_of_isQuote {c : Char} (quotes : isQuote c = true) : isQuoteFlag c = false := by
  unfold isQuote at quotes
  simp only [Bool.or_eq_true, beq_iff_eq] at quotes
  rcases quotes with (rfl | rfl) | rfl <;> decide

theorem quotedOpening?_eq_some_iff {text flags body : List Char} {quote : Char} :
    quotedOpening? text = some (flags, quote, body) ↔
      text = flags ++ quote :: body ∧ isQuote quote = true ∧
        ∀ flag ∈ flags, isQuoteFlag flag = true := by
  constructor
  · intro opens
    have whole := List.takeWhile_append_dropWhile (p := isQuoteFlag) (l := text)
    unfold quotedOpening? at opens
    split at opens
    next c rest atQuote =>
      split at opens
      next quotes =>
        obtain ⟨rfl, rfl, rfl⟩ := by simpa using opens
        rw [atQuote] at whole
        exact ⟨whole.symm, quotes, Text.forall_mem_takeWhile text⟩
      · contradiction
    · contradiction
  · rintro ⟨rfl, quotes, allFlags⟩
    have stops := Text.stopsRun_cons (isQuoteFlag_of_isQuote quotes) body
    unfold quotedOpening?
    rw [Text.dropWhile_run allFlags stops, Text.takeWhile_run allFlags stops]
    simp only [if_pos quotes]

/-- The comments in a string of the source follow each other within it. -/
theorem standBetween_string {source consumed after flags body : List Char} {quote : Char}
    {lexeme : Lexeme} (isString : lexeme.kind = .string)
    (opening : quotedOpening? (lexeme.text ++ after) = some (flags, quote, body))
    (cut : lexeme.text = (lexeme.text ++ after).take (markQuoted flags quote body).length)
    (split : source = consumed ++ (lexeme.text ++ after)) :
    StandBetween source consumed (consumed ++ lexeme.text)
      (TokenReader.commentsIn (Position.after ⟨0, 0⟩ consumed) lexeme) := by
  obtain ⟨isText, quotes, allFlags⟩ := quotedOpening?_eq_some_iff.1 opening
  obtain ⟨n, marksLength, marksCut⟩ := markQuoted_take flags quote body
  rw [isText] at cut
  have alone : lexeme.text = flags ++ quote :: body.take n := by
    rw [cut, marksLength, List.take_length_add_append, List.take_succ_cons]
  have opensAlone : quotedOpening? lexeme.text = some (flags, quote, body.take n) :=
    quotedOpening?_eq_some_iff.2 ⟨alone, quotes, allFlags⟩
  have between := (standBetween_remarks (marksRemarks_markQuoted flags quote body)
    (isText ▸ split)).1 rfl
  rw [← remarks_take, ← cut] at between
  unfold TokenReader.commentsIn
  rw [isString]
  simp only [opensAlone, marksCut]
  exact between

/-! ## Lexemes -/

/-- What a text begins with: a line feed, a comment up to the next one, a string up to where its
scan ends, or something that holds no comment. -/
theorem lexemeAt_cases (c : Char) (rest : List Char) :
    c = '\n' ∧ lexemeAt c rest = (.lineBreak, 1) ∨
      c ≠ '\n' ∧
        (c = '#' ∧ lexemeAt c rest = (.comment, runLength (· != '\n') (c :: rest)) ∨
          (∃ flags quote body, quotedOpening? (c :: rest) = some (flags, quote, body) ∧
            lexemeAt c rest = (.string, (markQuoted flags quote body).length)) ∨
          (lexemeAt c rest).1 ≠ .lineBreak ∧ (lexemeAt c rest).1 ≠ .comment ∧
            (lexemeAt c rest).1 ≠ .string) := by
  by_cases isBreak : c = '\n'
  · subst isBreak
    exact Or.inl ⟨rfl, rfl⟩
  · refine Or.inr ⟨isBreak, ?_⟩
    unfold lexemeAt
    simp only
    rw [if_neg isBreak]
    split
    · exact Or.inr (Or.inr (by simp))
    · split
      next isHash => exact Or.inl ⟨isHash, rfl⟩
      · right
        split
        · exact Or.inr (by simp)
        · split
          · exact Or.inr (by simp)
          · cases opening : quotedOpening? (c :: rest) with
            | some opened => exact Or.inl ⟨_, _, _, rfl, rfl⟩
            | none =>
                right
                simp only
                split_ifs <;> simp

def firstLexeme (c : Char) (rest : List Char) : Lexeme :=
  ⟨(lexemeAt c rest).1, c :: rest.take ((lexemeAt c rest).2 - 1)⟩

theorem standBetween_commentsIn {source consumed rest : List Char} {c : Char}
    (split : source = consumed ++ c :: rest) :
    StandBetween source consumed (consumed ++ (firstLexeme c rest).text)
      (TokenReader.commentsIn (Position.after ⟨0, 0⟩ consumed) (firstLexeme c rest)) := by
  have none : TokenReader.commentsIn (Position.after ⟨0, 0⟩ consumed) (firstLexeme c rest) = [] →
      StandBetween source consumed (consumed ++ (firstLexeme c rest).text)
        (TokenReader.commentsIn (Position.after ⟨0, 0⟩ consumed) (firstLexeme c rest)) := by
    intro noComment
    rw [noComment]
    exact .nil (List.prefix_append _ _)
  rcases lexemeAt_cases c rest with
    ⟨-, isBreak⟩ | ⟨-, ⟨isHash, isComment⟩ | ⟨flags, quote, body, opening, isString⟩ |
      ⟨-, noComment, noString⟩⟩
  · exact none (by simp [TokenReader.commentsIn, firstLexeme, isBreak])
  · subst isHash
    have text : (firstLexeme '#' rest).text = '#' :: rest.takeWhile (· != '\n') := by
      rw [firstLexeme, isComment, runLength, List.takeWhile_cons_of_pos (by decide),
        List.length_cons, Nat.add_sub_cancel]
      exact congrArg _ (List.prefix_iff_eq_take.1 (List.takeWhile_prefix _)).symm
    have stands : PlacedComment.StandsIn
        ⟨(firstLexeme '#' rest).text, Position.after ⟨0, 0⟩ consumed⟩ source consumed := by
      refine ⟨rfl, ⟨_, text, ?_⟩, rest.dropWhile (· != '\n'), ?_, ?_⟩
      · intro isBreak
        simpa using Text.forall_mem_takeWhile rest _ isBreak
      · rw [split, text, List.append_assoc, List.cons_append, List.takeWhile_append_dropWhile]
      · intro c isHead
        simpa using Text.stopsRun_dropWhile rest c isHead
    have commentsIn : TokenReader.commentsIn (Position.after ⟨0, 0⟩ consumed)
        (firstLexeme '#' rest) =
          [⟨(firstLexeme '#' rest).text, Position.after ⟨0, 0⟩ consumed⟩] := by
      simp [TokenReader.commentsIn, firstLexeme, isComment]
    rw [commentsIn]
    exact .single stands
  · have whole : (firstLexeme c rest).text ++ rest.drop ((lexemeAt c rest).2 - 1) = c :: rest := by
      simp [firstLexeme]
    refine standBetween_string (by simp [firstLexeme, isString]) (whole ▸ opening) ?_
      (whole ▸ split)
    obtain ⟨n, marksLength, -⟩ := markQuoted_take flags quote body
    rw [whole, firstLexeme, isString, marksLength]
    rfl
  · apply none
    unfold TokenReader.commentsIn firstLexeme
    split <;> simp_all

/-! ## The reader -/

/-- The reader has read these characters of the source. Its tokens begin in the source, and its
comments stand one after the other in what was read. -/
structure TokenReader.Reads (reader : TokenReader) (source consumed : List Char) : Prop where
  position : reader.position = Position.after ⟨0, 0⟩ consumed
  tokens : ∀ token ∈ reader.tokens, StartsIn source token.start
  comments : StandBetween source [] consumed reader.comments.reverse

theorem TokenReader.Reads.step {reader : TokenReader} {source consumed rest : List Char} {c : Char}
    (reads : reader.Reads source consumed) (split : source = consumed ++ c :: rest) :
    (reader.step (firstLexeme c rest)).Reads source (consumed ++ (firstLexeme c rest).text) := by
  have position : reader.position.after (firstLexeme c rest).text =
      Position.after ⟨0, 0⟩ (consumed ++ (firstLexeme c rest).text) := by
    rw [reads.position, Position.after_append]
  have comments := reads.comments.append (standBetween_commentsIn split)
  rw [← reads.position] at comments
  have kept : TokenReader.commentsIn reader.position (firstLexeme c rest) = [] →
      StandBetween source [] (consumed ++ (firstLexeme c rest).text) reader.comments.reverse := by
    intro none
    rwa [none, List.append_nil] at comments
  have begins : (firstLexeme c rest).kind ≠ .lineBreak → StartsIn source reader.position := by
    intro isOther
    refine ⟨consumed, c, rest, split, ?_, reads.position⟩
    rintro rfl
    exact isOther rfl
  unfold TokenReader.step
  simp only
  split
  next isBlank => exact ⟨position, reads.tokens, kept (by simp [commentsIn, isBlank])⟩
  next isBreak => exact ⟨position, reads.tokens, kept (by simp [commentsIn, isBreak])⟩
  next isContinuation =>
    exact ⟨position, reads.tokens, kept (by simp [commentsIn, isContinuation])⟩
  next => exact ⟨position, reads.tokens, by simpa using comments⟩
  next notBreak _ _ =>
    refine ⟨position, ?_, by simpa using comments⟩
    exact List.forall_mem_cons.2 ⟨begins notBreak, reads.tokens⟩

theorem TokenReader.Reads.foldl {reader : TokenReader} {source consumed text : List Char}
    (reads : reader.Reads source consumed) (split : source = consumed ++ text) :
    ((Lexeme.cut text).foldl TokenReader.step reader).Reads source source := by
  induction text using Lexeme.cut.induct generalizing reader consumed with
  | case1 =>
      rw [List.append_nil] at split
      rw [Lexeme.cut, List.foldl_nil, split]
      exact split ▸ reads
  | case2 c rest kind length found inductionHypothesis =>
      have isFirst : (⟨kind, c :: rest.take (length - 1)⟩ : Lexeme) = firstLexeme c rest := by
        rw [firstLexeme, found]
      rw [Lexeme.cut, found]
      simp only [List.foldl_cons]
      rw [isFirst]
      refine inductionHypothesis (reads.step split) ?_
      rw [split, ← isFirst]
      simp

/-- Every token of a source begins in it with a character that is no line feed, and its comments
stand one after the other. -/
theorem reads_cut (source : List Char) :
    (∀ token ∈ (Token.read source).1, StartsIn source token.start) ∧
      StandBetween source [] source (Token.read source).2 := by
  have reads : TokenReader.start.Reads source [] :=
    ⟨rfl, by simp [TokenReader.start], .nil List.prefix_rfl⟩
  have whole := reads.foldl (List.nil_append source).symm
  refine ⟨fun token isToken => whole.tokens token ?_, whole.comments⟩
  simpa [Token.read] using isToken

end Annotations.Source
