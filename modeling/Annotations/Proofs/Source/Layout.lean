import Annotations.Source.Group

/-!
Contract: arranging tokens loses none of them and keeps their order.

Brackets, logical lines and blocks only add structure. Read off again from left
to right, groups give the tokens they were built of, lines the groups, and
outlines the lines. Where a statement is cut, each part holds groups of the
statement.

Owns:
- `tokensOfAll_ofTokens`, `flatMap_groups_ofGroups` and `linesOfAll_ofLines`;
- the parts that the cuts leave, as sublists of what is cut.
-/

namespace Annotations.Source

/-! ## Brackets -/

namespace Group

theorem tokensOfAll_append (left right : List Group) :
    tokensOfAll (left ++ right) = tokensOfAll left ++ tokensOfAll right := by
  induction left with
  | nil => rfl
  | cons group rest inductionHypothesis =>
      rw [List.cons_append, tokensOfAll, tokensOfAll, inductionHypothesis, List.append_assoc]

theorem tokensOfAll_reverse_cons (group : Group) (before : List Group) :
    tokensOfAll (group :: before).reverse = tokensOfAll before.reverse ++ group.tokens := by
  rw [List.reverse_cons, tokensOfAll_append, tokensOfAll, tokensOfAll, List.append_nil]

/-- The tokens up to the last bracket that is open. -/
def openTokens : List OpenBracket → List Token
  | [] => []
  | (opening, outer) :: rest => openTokens rest ++ tokensOfAll outer.reverse ++ [opening]

theorem tokensOfAll_closeAll (items : List Group) (brackets : List OpenBracket) :
    tokensOfAll (closeAll items brackets) = openTokens brackets ++ tokensOfAll items.reverse := by
  induction brackets generalizing items with
  | nil => rfl
  | cons bracket rest inductionHypothesis =>
      obtain ⟨opening, outer⟩ := bracket
      rw [closeAll, inductionHypothesis, tokensOfAll_reverse_cons, openTokens, tokens]
      simp

theorem tokensOfAll_build (brackets : List OpenBracket) (items : List Group) (tokens : List Token) :
    tokensOfAll (build brackets items tokens) =
      openTokens brackets ++ tokensOfAll items.reverse ++ tokens := by
  induction tokens generalizing brackets items with
  | nil => rw [build, tokensOfAll_closeAll, List.append_nil]
  | cons token rest inductionHypothesis =>
      unfold build
      split
      · rw [inductionHypothesis, openTokens]
        simp [tokensOfAll]
      · split
        · cases brackets with
          | nil =>
              rw [inductionHypothesis, tokensOfAll_reverse_cons, Group.tokens]
              simp
          | cons bracket brackets =>
              obtain ⟨opening, outer⟩ := bracket
              simp only
              rw [inductionHypothesis, tokensOfAll_reverse_cons, Group.tokens, openTokens]
              simp
        · rw [inductionHypothesis, tokensOfAll_reverse_cons, Group.tokens]
          simp

theorem tokensOfAll_ofTokens (tokens : List Token) : tokensOfAll (ofTokens tokens) = tokens := by
  rw [ofTokens, tokensOfAll_build]
  rfl

theorem mem_tokensOfAll_iff {groups : List Group} {token : Token} :
    token ∈ tokensOfAll groups ↔ ∃ group ∈ groups, token ∈ group.tokens := by
  induction groups with
  | nil => simp [tokensOfAll]
  | cons first rest inductionHypothesis =>
      rw [tokensOfAll, List.mem_append, inductionHypothesis]
      simp

theorem first_mem_tokens (group : Group) : group.first ∈ group.tokens := by
  cases group with
  | leaf token => simp [first, tokens]
  | bracket opening items closing => simp [first, tokens]

end Group

/-! ## Lines -/

theorem LogicalLine.flatMap_groups_ofGroups (groups : List Group) :
    (LogicalLine.ofGroups groups).flatMap LogicalLine.groups = groups := by
  induction groups with
  | nil => rfl
  | cons group rest inductionHypothesis =>
      rw [ofGroups]
      cases following : ofGroups rest with
      | nil =>
          rw [following] at inductionHypothesis
          obtain rfl : [] = rest := inductionHypothesis
          rfl
      | cons line lines =>
          rw [following, List.flatMap_cons] at inductionHypothesis
          simp only
          split
          · rw [List.flatMap_cons, List.flatMap_cons, inductionHypothesis]
            rfl
          · rw [List.flatMap_cons]
            exact congrArg (group :: ·) inductionHypothesis

/-! ## Blocks -/

mutual

def Outline.lines : Outline → List LogicalLine
  | .line line block => line :: linesOfAll block

def linesOfAll : List Outline → List LogicalLine
  | [] => []
  | outline :: rest => outline.lines ++ linesOfAll rest

end

theorem linesOfAll_append (left right : List Outline) :
    linesOfAll (left ++ right) = linesOfAll left ++ linesOfAll right := by
  induction left with
  | nil => rfl
  | cons outline rest inductionHypothesis =>
      rw [List.cons_append, linesOfAll, linesOfAll, inductionHypothesis, List.append_assoc]

theorem linesOfAll_reverse_cons (line : LogicalLine) (block before : List Outline) :
    linesOfAll (.line line block :: before).reverse =
      linesOfAll before.reverse ++ line :: linesOfAll block := by
  rw [List.reverse_cons, linesOfAll_append, linesOfAll, linesOfAll, List.append_nil, Outline.lines]

namespace OutlineReader

/-- The lines up to the header of the innermost open block. -/
def openLines : List OpenOutline → List LogicalLine
  | [] => []
  | block :: enclosing => openLines enclosing ++ linesOfAll block.before.reverse ++ [block.header]

def linesRead (reader : OutlineReader) : List LogicalLine :=
  openLines reader.enclosing ++ linesOfAll reader.lines.reverse ++ reader.waiting.toList

theorem linesRead_openWaiting (reader : OutlineReader) (margin : Nat) :
    (reader.openWaiting margin).linesRead = reader.linesRead := by
  obtain ⟨enclosing, level, lines, waiting⟩ := reader
  unfold openWaiting
  cases waiting with
  | none => rfl
  | some header =>
      simp only
      split
      · simp [linesRead, openLines, linesOfAll]
      · simp [linesRead, linesOfAll_append, linesOfAll, Outline.lines]

theorem waiting_openWaiting (reader : OutlineReader) (margin : Nat) :
    (reader.openWaiting margin).waiting = none := by
  obtain ⟨enclosing, level, lines, waiting⟩ := reader
  unfold openWaiting
  cases waiting with
  | none => rfl
  | some header =>
      simp only
      split <;> rfl

theorem lines_closeBeyond (margin level : Nat) (lines : List Outline)
    (enclosing : List OpenOutline) :
    openLines (closeBeyond margin level lines enclosing).1 ++
        linesOfAll (closeBeyond margin level lines enclosing).2.2.reverse =
      openLines enclosing ++ linesOfAll lines.reverse := by
  induction enclosing generalizing level lines with
  | nil => rfl
  | cons block enclosing inductionHypothesis =>
      unfold closeBeyond
      split
      · rw [inductionHypothesis, linesOfAll_reverse_cons, openLines]
        simp
      · rfl

theorem linesRead_step (reader : OutlineReader) (line : LogicalLine) :
    (reader.step line).linesRead = reader.linesRead ++ [line] := by
  have opened := linesRead_openWaiting reader line.margin
  rw [linesRead, waiting_openWaiting, Option.toList_none, List.append_nil,
    ← lines_closeBeyond line.margin (reader.openWaiting line.margin).level] at opened
  rw [← opened]
  unfold step
  simp only
  split
  · rfl
  · simp [linesRead, linesOfAll_append, linesOfAll, Outline.lines]

theorem linesRead_foldl (reader : OutlineReader) (lines : List LogicalLine) :
    (lines.foldl step reader).linesRead = reader.linesRead ++ lines := by
  induction lines generalizing reader with
  | nil => exact (List.append_nil _).symm
  | cons line rest inductionHypothesis =>
      rw [List.foldl_cons, inductionHypothesis, linesRead_step, List.append_assoc]
      rfl

theorem linesOfAll_finish (lines : List Outline) (enclosing : List OpenOutline) :
    linesOfAll (finish lines enclosing) = openLines enclosing ++ linesOfAll lines.reverse := by
  induction enclosing generalizing lines with
  | nil => rfl
  | cons block enclosing inductionHypothesis =>
      rw [finish, inductionHypothesis, linesOfAll_reverse_cons, openLines]
      simp

end OutlineReader

theorem linesOfAll_ofLines (lines : List LogicalLine) :
    linesOfAll (Outline.ofLines lines) = lines := by
  have opened := OutlineReader.linesRead_openWaiting
    (lines.foldl OutlineReader.step OutlineReader.start) 0
  rw [OutlineReader.linesRead, OutlineReader.waiting_openWaiting, Option.toList_none,
    List.append_nil, OutlineReader.linesRead_foldl] at opened
  rw [Outline.ofLines, OutlineReader.linesOfAll_finish]
  exact opened

/-- The tokens of a source come back from its outlines, line after line. -/
theorem flatMap_tokens_ofLines (tokens : List Token) :
    (linesOfAll (Outline.ofLines (LogicalLine.ofGroups (Group.ofTokens tokens)))).flatMap
      (fun line => Group.tokensOfAll line.groups) = tokens := by
  have inOrder : ∀ lines : List LogicalLine,
      lines.flatMap (fun line => Group.tokensOfAll line.groups) =
        Group.tokensOfAll (lines.flatMap LogicalLine.groups) := by
    intro lines
    induction lines with
    | nil => rfl
    | cons line rest inductionHypothesis =>
        rw [List.flatMap_cons, List.flatMap_cons, Group.tokensOfAll_append, inductionHypothesis]
  rw [inOrder, linesOfAll_ofLines, LogicalLine.flatMap_groups_ofGroups, Group.tokensOfAll_ofTokens]

/-! ## Cuts -/

theorem append_of_cutFirst? {separates : Group → Bool} {lambdas : Nat}
    {groups before after : List Group} {sign : Group}
    (found : cutFirst? separates lambdas groups = some (before, sign, after)) :
    groups = before ++ sign :: after := by
  induction groups generalizing lambdas before with
  | nil => contradiction
  | cons group rest inductionHypothesis =>
      unfold cutFirst? at found
      split at found
      · obtain ⟨rfl, rfl, rfl⟩ : [] = before ∧ group = sign ∧ rest = after := by
          simpa using found
        rfl
      · obtain ⟨⟨inner, other, rest'⟩, foundLater, same⟩ := Option.map_eq_some_iff.1 found
        obtain ⟨rfl, rfl, rfl⟩ : group :: inner = before ∧ other = sign ∧ rest' = after := by
          simpa using same
        rw [inductionHypothesis foundLater]
        rfl

theorem sublist_of_mem_cutAll {separates : Group → Bool} {lambdas : Nat}
    {current groups part : List Group} (isPart : part ∈ cutAll separates lambdas current groups) :
    part.Sublist (current.reverse ++ groups) := by
  induction groups generalizing lambdas current with
  | nil =>
      rw [cutAll, List.mem_singleton] at isPart
      rw [isPart]
      exact List.sublist_append_left _ _
  | cons first rest inductionHypothesis =>
      unfold cutAll at isPart
      split at isPart
      · rcases List.mem_cons.1 isPart with rfl | later
        · exact List.sublist_append_left _ _
        · exact ((inductionHypothesis later).trans (List.sublist_cons_self first rest)).trans
            (List.sublist_append_right _ _)
      · simpa using inductionHypothesis isPart

theorem sublist_of_mem_cutAt {symbol : String} {groups part : List Group}
    (isPart : part ∈ cutAt symbol groups) : part.Sublist groups :=
  sublist_of_mem_cutAll isPart

end Annotations.Source
