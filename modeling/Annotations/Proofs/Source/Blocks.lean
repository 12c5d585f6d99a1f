import Annotations.Proofs.Source.Sequence
import Annotations.Proofs.Source.Tokens

/-!
Contract: the tree that is built of a source is in order.

The reader takes tokens from top to bottom, and arranging them in lines and
blocks keeps their order. The name of a definition stands before what follows its
colon, and its block comes after its line. So of all nodes that a walk can find
the rows do not decrease in preorder.

Owns:
- `pairwise_rows_read`, the order of the tokens of a source;
- `KeepsOrder` for definitions and blocks, and `isInOrder_moduleNode`.

Does not own: what a walk finds in the tree; see
`Annotations.Proofs.Source.Ascent`.
-/

namespace Annotations.Source

/-! ## Tokens -/

/-- The tokens read so far go down the source, and the reader is not above any of them. -/
structure TokenReader.Descends (reader : TokenReader) : Prop where
  tokens : reader.tokens.reverse.Pairwise fun earlier later => earlier.start.row ≤ later.start.row
  position : ∀ token ∈ reader.tokens, token.start.row ≤ reader.position.row

theorem TokenReader.Descends.step {reader : TokenReader} (descends : reader.Descends)
    (lexeme : Lexeme) : (reader.step lexeme).Descends := by
  have further : reader.position.row ≤ (reader.position.after lexeme.text).row := by
    rw [Position.row_after]
    exact Nat.le_add_right _ _
  have position : ∀ token ∈ reader.tokens,
      token.start.row ≤ (reader.position.after lexeme.text).row :=
    fun token isToken => (descends.position token isToken).trans further
  unfold TokenReader.step
  simp only
  split
  · exact ⟨descends.tokens, position⟩
  · exact ⟨descends.tokens, position⟩
  · exact ⟨descends.tokens, position⟩
  · exact ⟨descends.tokens, position⟩
  · constructor
    case tokens =>
      rw [List.reverse_cons, List.pairwise_append]
      refine ⟨descends.tokens, List.pairwise_singleton _ _, ?_⟩
      intro token isToken new isNew
      rw [List.mem_singleton.1 isNew]
      exact descends.position token (List.mem_reverse.1 isToken)
    case position => exact List.forall_mem_cons.2 ⟨further, position⟩

theorem TokenReader.Descends.foldl {reader : TokenReader} (descends : reader.Descends)
    (lexemes : List Lexeme) : (lexemes.foldl TokenReader.step reader).Descends := by
  induction lexemes generalizing reader with
  | nil => exact descends
  | cons lexeme rest inductionHypothesis => exact inductionHypothesis (descends.step lexeme)

/-- The tokens of a source go down its rows. -/
theorem pairwise_rows_read (source : List Char) :
    (Token.read source).1.Pairwise fun earlier later => earlier.start.row ≤ later.start.row := by
  have started : TokenReader.start.Descends := ⟨.nil, by simp [TokenReader.start]⟩
  exact (started.foldl (Lexeme.cut source)).tokens

/-! ## Headers -/

theorem separates_of_cutFirst? {separates : Group → Bool} {lambdas : Nat}
    {groups before after : List Group} {sign : Group}
    (found : cutFirst? separates lambdas groups = some (before, sign, after)) :
    separates sign = true := by
  induction groups generalizing lambdas before with
  | nil => contradiction
  | cons group rest inductionHypothesis =>
      unfold cutFirst? at found
      split at found
      next isSign =>
        obtain ⟨-, rfl, -⟩ : [] = before ∧ group = sign ∧ rest = after := by simpa using found
        exact (Bool.and_eq_true_iff.1 isSign).2
      · obtain ⟨⟨inner, other, rest'⟩, foundLater, same⟩ := Option.map_eq_some_iff.1 found
        obtain ⟨-, rfl, rfl⟩ : group :: inner = before ∧ other = sign ∧ rest' = after := by
          simpa using same
        exact inductionHypothesis foundLater

theorem isSymbol_of_isWord {group : Group} {word : String} (isWord : group.isWord word = true)
    (symbol : String) : group.isSymbol symbol = false := by
  cases group with
  | bracket opening items closing => rfl
  | leaf token =>
      obtain ⟨isKind, -⟩ := Bool.and_eq_true_iff.1 isWord
      simp [Group.isSymbol, Token.isSymbol, eq_of_beq isKind]

theorem isWord_of_ne {group : Group} {word other : String} (isWord : group.isWord word = true)
    (different : word.toList ≠ other.toList) : group.isWord other = false := by
  cases group with
  | bracket opening items closing => rfl
  | leaf token =>
      obtain ⟨-, isText⟩ := Bool.and_eq_true_iff.1 isWord
      simp [Group.isWord, Token.isWord, eq_of_beq isText, different]

def nameNode (name : Group) : Node :=
  (nodeAt .identifier name [name] []).withRole .name

theorem keyword_of_definition {inMatch : Bool} {line : LogicalLine}
    (isDefinition : Header.of inMatch line = .classDefinition ∨
      Header.of inMatch line = .functionDefinition) :
    (line.first.isWord "def" = true ∨ line.first.isWord "class" = true) ∨
      line.first.isWord "async" = true ∧ line.rest.head?.any (Group.isWord · "def") = true := by
  unfold Header.of at isDefinition
  split_ifs at isDefinition <;> simp_all

/-- The line of a definition begins with keywords, and its name is the first group after them. -/
theorem exists_keywords {inMatch : Bool} {line : LogicalLine}
    (isDefinition : Header.of inMatch line = .classDefinition ∨
      Header.of inMatch line = .functionDefinition) :
    ∃ keywords further, line.rest = keywords ++ further ∧
      (∀ group ∈ line.first :: keywords, group.isSymbol ":" = false) ∧
      definitionName? line.groups = further.head?.map nameNode := by
  unfold definitionName? LogicalLine.groups
  rcases keyword_of_definition isDefinition with isKeyword | ⟨isAsync, isAsyncDef⟩
  · refine ⟨[], line.rest, rfl, ?_, ?_⟩
    · rw [List.forall_mem_singleton]
      exact isKeyword.elim (isSymbol_of_isWord · ":") (isSymbol_of_isWord · ":")
    · have stops : (line.first.isWord "def" || line.first.isWord "class") = true := by
        simpa using isKeyword
      rw [List.dropWhile_cons_of_neg (by rw [stops]; decide)]
      cases line.rest <;> rfl
  · cases rest : line.rest with
    | nil => simp [rest] at isAsyncDef
    | cons second further =>
        have isDef : second.isWord "def" = true := by simpa [rest] using isAsyncDef
        have notDef : line.first.isWord "def" = false := isWord_of_ne isAsync (by decide)
        have notClass : line.first.isWord "class" = false := isWord_of_ne isAsync (by decide)
        refine ⟨[second], further, rfl, ?_, ?_⟩
        · rw [List.forall_mem_cons, List.forall_mem_singleton]
          exact ⟨isSymbol_of_isWord isAsync ":", isSymbol_of_isWord isDef ":"⟩
        · rw [List.dropWhile_cons_of_pos (by simp [notDef, notClass]),
            List.dropWhile_cons_of_neg (by simp [isDef])]
          cases further <;> rfl

theorem afterHeader_sublist (line : LogicalLine) : (afterHeader line).Sublist line.groups := by
  unfold afterHeader
  split
  next before sign after cut =>
    rw [append_of_cutFirst? cut]
    exact (List.sublist_cons_self sign after).trans (List.sublist_append_right _ _)
  · exact List.nil_sublist _

/-- The name of a definition stands before what follows its colon. -/
theorem exists_name_sublist {inMatch : Bool} {line : LogicalLine}
    (isDefinition : Header.of inMatch line = .classDefinition ∨
      Header.of inMatch line = .functionDefinition) :
    ∃ name? : Option Group, definitionName? line.groups = name?.map nameNode ∧
      (name?.toList ++ afterHeader line).Sublist line.rest := by
  obtain ⟨keywords, further, isRest, noColon, named⟩ := exists_keywords isDefinition
  refine ⟨further.head?, named, ?_⟩
  rw [isRest]
  refine List.Sublist.trans ?_ (List.sublist_append_right keywords further)
  unfold afterHeader
  split
  next before sign after cut =>
    have isColon := separates_of_cutFirst? cut
    have split : (line.first :: keywords) ++ further = before ++ sign :: after := by
      rw [← append_of_cutFirst? cut, LogicalLine.groups, isRest, List.cons_append]
    rcases List.append_eq_append_iff.1 split with ⟨between, -, rfl⟩ | ⟨between, inKeywords, split⟩
    · cases between with
      | nil => exact .refl _
      | cons name between =>
          have dropped : after.Sublist (between ++ sign :: after) :=
            (List.sublist_cons_self sign after).trans (List.sublist_append_right _ _)
          exact dropped.cons_cons name
    · cases between with
      | nil =>
          obtain rfl : sign :: after = further := split
          exact .refl _
      | cons first between =>
          -- The colon is none of the keywords.
          obtain ⟨rfl, -⟩ := List.cons.inj split
          rw [noColon sign (by simp [inKeywords])] at isColon
          contradiction
  · rw [List.append_nil]
    cases further with
    | nil => exact .refl _
    | cons name further => exact (List.nil_sublist further).cons_cons name

/-! ## Compound statements -/

def lineStarts (lines : List LogicalLine) : List Position :=
  lines.flatMap fun line => Group.starts line.groups

theorem keepsOrder_blockNode {start : Position} {statements : List Node} {places : List Position}
    (keeps : KeepsOrder statements places) : KeepsOrder [blockNode start statements] places :=
  .ofHidden keeps rfl (by simp [blockNode])

theorem keepsOrder_nameNode (name? : Option Group) :
    KeepsOrder (name?.map nameNode).toList (Group.starts name?.toList) := by
  cases name? with
  | none => exact .nil _
  | some name => exact (KeepsOrder.ofLeaf (by simp) name _ []).withRole .name

/-- A definition begins with its line; its name and what follows its colon come after, and then its
block. -/
theorem keepsOrder_definitionNode {inMatch : Bool} {line : LogicalLine} {kind : NodeKind}
    (isDefinition : Header.of inMatch line = .classDefinition ∨
      Header.of inMatch line = .functionDefinition)
    (isOther : kind ≠ .assignment) {body : Node} {places : List Position}
    (keeps : KeepsOrder [body] (Group.starts (afterHeader line) ++ places)) :
    KeepsOrder [definitionNode kind line body] (Group.starts line.groups ++ places) := by
  obtain ⟨name?, named, inRest⟩ := exists_name_sublist isDefinition
  have below := (keepsOrder_nameNode name?).append keeps
  rw [← named, ← List.append_assoc, ← Group.starts_append] at below
  have definition := KeepsOrder.ofNode (definitionNode kind line body) below isOther
  refine definition.mono ?_
  rw [← List.cons_append]
  exact (Group.cons_sublist_starts line.first (Group.starts_sublist inRest)).append (.refl places)

theorem keepsOrder_decoratorNode (line : LogicalLine) : KeepsOrder [decoratorNode line] [] := by
  refine KeepsOrder.ofHidden ?_ rfl (by simp [decoratorNode])
  unfold decoratorNode
  cases line.rest with
  | nil => exact .nil []
  | cons first rest => exact KeepsOrder.ofHidden (.nil []) rfl (by simp [valueNode, nodeAt])

theorem keepsOrder_decorate {decorators : List Node} {definition : Node} {places : List Position}
    (hidden : KeepsOrder decorators []) (keeps : KeepsOrder [definition] places) :
    KeepsOrder [decorate decorators definition] places := by
  cases decorators with
  | nil => exact keeps
  | cons first rest =>
      exact KeepsOrder.ofHidden (hidden.append (keeps.withRole .definition)) rfl
        (by simp [decorate])

mutual

/-- The nodes of a line and its block keep the order of their tokens. A decorator has no node that a
walk can find, so those still without their definition take up no place. -/
theorem keepsOrder_lineNodes (inMatch : Bool) : ∀ (outline : Outline) (decorators : List Node),
    KeepsOrder decorators [] →
      KeepsOrder (lineNodes inMatch decorators outline).1 (lineStarts outline.lines) ∧
        KeepsOrder (lineNodes inMatch decorators outline).2 []
  | .line line block, decorators, hidden => by
      have bodyKeeps : KeepsOrder [blockNode line.first.first.start
          (simpleStatements (afterHeader line) ++
            blockNodes (Header.of inMatch line == .matching) [] block)]
          (Group.starts (afterHeader line) ++ lineStarts (linesOfAll block)) :=
        keepsOrder_blockNode ((keepsOrder_simpleStatements (afterHeader line)).append
          (keepsOrder_blockNodes _ block [] (.nil [])))
      have whole : lineStarts (Outline.lines (.line line block)) =
          Group.starts line.groups ++ lineStarts (linesOfAll block) := by
        rw [Outline.lines, lineStarts, List.flatMap_cons]
        rfl
      rw [whole]
      unfold lineNodes
      simp only
      -- The header decides only what the body is wrapped in.
      generalize blockNode line.first.first.start (simpleStatements (afterHeader line) ++
        blockNodes (Header.of inMatch line == .matching) [] block) = body at bodyKeeps ⊢
      have compound : ∀ kind : NodeKind,
          (⟨kind, none, line.first.first.start, "", [body]⟩ : Node).isFindable = false →
          kind ≠ .assignment →
          KeepsOrder [⟨kind, none, line.first.first.start, "", [body]⟩]
            (Group.starts line.groups ++ lineStarts (linesOfAll block)) := by
        intro kind isHidden isOther
        refine KeepsOrder.ofHidden (bodyKeeps.mono ?_) isHidden fun isAssignment =>
          absurd isAssignment isOther
        exact (Group.starts_sublist (afterHeader_sublist line)).append (.refl _)
      split
      · exact ⟨(keepsOrder_simpleStatements line.groups).mono (List.sublist_append_left _ _),
          .nil []⟩
      · exact ⟨compound .statement rfl (by simp), .nil []⟩
      · exact ⟨compound .statement rfl (by simp), .nil []⟩
      · exact ⟨compound .clause rfl (by simp), .nil []⟩
      next isClass =>
        exact ⟨keepsOrder_decorate hidden
          (keepsOrder_definitionNode (Or.inl isClass) (by simp) bodyKeeps), .nil []⟩
      next isFunction =>
        exact ⟨keepsOrder_decorate hidden
          (keepsOrder_definitionNode (Or.inr isFunction) (by simp) bodyKeeps), .nil []⟩
      · exact ⟨.nil _, hidden.append (keepsOrder_decoratorNode line)⟩

theorem keepsOrder_blockNodes (inMatch : Bool) : ∀ (block : List Outline) (decorators : List Node),
    KeepsOrder decorators [] →
      KeepsOrder (blockNodes inMatch decorators block) (lineStarts (linesOfAll block))
  | [], _, _ => .nil _
  | outline :: rest, decorators, hidden => by
      obtain ⟨keeps, waiting⟩ := keepsOrder_lineNodes inMatch outline decorators hidden
      have whole : lineStarts (linesOfAll (outline :: rest)) =
          lineStarts outline.lines ++ lineStarts (linesOfAll rest) := by
        rw [linesOfAll, lineStarts, List.flatMap_append]
        rfl
      rw [blockNodes, whole]
      exact keeps.append (keepsOrder_blockNodes inMatch rest _ waiting)

end

/-! ## The tree of a source -/

theorem keepsOrder_commentNodes (comments : List PlacedComment) :
    KeepsOrder (comments.map commentNode) [] := by
  induction comments with
  | nil => exact .nil []
  | cons comment rest inductionHypothesis =>
      have first : KeepsOrder [commentNode comment] [] :=
        .ofHidden (.nil []) rfl (by simp [commentNode])
      exact first.append inductionHypothesis

theorem keepsOrder_moduleNode (source : List Char) :
    KeepsOrder [moduleNode source] ((Token.read source).1.map Token.start) := by
  have lines : lineStarts (linesOfAll (Outline.ofLines (LogicalLine.ofGroups
      (Group.ofTokens (Token.read source).1)))) = (Token.read source).1.map Token.start := by
    have tokens := congrArg (List.map Token.start) (flatMap_tokens_ofLines (Token.read source).1)
    rw [List.map_flatMap] at tokens
    exact tokens
  have statements := keepsOrder_blockNodes false (Outline.ofLines (LogicalLine.ofGroups
    (Group.ofTokens (Token.read source).1))) [] (.nil [])
  rw [lines] at statements
  have children := statements.append (keepsOrder_commentNodes (Token.read source).2)
  rw [List.append_nil] at children
  exact KeepsOrder.ofHidden children rfl (by simp [moduleNode])

/-- The tree that is built of a source is in order. -/
theorem isInOrder_moduleNode (source : List Char) : (moduleNode source).IsInOrder := by
  have keeps := keepsOrder_moduleNode source
  have rows : ((Token.read source).1.map Token.start).Pairwise fun earlier later =>
      earlier.row ≤ later.row := List.pairwise_map.2 (pairwise_rows_read source)
  exact ⟨rows.sublist keeps.starts, keeps.sides⟩

end Annotations.Source
