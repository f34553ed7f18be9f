import Mathlib.Data.List.Forall2
import ModuleGlue.Proofs.Source.TextReading

/-!
Contract: several lines of code.

As with the tokens of one line, what a text is scanned to is told from its end: its first line stands
in front of the lines of what follows it. So are the statements that nested lines form.

Main statements: `ScansLines.line` (a line in front of others, which may open a block or close some),
`Forms.line` and `Forms.block` (a statement in front of others), `ofText_of_forms`.

Owns: the outlines of lines, which leave gaps and places out, and what nested lines form.

Does not own: how the tokens of a line are scanned, and what they are read as.
-/

namespace ModuleGlue.Source

open ModuleGlue.Text

/-- What a line is, the gaps between its tokens and its place aside. -/
structure Outline where
  depth : Nat
  indent : List Char
  spelled : List (TokenKind × String)

/-- A line with the given outline, with nothing above it and nothing behind its tokens. -/
structure FlatLine.HasOutline (line : FlatLine) (outline : Outline) : Prop where
  above : line.above = []
  depth : line.depth = outline.depth
  indent : line.indent = outline.indent
  spelled : line.tokens.map Token.spelling = outline.spelled
  ending : line.ending = .plain

/-- Such a line is made by its tokens. -/
theorem FlatLine.HasOutline.exists_tokens {line : FlatLine} {outline : Outline}
    (has : line.HasOutline outline) :
    ∃ tokens, line = ⟨[], outline.depth, outline.indent, tokens, .plain⟩ ∧
      tokens.map Token.spelling = outline.spelled := by
  refine ⟨line.tokens, ?_, has.spelled⟩
  rw [← has.above, ← has.depth, ← has.indent, ← has.ending]

/-- So is the first of some lines. -/
theorem exists_tokens_cons {lines : List FlatLine} {outline : Outline} {outlines : List Outline}
    (has : List.Forall₂ FlatLine.HasOutline lines (outline :: outlines)) :
    ∃ tokens others, lines = ⟨[], outline.depth, outline.indent, tokens, .plain⟩ :: others ∧
      tokens.map Token.spelling = outline.spelled ∧
        List.Forall₂ FlatLine.HasOutline others outlines := by
  cases has with
  | cons first others =>
      obtain ⟨tokens, rfl, spelled⟩ := first.exists_tokens
      exact ⟨tokens, _, rfl, spelled, others⟩

/-- With the given blocks open, a text with line feeds is scanned to lines with the given
outlines. -/
def ScansLines (levels : List Level) (text : List Char) (outlines : List Outline) : Prop :=
  ∀ position fuel, text.length < fuel →
    ∃ lines, scanLines ['\n'] fuel levels position text = some (lines, []) ∧
      List.Forall₂ FlatLine.HasOutline lines outlines

/-- Nothing is scanned to no lines. -/
theorem ScansLines.nil (levels : List Level) : ScansLines levels [] [] := by
  intro position fuel enough
  obtain ⟨fuel, rfl⟩ := Nat.exists_eq_succ_of_ne_zero (Nat.ne_of_gt enough)
  exact ⟨[], rfl, .nil⟩

/-- **A line in front of others.** Its indentation tells which blocks are open behind it. -/
theorem ScansLines.line {levels open_ : List Level} {indent text rest : List Char}
    {spelled : List (TokenKind × String)} {outlines : List Outline}
    (isIndent : indent.all Source.isIndent = true) (code : text.head?.any isCode = true)
    (adjusted : adjustLevels indent levels = some open_)
    (line : Scans rest [] (text ++ '\n' :: rest) spelled) (others : ScansLines open_ rest outlines) :
    ScansLines levels (indent ++ (text ++ '\n' :: rest))
      (⟨open_.length, (open_.head?.map Level.indent).getD [], spelled⟩ :: outlines) := by
  obtain ⟨c, more, begins, code⟩ : ∃ c more, text = c :: more ∧ isCode c = true := by
    cases text with
    | nil => cases code
    | cons c more => exact ⟨c, more, rfl, code⟩
  intro position fuel enough
  obtain ⟨fuel, rfl⟩ := Nat.exists_eq_succ_of_ne_zero (Nat.ne_of_gt (Nat.zero_lt_of_lt enough))
  subst begins
  simp only [List.cons_append] at line enough ⊢
  let whole := indent ++ c :: (more ++ '\n' :: rest)
  let level := (open_.head?.map Level.indent).getD []
  obtain ⟨taken, dropped, above⟩ :=
    takeAbove_of_line isIndent code whole.length (more ++ '\n' :: rest)
  obtain ⟨scanned, run, ⟨final, ending⟩, spellings⟩ :=
    line ⟨['\n'], level⟩ (advanceLines position ([] ++ indent)) (whole.length + 1) (by
      simp only [whole, List.length_append]
      omega)
  have enough' : rest.length < fuel := by
    simp only [List.length_append, List.length_cons] at enough
    omega
  obtain ⟨lines, behind, has⟩ := others scanned.position fuel enough'
  have first : FlatLine.HasOutline ⟨[], open_.length, level, scanned.tokens, scanned.ending⟩
      ⟨open_.length, level, spelled⟩ := ⟨rfl, rfl, rfl, spellings, ending rfl⟩
  refine ⟨_ :: lines, ?_, .cons first has⟩
  have code' : (indent ++ c :: (more ++ '\n' :: rest)).isEmpty = false := by simp
  unfold scanLines
  simp only [whole] at above run
  simp only [above, taken, dropped, adjusted, code', Option.bind_eq_bind, Option.bind_some,
    Bool.false_eq_true, if_false]
  rw [run]
  simp only [Option.bind_some, final, behind]
  rfl

/-! ## Line breaks -/

/-- A first line that ends with a line feed makes it the usual break. -/
theorem usualBreak_of_line {line : List Char} (unbroken : line.all (!isBreak ·) = true)
    (rest : List Char) : usualBreak (line ++ '\n' :: rest) = ['\n'] := by
  have dropped : (line ++ '\n' :: rest).dropWhile (!isBreak ·) = '\n' :: rest := by
    rw [List.dropWhile_append_of_pos (List.all_eq_true.1 unbroken),
      List.dropWhile_cons_of_neg (by decide)]
  unfold usualBreak
  rw [dropped]
  rfl

/-! ## Statements -/

def leaf (tokens : List Token) : Node := .mk [] tokens .plain [] [] []

/-- The statements that nested lines form; the first of them goes on with no statement. -/
def Forms (usual : String) (nodes : List Node) (statements : List Statement) : Prop :=
  ∃ pieces decorable, Piece.ofNodes usual false nodes = some pieces ∧
    pieces.foldr (fun piece found => found.bind piece.join) (some ⟨[], false, []⟩) =
      some ⟨[], decorable, statements⟩

namespace Forms

variable {usual : String} {tokens : List Token} {nodes : List Node} {statements : List Statement}

theorem nil : Forms usual [] [] := ⟨[], false, rfl, rfl⟩

/-- The pieces of a block are joined to its statements. -/
theorem joinPieces_eq (forms : Forms usual nodes statements) :
    ∃ pieces, Piece.ofNodes usual false nodes = some pieces ∧
      joinPieces pieces = some statements := by
  obtain ⟨pieces, decorable, read, joined⟩ := forms
  refine ⟨pieces, read, ?_⟩
  unfold joinPieces
  rw [joined]
  rfl

/-- The statement of one piece in front of others. -/
theorem cons {node : Node} {piece : Piece} {statement : Statement}
    (read : Piece.ofNode usual false node = some piece)
    (joined : ∀ decorable, ∃ decorable', piece.join ⟨[], decorable, statements⟩ =
      some ⟨[], decorable', statement :: statements⟩)
    (others : Forms usual nodes statements) :
    Forms usual (node :: nodes) (statement :: statements) := by
  obtain ⟨pieces, decorable, readOthers, joinedOthers⟩ := others
  obtain ⟨decorable', joined⟩ := joined decorable
  refine ⟨piece :: pieces, decorable', ?_, ?_⟩
  · rw [Piece.ofNodes, read, readOthers]
    rfl
  · rw [List.foldr_cons, joinedOthers, Option.bind_some, joined]

/-- Simple statements in front of others. -/
theorem line {parts : List Small}
    (parsed : ParsedLine.ofTokens false tokens = some (.simple parts))
    (others : Forms usual nodes statements) :
    Forms usual (leaf tokens :: nodes) (.line [] parts .plain :: statements) := by
  let piece : Piece := ⟨[], .simple parts .plain, (tokens.head?.map Token.start).getD .origin,
    stopOfTokens tokens⟩
  have read : Piece.ofNode usual false (leaf tokens) = some piece := by
    change (ParsedLine.ofTokens false tokens).bind _ = some piece
    rw [parsed]
    rfl
  exact cons read (fun _ => ⟨false, rfl⟩) others

/-- A statement with a block in front of others. -/
theorem block {kind : HeaderKind} {header : Phrase} {indent : List Char}
    {child : Node} {children : List Node} {body : List Statement}
    (parsed : ParsedLine.ofTokens false tokens = some (.header kind header none))
    (noMatch : kind ≠ .matchBlock) (begins : kind.goesOn = false)
    (alone : mayFollow [] kind = true) (usualIndent : String.ofList indent = usual)
    (inner : Forms usual (child :: children) body) (others : Forms usual nodes statements) :
    ∃ piece : Piece, piece.above = [] ∧
      Forms usual (.mk [] tokens .plain indent (child :: children) [] :: nodes)
        (piece.begin kind header (.block .plain none body []) [] :: statements) := by
  subst usualIndent
  obtain ⟨within, readWithin, joinedWithin⟩ := inner.joinPieces_eq
  let piece : Piece := ⟨[], .clause kind header (.block .plain none body []),
    (tokens.head?.map Token.start).getD .origin,
    (within.getLast?.map Piece.stop).getD (stopOfTokens tokens)⟩
  have isMatch : (kind == .matchBlock) = false := by simpa using noMatch
  have read : Piece.ofNode (String.ofList indent) false
      (.mk [] tokens .plain indent (child :: children) []) = some piece := by
    change (ParsedLine.ofTokens false tokens).bind _ = some piece
    rw [parsed]
    change ((Piece.ofNodes _ (kind == .matchBlock) (child :: children)).bind fun pieces =>
      (joinPieces pieces).bind fun body => some (Piece.mk [] (.clause kind header (.block .plain
        (if String.ofList indent == String.ofList indent then none
          else some (String.ofList indent)) body []))
        ((tokens.head?.map Token.start).getD .origin)
        ((pieces.getLast?.map Piece.stop).getD (stopOfTokens tokens)))) = some piece
    rw [isMatch, readWithin, Option.bind_some, joinedWithin, Option.bind_some, beq_self_eq_true,
      if_pos rfl]
  refine ⟨piece, rfl, cons read (fun decorable => ?_) others⟩
  simp only [Piece.join, piece, begins, List.map_nil, alone, if_true]
  exact ⟨_, rfl⟩

end Forms

/-- **A text whose lines form one statement is that statement.** -/
theorem ofText_of_forms {text : String} {tree : LineTree} {statement : Statement}
    (read : LineTree.ofText text.toList = some tree)
    (forms : Forms (String.ofList tree.indent) tree.lines [statement])
    (unmixed : Node.anyMixesLiterals tree.lines = false) : Statement.ofText text = .ok statement := by
  obtain ⟨pieces, pieced, joined⟩ := forms.joinPieces_eq
  have statements : tree.statements = some [statement] := by
    unfold LineTree.statements
    rw [pieced]
    exact joined
  unfold Statement.ofText linesOf
  rw [read]
  refine checked_of_some ?_ unmixed
  rw [statements]
  rfl

end ModuleGlue.Source
