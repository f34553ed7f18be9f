import ModuleGlue.Source.Parse
import ModuleGlue.Proofs.Source.CallReading
import ModuleGlue.Proofs.Source.Scanning

/-!
Contract: from the spellings of tokens to code.

Main statement: `ofExpression_of_reads` (a text is the expression that its tokens form).

Owns: that plain tokens join no literals of text and of bytes, and the texts of phrases.

Does not own: how a text is scanned, and how its tokens are read.
-/

namespace ModuleGlue.Source

open ModuleGlue.Text

/-! ## Identifiers -/

theorem spellsIdentifier_of_isIdentifier {text : String} (is : isIdentifier text = true) :
    spellsIdentifier text.toList = true := by
  unfold isIdentifier at is
  exact (Bool.and_eq_true_iff.1 is).1

theorem begins_of_isIdentifier {text : String} (is : isIdentifier text = true) :
    ∃ c more, text.toList = c :: more ∧ startsName c = true := by
  obtain ⟨c, more, letters, starts, -⟩ :=
    exists_cons_of_spells (spellsIdentifier_of_isIdentifier is)
  exact ⟨c, more, letters, starts⟩

/-- Nothing that ends a name stands in an identifier. -/
theorem notMem_of_isIdentifier {text : String} (is : isIdentifier text = true) {c : Char}
    (ends : continuesName c = false) : c ∉ text.toList := by
  intro member
  obtain ⟨_, _, _, _, continues⟩ := exists_cons_of_spells (spellsIdentifier_of_isIdentifier is)
  rw [continues c member] at ends
  cases ends

section
variable {token : Token} {text : String}

theorem isOperator_of_spelling (spelled : token.spelling = (.operator, text)) :
    Reader.isOperator text token = true := by
  obtain ⟨kind, same⟩ := Prod.mk.inj spelled
  simp [Reader.isOperator, kind, same]

theorem isKeyword_of_spelling (spelled : token.spelling = (.name, text)) :
    Reader.isKeyword text token = true := by
  obtain ⟨kind, same⟩ := Prod.mk.inj spelled
  simp [Reader.isKeyword, kind, same]

theorem isNameToken_of_spelling (is : isIdentifier text = true)
    (spelled : token.spelling = (.name, text)) : Reader.isNameToken token = true := by
  obtain ⟨kind, same⟩ := Prod.mk.inj spelled
  unfold isIdentifier at is
  have unreserved : reservedWords.contains text = false := by
    simpa using (Bool.and_eq_true_iff.1 is).2
  unfold Reader.isNameToken
  rw [kind, same, unreserved]
  rfl

end

/-- A member of a name in front of a text that is scanned. -/
theorem Scans.member {behind layout rest : List Char} {frames : List Frame} {base member : String}
    {spelled : List (TokenKind × String)} (isBase : isIdentifier base = true)
    (isMember : isIdentifier member = true) (bracketed : Bracketed frames) (blank : Blank layout)
    (ends : EndsName rest) (others : Scans behind frames rest spelled) :
    Scans behind frames (layout ++ (base.toList ++ '.' :: (member.toList ++ rest)))
      ((.name, base) :: (.operator, ".") :: (.name, member) :: spelled) := by
  obtain ⟨c, more, letters, starts⟩ := begins_of_isIdentifier isMember
  have scanned := Scans.name bracketed.expression (Or.inl rfl)
    (spellsIdentifier_of_isIdentifier isMember) ends others
  have point : Scans behind frames ('.' :: (member.toList ++ rest))
      ((.operator, ".") :: (.name, member) :: spelled) := by
    rw [List.nil_append, letters] at scanned
    rw [letters]
    exact Scans.point bracketed starts scanned
  exact Scans.name bracketed.expression blank (spellsIdentifier_of_isIdentifier isBase)
    (endsName_cons (by decide) _) point

/-! ## Joined literals -/

/-- A word, an operator, or a literal with no letters before its quotes. -/
def isPlainSpelling : TokenKind × String → Bool
  | (.name, _) => true
  | (.operator, _) => true
  | (.string, text) => text.toList.head?.any fun c => c == '"' || c == '\''
  | _ => false

theorem isPlainSpelling_quote (points : Points) :
    isPlainSpelling (.string, String.ofList (quote points)) = true := by
  obtain ⟨delimiter, body, isQuote, -, same⟩ := quote_eq points
  have quoted : isPlainSpelling (.string, String.ofList (quote points)) =
      (delimiter == '"' || delimiter == '\'') := by
    simp [isPlainSpelling, same]
  rw [quoted]
  rcases isQuote with rfl | rfl <;> decide

theorem isBytes_eq_false {token : Token} (kind : token.kind = .string)
    (plain : isPlainSpelling token.spelling = true) : token.isBytes = false := by
  unfold Token.spelling isPlainSpelling at plain
  rw [kind] at plain
  dsimp only at plain
  unfold Token.isBytes
  cases letters : token.text.toList with
  | nil => rfl
  | cons c rest =>
      rw [letters] at plain
      have quoted : c = '"' ∨ c = '\'' := by simpa using plain
      rw [List.takeWhile_cons_of_neg (by rcases quoted with rfl | rfl <;> decide)]
      rfl

/-- Plain tokens join no text and bytes. -/
theorem mixesLiterals_of_plain {tokens : List Token}
    (plain : (tokens.map Token.spelling).all isPlainSpelling = true) {pending : Option Bool}
    (noBytes : pending ≠ some true) : mixesLiterals pending tokens = false := by
  induction tokens generalizing pending with
  | nil => rfl
  | cons token rest inductionHypothesis =>
      rw [List.map_cons, List.all_cons, Bool.and_eq_true] at plain
      obtain ⟨first, others⟩ := plain
      have behindNone : mixesLiterals none rest = false := inductionHypothesis others (by simp)
      have behindText : mixesLiterals (some false) rest = false :=
        inductionHypothesis others (by simp)
      unfold mixesLiterals
      cases kind : token.kind with
      | name => exact behindNone
      | operator => exact behindNone
      | string =>
          have noByte := isBytes_eq_false kind first
          have together : pending.any (fun flag => flag) = false := by
            cases pending with
            | none => rfl
            | some flag =>
                cases flag with
                | false => rfl
                | true => exact absurd rfl noBytes
          simp [noByte, together, behindText]
      | _ => simp [isPlainSpelling, Token.spelling, kind] at first

/-! ## Texts of phrases -/

theorem text_of_flush (phrase : Phrase) :
    phrase.flush.map Lexeme.text = phrase.map Lexeme.text := by
  cases phrase <;> rfl

/-- The texts of a phrase are those of its tokens. -/
theorem text_of_ofTokens {tokens : List Token} {spelled : List (TokenKind × String)}
    (spellings : tokens.map Token.spelling = spelled) :
    (Phrase.ofTokens tokens).flush.map Lexeme.text = spelled.map Prod.snd := by
  rw [text_of_flush, ← spellings]
  simp [Phrase.ofTokens, Token.lexeme, Token.spelling]

/-! ## Expressions -/

theorem checked_of_some {α : Type} {lines : List Node} {value : Option α} {result : α}
    (read : value = some result) (unmixed : Node.anyMixesLiterals lines = false) :
    checked lines value = .ok result := by
  unfold checked
  rw [read]
  dsimp only
  rw [unmixed]
  rfl

/-- **A text whose tokens are read as an expression is one**, and keeps the texts of its tokens. -/
theorem ofExpression_of_reads {text : String} {c : Char} {rest : List Char}
    {spelled : List (TokenKind × String)} (begins : text.toList = c :: rest)
    (code : isCode c = true) (scans : Scans [] [] (c :: rest) spelled)
    (plain : spelled.all isPlainSpelling = true)
    (reads : ∀ tokens : List Token, tokens.map Token.spelling = spelled →
      ∃ shape, Reads (Inner.starExpressions (.ofDepth (tokens.length + 1))) tokens shape []) :
    ∃ phrase, Phrase.ofExpression text = .ok phrase ∧
      phrase.map Lexeme.text = spelled.map Prod.snd := by
  obtain ⟨tree, tokens, ending, read, lines, spellings⟩ := scans.lineTree code
  obtain ⟨shape, deep⟩ := reads tokens spellings
  have expression : (readWith fun inner => inner.starExpressions : Reader Shape).run tokens =
      some (shape, []) := (reads_left tokens).bind deep
  have unmixed : Node.anyMixesLiterals tree.lines = false := by
    rw [lines, Node.anyMixesLiterals, Node.mixesLiterals,
      mixesLiterals_of_plain (spellings ▸ plain) (by simp)]
    rfl
  refine ⟨(Phrase.ofTokens tokens).flush, ?_, text_of_ofTokens spellings⟩
  unfold Phrase.ofExpression linesOf
  rw [begins, read]
  refine checked_of_some ?_ unmixed
  rw [lines]
  dsimp only
  rw [expression]
  rfl

end ModuleGlue.Source
