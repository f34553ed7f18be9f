import Mathlib.Logic.Basic
import ModuleGlue.Source.Line

/-!
Contract: the names among the tokens of a text.

Main statement: `LineTree.wellSpelled` (every name in the lines of a text is spelled like an
identifier).

Owns: which tokens the scanner takes for names, in a line and in the lines of a block.

Does not own: the words among them that are reserved.
-/

namespace ModuleGlue.Source

open ModuleGlue.Text

/-! ## Tokens -/

def Token.WellSpelled (token : Token) : Prop :=
  token.kind = .name → spellsIdentifier token.text.toList = true

/-- All names among some tokens are spelled like identifiers. -/
def WellSpelled (tokens : List Token) : Prop := ∀ token ∈ tokens, token.WellSpelled

theorem scanLiteral_kind {frames : List Frame} {letters text : List Char} {found : Scanned}
    (scanned : scanLiteral frames letters text = some found) : found.kind ≠ .name := by
  unfold scanLiteral at scanned
  simp only [Option.bind_eq_bind, Option.bind_eq_some_iff] at scanned
  obtain ⟨⟨formatted, raw⟩, -, ⟨quotes, quote, triple, rest⟩, -, scanned⟩ := scanned
  dsimp only at scanned
  split at scanned
  · rw [← Option.some.inj scanned]
    exact fun same => nomatch same
  · obtain ⟨⟨body, final⟩, -, scanned⟩ := Option.bind_eq_some_iff.1 scanned
    rw [← Option.some.inj scanned]
    exact fun same => nomatch same

theorem scanPunctuation_kind {frames : List Frame} {c : Char} {rest : List Char} {found : Scanned}
    (scanned : scanPunctuation frames c rest = some found) : found.kind ≠ .name := by
  have operator : found.kind = .operator := by
    unfold scanPunctuation at scanned
    split at scanned
    · rw [← Option.some.inj scanned]
    · split at scanned
      · split at scanned
        · rw [← Option.some.inj scanned]
        · cases scanned
      · split at scanned
        · rw [← Option.some.inj scanned]
        · split at scanned
          · rw [← Option.some.inj scanned]
          · split at scanned
            · rw [← Option.some.inj scanned]
            · cases scanned
      · cases scanned
  rw [operator]
  exact fun same => nomatch same

/-- A name that is scanned is spelled like an identifier. -/
theorem scanToken_wellSpelled {frames : List Frame} {text : List Char} {found : Scanned}
    (scanned : scanToken frames text = some found) (isName : found.kind = .name) :
    spellsIdentifier found.text = true := by
  unfold scanToken at scanned
  split at scanned
  · cases scanned
  · split at scanned
    · dsimp only at scanned
      split at scanned
      · exact absurd isName (scanLiteral_kind scanned)
      · split at scanned
        · rename_i spells
          rw [← Option.some.inj scanned]
          exact spells
        · cases scanned
    · split at scanned
      · exact absurd isName (scanLiteral_kind scanned)
      · split at scanned
        · obtain ⟨number, -, same⟩ := Option.map_eq_some_iff.1 scanned
          rw [← same] at isName
          cases isName
        · split at scanned
          · rename_i punctuation
            rw [← Option.some.inj scanned] at isName
            exact absurd isName (scanPunctuation_kind punctuation)
          · obtain ⟨operator, -, same⟩ := Option.map_eq_some_iff.1 scanned
            rw [← same] at isName
            cases isName

/-- There are no names among the parts of a formatted literal. -/
theorem scanFormatPiece_wellSpelled {frames frames' : List Frame} {position : Position}
    {text rest : List Char} {pieces : List Token}
    (scanned : scanFormatPiece frames position text = some (pieces, frames', rest)) :
    WellSpelled pieces := by
  have place : ∀ kind text gap start, kind ≠ TokenKind.name →
      (Token.place kind text gap start).WellSpelled :=
    fun kind text gap start noName isName => absurd isName noName
  have pair : ∀ (piece : List Char) (last : Token), last.WellSpelled →
      WellSpelled ((if piece.isEmpty then []
        else [Token.place .formatText piece .empty position]) ++ [last]) := by
    intro piece last spelled token member
    rcases List.mem_append.1 member with first | second
    · split at first
      · cases first
      · rw [List.mem_singleton.1 first]
        exact place _ _ _ _ (fun same => nomatch same)
    · rw [List.mem_singleton.1 second]
      exact spelled
  unfold scanFormatPiece at scanned
  simp only [Option.bind_eq_bind, Option.bind_eq_some_iff] at scanned
  obtain ⟨⟨quote, triple, raw⟩, -, ⟨piece, after⟩, -, scanned⟩ := scanned
  dsimp only at scanned
  split at scanned
  · rw [← (Prod.mk.inj (Option.some.inj scanned)).1]
    exact pair piece _ (place _ _ _ _ (fun same => nomatch same))
  · split at scanned
    · rw [← (Prod.mk.inj (Option.some.inj scanned)).1]
      exact pair piece _ (place _ _ _ _ (fun same => nomatch same))
    · cases scanned
  · split at scanned
    · cases scanned
    · rw [← (Prod.mk.inj (Option.some.inj scanned)).1]
      exact pair piece _ (place _ _ _ _ (fun same => nomatch same))

/-- What the scanner does with a line: it ends it, takes a part of a formatted literal, or takes one
token. -/
theorem scanLine_inversion {context : LineContext} {fuel : Nat} {frames : List Frame}
    {position : Position} {text : List Char} {line : ScannedLine}
    (scanned : scanLine context (fuel + 1) frames position text = some line) :
    line.tokens = [] ∨
    (∃ pieces frames' rest stop others,
      scanFormatPiece frames position text = some (pieces, frames', rest) ∧
      scanLine context fuel frames' stop rest = some others ∧
      line.tokens = pieces ++ others.tokens) ∨
    ∃ rest found gap start stop others, scanToken frames rest = some found ∧
      scanLine context fuel found.frames stop found.rest = some others ∧
      line.tokens = .place found.kind found.text gap start :: others.tokens := by
  unfold scanLine at scanned
  split at scanned
  · simp only [Option.bind_eq_bind, Option.bind_eq_some_iff] at scanned
    obtain ⟨⟨pieces, frames', rest⟩, found, others, behind, same⟩ := scanned
    rw [← Option.some.inj same]
    exact Or.inr (Or.inl ⟨pieces, frames', rest, _, others, found, behind, rfl⟩)
  · have one : ∀ {gap start rest}, (do
        let found ← scanToken frames rest
        let token := Token.place found.kind found.text gap start
        let line ← scanLine context fuel found.frames token.stop found.rest
        some { line with tokens := token :: line.tokens } : Option ScannedLine) = some line →
        ∃ rest found gap start stop others, scanToken frames rest = some found ∧
          scanLine context fuel found.frames stop found.rest = some others ∧
          line.tokens = .place found.kind found.text gap start :: others.tokens := by
      intro gap start rest taken
      simp only [Option.bind_eq_bind, Option.bind_eq_some_iff] at taken
      obtain ⟨found, taken, others, behind, same⟩ := taken
      rw [← Option.some.inj same]
      exact ⟨rest, found, gap, start, _, others, taken, behind, rfl⟩
    cases inside : frames.isEmpty with
    | false =>
        simp only [inside, Bool.not_false, Bool.not_true, Bool.and_false, Bool.false_eq_true,
          if_true, if_false] at scanned
        exact Or.inr (Or.inr (one scanned))
    | true =>
        simp only [inside, Bool.not_false, Bool.not_true, Bool.and_true, Bool.false_eq_true,
          if_false] at scanned
        rcases ite_eq_iff.1 scanned with ⟨-, ended⟩ | ⟨-, taken⟩
        · refine Or.inl ?_
          split at ended
          · cases ended
          · split at ended
            · rw [← Option.some.inj ended]
            · split at ended
              · rw [← Option.some.inj ended]
              · cases ended
        · exact Or.inr (Or.inr (one taken))

theorem scanLine_wellSpelled {context : LineContext} {fuel : Nat} {frames : List Frame}
    {position : Position} {text : List Char} {line : ScannedLine}
    (scanned : scanLine context fuel frames position text = some line) :
    WellSpelled line.tokens := by
  induction fuel generalizing frames position text line with
  | zero => cases scanned
  | succ fuel inductionHypothesis =>
      rcases scanLine_inversion scanned with
        none | ⟨pieces, frames', rest, stop, others, found, behind, same⟩ |
          ⟨rest, found, gap, start, stop, others, taken, behind, same⟩
      · rw [none]
        exact fun token member => nomatch member
      · rw [same]
        intro token member
        rcases List.mem_append.1 member with first | second
        · exact scanFormatPiece_wellSpelled found token first
        · exact inductionHypothesis behind token second
      · rw [same]
        intro other member
        rcases List.mem_cons.1 member with rfl | second
        · intro isName
          have spells := scanToken_wellSpelled taken isName
          have text : (String.ofList found.text).toList = found.text := String.toList_ofList
          exact (congrArg spellsIdentifier text).trans spells
        · exact inductionHypothesis behind other second

/-! ## Lines -/

theorem scanLines_wellSpelled {usual : List Char} {fuel : Nat} {levels : List Level}
    {position : Position} {text final : List Char} {lines : List FlatLine}
    (scanned : scanLines usual fuel levels position text = some (lines, final)) :
    ∀ line ∈ lines, WellSpelled line.tokens := by
  induction fuel generalizing levels position text lines final with
  | zero => cases scanned
  | succ fuel inductionHypothesis =>
      unfold scanLines at scanned
      dsimp only at scanned
      split at scanned
      · rw [← (Prod.mk.inj (Option.some.inj scanned)).1]
        exact fun line member => nomatch member
      · simp only [Option.bind_eq_bind, Option.bind_eq_some_iff] at scanned
        obtain ⟨levels', -, line, found, ⟨others, last⟩, behind, same⟩ := scanned
        rw [← (Prod.mk.inj (Option.some.inj same)).1]
        intro other member
        rcases List.mem_cons.1 member with rfl | second
        · exact scanLine_wellSpelled found
        · exact inductionHypothesis behind other second

mutual

/-- All names in a line and its block are spelled like identifiers. -/
def Node.WellSpelled : Node → Prop
  | .mk _ tokens _ _ children _ => Source.WellSpelled tokens ∧ Node.AllWellSpelled children

def Node.AllWellSpelled : List Node → Prop
  | [] => True
  | node :: rest => node.WellSpelled ∧ Node.AllWellSpelled rest

end

theorem nestLines_wellSpelled {usual : List Char} {depth : Nat} {indent : List Char} {fuel : Nat}
    {lines : List FlatLine} {final : List Char}
    (spelled : ∀ line ∈ lines, WellSpelled line.tokens) :
    Node.AllWellSpelled (nestLines usual depth indent fuel lines final).1 ∧
      ∀ line ∈ (nestLines usual depth indent fuel lines final).2.1, WellSpelled line.tokens := by
  induction fuel generalizing depth indent lines final with
  | zero =>
      unfold nestLines
      exact ⟨trivial, spelled⟩
  | succ fuel inductionHypothesis =>
      cases lines with
      | nil =>
          unfold nestLines
          exact ⟨trivial, spelled⟩
      | cons line rest =>
          have first : WellSpelled line.tokens := spelled line List.mem_cons_self
          have others : ∀ other ∈ rest, WellSpelled other.tokens :=
            fun other member => spelled other (List.mem_cons_of_mem line member)
          unfold nestLines
          split
          · exact ⟨trivial, spelled⟩
          · cases rest with
            | nil => exact ⟨⟨⟨first, trivial⟩, trivial⟩, others⟩
            | cons next rest =>
                dsimp only
                split
                · have block := @inductionHypothesis next.depth next.indent (next :: rest) final
                    others
                  generalize nestLines usual next.depth next.indent fuel (next :: rest) final =
                    found at block
                  obtain ⟨children, after, final'⟩ := found
                  cases after with
                  | nil =>
                      have siblings := @inductionHypothesis depth indent []
                        (takeFooter usual next.indent true final').2 block.2
                      exact ⟨⟨⟨first, block.1⟩, siblings.1⟩, siblings.2⟩
                  | cons follower after =>
                      have behind : ∀ other ∈ { follower with
                          above := (takeFooter usual next.indent true follower.above).2 } :: after,
                          WellSpelled other.tokens :=
                        List.forall_mem_cons.2 (List.forall_mem_cons.1 block.2)
                      have siblings := @inductionHypothesis depth indent _ final' behind
                      exact ⟨⟨⟨first, block.1⟩, siblings.1⟩, siblings.2⟩
                · have siblings := @inductionHypothesis depth indent (next :: rest) final others
                  exact ⟨⟨⟨first, trivial⟩, siblings.1⟩, siblings.2⟩

/-- All names in a text are spelled like identifiers. -/
theorem LineTree.wellSpelled {text : List Char} {tree : LineTree}
    (read : LineTree.ofText text = some tree) : Node.AllWellSpelled tree.lines := by
  obtain ⟨⟨flat, final⟩, scanned, read⟩ := Option.bind_eq_some_iff.1 read
  obtain ⟨-, -, same⟩ := Option.bind_eq_some_iff.1 read
  rw [← Option.some.inj same]
  exact (nestLines_wellSpelled (scanLines_wellSpelled scanned)).1

end ModuleGlue.Source
