import ModuleGlue.Proofs.Console.Legibility
import ModuleGlue.Proofs.Console.ShownTexts

/-!
Contract: what is shown of escaped texts, in front of tags and at the end.

Tags begin and end styles, and apart from that what is shown of a text goes piece by piece. An escaped
text is shown as it is, up to the backslashes that it ends with: in front of a tag they are halved,
and an odd number of them makes the tag plain text.

Main statements: `bareText_escapeTags_eq_iff` (which escaped texts are shown as they are),
`bareText_escape` and `bareText_escape_tag` (what becomes of the backslashes at the end).

Owns: what is shown of a text, whatever styles are open.

Does not own: which texts are put together.
-/

namespace ModuleGlue.Console

/-! ## Pieces -/

def Piece.write : Piece → List Char
  | .text content => content
  | .tag slashes content => slashesOf slashes ++ writeTag content

def Piece.toPlain : Piece → Piece
  | .text content => .text content
  | .tag slashes content => .tag (2 * slashes + 1) content

/-- A text is its pieces, one after another. -/
theorem flatMap_write_pieces (text : List Char) : (pieces text).flatMap Piece.write = text := by
  have cons : ∀ (c : Char) (pieces : List Piece),
      (consText c pieces).flatMap Piece.write = c :: pieces.flatMap Piece.write := by
    intro c pieces
    cases pieces with
    | nil => rfl
    | cons piece rest => cases piece <;> rfl
  fun_induction pieces text with
  | case1 text piece after found inductionHypothesis =>
      obtain ⟨count, content, isTag, rfl, whole⟩ := tagAt?_eq_some_iff.1 found
      rw [List.flatMap_cons, inductionHypothesis, Piece.write, whole, List.append_assoc]
  | case2 => rfl
  | case3 c rest none inductionHypothesis => rw [cons, inductionHypothesis]

/-- No piece is without text. -/
theorem pieces_ne_empty (text : List Char) : ∀ piece ∈ pieces text, piece ≠ .text [] := by
  have cons : ∀ (c : Char) (pieces : List Piece), (∀ piece ∈ pieces, piece ≠ .text []) →
      ∀ piece ∈ consText c pieces, piece ≠ .text [] := by
    intro c pieces each
    cases pieces with
    | nil => simp [consText]
    | cons first rest =>
        have others := fun piece later => each piece (List.mem_cons_of_mem first later)
        cases first with
        | text content => exact List.forall_mem_cons.2 ⟨nofun, others⟩
        | tag count content => exact List.forall_mem_cons.2 ⟨nofun, each⟩
  fun_induction pieces text with
  | case1 text first after found inductionHypothesis =>
      obtain ⟨count, content, isTag, rfl, whole⟩ := tagAt?_eq_some_iff.1 found
      exact List.forall_mem_cons.2 ⟨nofun, inductionHypothesis⟩
  | case2 => exact nofun
  | case3 c rest none inductionHypothesis => exact cons c _ inductionHypothesis

/-- A tag behind a text is a piece of its own. -/
theorem joinPieces_tag {front : List Piece} (each : ∀ piece ∈ front, piece ≠ .text []) (count : Nat)
    (content : List Char) (back : List Piece) :
    joinPieces front (.tag count content :: back) = front ++ .tag count content :: back := by
  have text : ∀ (c : Char) (rest : List Char),
      (c :: rest).foldr consText (.tag count content :: back) =
        .text (c :: rest) :: .tag count content :: back := by
    intro c rest
    induction rest generalizing c with
    | nil => rfl
    | cons d rest inductionHypothesis =>
        rw [List.foldr_cons, inductionHypothesis]
        rfl
  generalize whole : Piece.tag count content :: back = others
  fun_induction joinPieces front others with
  | case1 => rfl
  | case2 content others =>
      subst whole
      cases content with
      | nil => exact absurd rfl (each _ List.mem_cons_self)
      | cons c rest => exact text c rest
  | case3 piece rest others notLast inductionHypothesis =>
      exact congrArg (piece :: ·)
        (inductionHypothesis (fun other later => each other (List.mem_cons_of_mem _ later)) whole)

theorem pieces_append_tag {front : List Char} (isOpen : Open front) {count : Nat}
    {content : List Char} (isTag : IsTag content) (rest : List Char) :
    pieces (front ++ (slashesOf count ++ (writeTag content ++ rest))) =
      pieces front ++ .tag count content :: pieces rest := by
  rw [pieces_append (apart_tag isOpen count content rest), pieces_tag isTag,
    joinPieces_tag (pieces_ne_empty front)]

/-- A text without tags is one piece, if it is not empty. -/
theorem pieces_of_untagged {c : Char} {rest : List Char} (none : tags (c :: rest) = []) :
    pieces (c :: rest) = [.text (c :: rest)] := by
  induction rest generalizing c with
  | nil =>
      have noTag : tagAt? [c] = .none := tagAt?_of_untagged none
      rw [pieces_of_char noTag, pieces_nil]
      rfl
  | cons d rest inductionHypothesis =>
      have noTag := tagAt?_of_untagged none
      rw [tags_cons_of_none noTag] at none
      rw [pieces_of_char noTag, inductionHypothesis none]
      rfl

/-! ## Escaping, piece by piece -/

/-- Escaping makes all tags plain, and changes no other piece. -/
theorem pieces_escapeTags (text : List Char) :
    pieces (escapeTags text) = (pieces text).map Piece.toPlain := by
  induction size : text.length using Nat.strongRecOn generalizing text with
  | ind size inductionHypothesis =>
      subst size
      rcases exists_first_tag text with none | ⟨front, count, content, rest, isOpen, none, isTag,
        rfl⟩
      · rw [escapeTags_of_untagged none]
        cases text with
        | nil => rw [pieces_nil, List.map_nil]
        | cons c rest =>
            rw [pieces_of_untagged none]
            rfl
      · have shorter : rest.length <
            (front ++ (slashesOf count ++ (writeTag content ++ rest))).length := by
          simp only [writeTag, List.length_append, List.length_cons]
          omega
        have same : (pieces front).map Piece.toPlain = pieces front := by
          cases front with
          | nil => rw [pieces_nil, List.map_nil]
          | cons c front =>
              rw [pieces_of_untagged none]
              rfl
        rw [escapeTags_tag isOpen none isTag, pieces_append_tag isOpen isTag,
          pieces_append_tag isOpen isTag, inductionHypothesis rest.length shorter rest rfl,
          List.map_append, List.map_cons, same]
        rfl

/-- Escaping changes nothing at the end of a text. -/
theorem getLast?_escapeTags (text : List Char) : (escapeTags text).getLast? = text.getLast? := by
  have each : ∀ piece : Piece, piece.escape.getLast? = piece.write.getLast? := by
    intro piece
    cases piece with
    | text content => rfl
    | tag count content =>
        have closes : (writeTag content).getLast? = some ']' := List.getLast?_concat
        rw [Piece.escape, Piece.write, List.getLast?_append, List.getLast?_append, closes]
        rfl
  have pieces : ∀ pieces : List Piece,
      (pieces.flatMap Piece.escape).getLast? = (pieces.flatMap Piece.write).getLast? := by
    intro pieces
    induction pieces with
    | nil => rfl
    | cons piece rest inductionHypothesis =>
        rw [List.flatMap_cons, List.flatMap_cons, List.getLast?_append, List.getLast?_append,
          inductionHypothesis, each]
  exact (pieces _).trans (congrArg List.getLast? (flatMap_write_pieces text))

theorem open_escapeTags {text : List Char} (isOpen : Open text) : Open (escapeTags text) := by
  unfold Open at isOpen ⊢
  rwa [getLast?_escapeTags]

/-! ## Backslashes at the end -/

/-- The number of backslashes that a text ends with. -/
def closingSlashes (text : List Char) : Nat := (text.reverse.takeWhile (· == '\\')).length

theorem closingSlashes_append {front : List Char} (isOpen : Open front) (count : Nat) :
    closingSlashes (front ++ slashesOf count) = count := by
  unfold closingSlashes slashesOf
  rw [List.reverse_append, List.reverse_replicate, List.takeWhile_append_of_pos fun c member => by
    rw [List.eq_of_mem_replicate member]
    rfl]
  have stops : front.reverse.takeWhile (· == '\\') = [] := by
    cases last : front.reverse with
    | nil => rfl
    | cons c rest =>
        rw [Open, List.getLast?_eq_head?_reverse, last] at isOpen
        rw [List.takeWhile_cons_of_neg]
        rw [beq_iff_eq]
        rintro rfl
        exact isOpen rfl
  rw [stops, List.append_nil, List.length_replicate]

/-- A text is an open one with the backslashes that it ends with. -/
theorem exists_open_closing (text : List Char) :
    ∃ front, Open front ∧ text = front ++ slashesOf (closingSlashes text) := by
  obtain ⟨front, count, rfl, isOpen⟩ := exists_open text
  exact ⟨front, isOpen, by rw [closingSlashes_append isOpen]⟩

/-- The number of backslashes at the end of an escaped text. -/
def doubled (count : Nat) : Nat := if count = 1 then 2 else count

theorem escapeTags_slashes {front : List Char} (isOpen : Open front) (count : Nat) :
    escapeTags (front ++ slashesOf count) = escapeTags front ++ slashesOf count := by
  unfold escapeTags
  rw [pieces_append ⟨isOpen, Or.inr (not_closesFirst_slashes count)⟩, escape_joinPieces,
    ← escapeTags, ← escapeTags, escapeTags_of_untagged (tags_slashesOf count)]

theorem doubleLastSlash_slashes {front : List Char} (isOpen : Open front) (count : Nat) :
    doubleLastSlash (front ++ slashesOf count) = front ++ slashesOf (doubled count) := by
  have reversed : (front ++ slashesOf count).reverse = slashesOf count ++ front.reverse := by
    rw [List.reverse_append, slashesOf, List.reverse_replicate]
  have noSlash : front.reverse.head? ≠ some '\\' := by
    rwa [← List.getLast?_eq_head?_reverse]
  unfold doubleLastSlash
  rw [reversed]
  rcases count with _ | _ | count
  · rw [show slashesOf 0 ++ front.reverse = front.reverse from rfl]
    split
    · rename_i rest last
      exact absurd (congrArg List.head? last) noSlash
    · rename_i rest notTwo last
      exact absurd (congrArg List.head? last) noSlash
    · rfl
  · rw [show slashesOf 1 ++ front.reverse = '\\' :: front.reverse from rfl]
    split
    · rename_i rest last
      exact absurd (congrArg List.head? (List.cons.inj last).2) noSlash
    · rw [List.append_assoc]
      rfl
    · rename_i notTwo notOne
      exact absurd rfl (notOne _)
  · have many : doubled (count + 2) = count + 2 := if_neg (by omega)
    rw [many]
    rfl

/-- An escaped text, but for the backslashes at its end. -/
theorem escape_eq {front : List Char} (isOpen : Open front) (count : Nat) :
    escape (front ++ slashesOf count) = escapeTags front ++ slashesOf (doubled count) := by
  change doubleLastSlash (escapeTags (front ++ slashesOf count)) = _
  rw [escapeTags_slashes isOpen, doubleLastSlash_slashes (open_escapeTags isOpen)]

/-! ## What is shown -/

/-- What is shown of a piece, whatever styles are open. -/
def Piece.bare : Piece → List Char
  | .text content => showText content
  | .tag slashes content =>
    slashesOf (slashes / 2) ++ if slashes % 2 = 1 then showText (writeTag content) else []

/-- What is shown of a text, with the characters that cannot be seen. -/
def bareText (text : List Char) : List Char := (pieces text).flatMap Piece.bare

/-- Styles make no difference to the characters that are shown. -/
theorem show_eq {styles after : OpenStyles} {piece : Piece} {shown : List Char}
    (here : piece.show styles = .ok (shown, after)) : shown = piece.bare := by
  cases piece with
  | text content => exact (Prod.mk.inj (Except.ok.inj here)).1.symm
  | tag count content =>
      rw [Piece.show] at here
      rw [Piece.bare]
      by_cases odd : count % 2 = 1
      · rw [if_pos odd] at here ⊢
        exact (Prod.mk.inj (Except.ok.inj here)).1.symm
      · rw [if_neg odd] at here
        rw [if_neg odd, List.append_nil]
        cases applied : applyTag styles content with
        | error reason =>
            rw [applied] at here
            cases here
        | ok next =>
            rw [applied] at here
            exact (Prod.mk.inj (Except.ok.inj here)).1.symm

theorem showPieces_eq {styles : OpenStyles} {pieces : List Piece} {shown : List Char}
    (all : showPieces styles pieces = .ok shown) : shown = pieces.flatMap Piece.bare := by
  induction pieces generalizing styles shown with
  | nil => exact (Except.ok.inj all).symm
  | cons piece rest inductionHypothesis =>
      obtain ⟨⟨first, after⟩, here, all⟩ := bind_eq_ok_iff.1 all
      obtain ⟨others, there, same⟩ := bind_eq_ok_iff.1 all
      rw [List.flatMap_cons, ← show_eq here, ← inductionHypothesis there]
      exact (Except.ok.inj same).symm

/-- A record that can be shown is what is shown of its message, without what cannot be seen. -/
theorem ofMessage_of_legible {level : Level} {message : String}
    (legible : Legible (level, message)) :
    Entry.ofMessage level message =
      .ok (.record level ((bareText (level.sign.toList ++ message.toList)).filter isSeen)) := by
  obtain ⟨entry, found⟩ := legible
  unfold Entry.ofMessage showMarkup at found ⊢
  dsimp only at found
  cases all : showPieces [] (pieces (level.sign.toList ++ message.toList)) with
  | error reason =>
      rw [all] at found
      cases found
  | ok shown =>
      rw [showPieces_eq all]
      rfl

/-- Text without tags. -/
theorem bareText_of_untagged {text : List Char} (none : tags text = []) :
    bareText text = showText text := by
  unfold bareText
  cases text with
  | nil => rw [pieces_nil, showText_nil, List.flatMap_nil]
  | cons c rest => rw [pieces_of_untagged none, List.flatMap_singleton, Piece.bare]

/-- Text in front of a tag, and behind it. -/
theorem bareText_tag {front content : List Char} (isOpen : Open front) (isTag : IsTag content)
    (count : Nat) (rest : List Char) :
    bareText (front ++ (slashesOf count ++ (writeTag content ++ rest))) =
      bareText front ++ ((Piece.tag count content).bare ++ bareText rest) := by
  unfold bareText
  rw [pieces_append_tag isOpen isTag, List.flatMap_append, List.flatMap_cons]

theorem bare_joinPieces_slashes (pieces : List Piece) (count : Nat) :
    (joinPieces pieces [.text (slashesOf count)]).flatMap Piece.bare =
      pieces.flatMap Piece.bare ++ slashesOf count := by
  generalize whole : [Piece.text (slashesOf count)] = others
  fun_induction joinPieces pieces others with
  | case1 =>
      subst whole
      have shown := showText_slashes [] count
      rw [showText_nil] at shown
      rw [List.flatMap_singleton, List.flatMap_nil]
      exact shown
  | case2 content others =>
      subst whole
      have joined : content.foldr consText [.text (slashesOf count)] =
          [.text (content ++ slashesOf count)] := by
        induction content with
        | nil => rfl
        | cons c rest inductionHypothesis =>
            rw [List.foldr_cons, inductionHypothesis]
            rfl
      rw [joined, List.flatMap_singleton, List.flatMap_singleton]
      exact showText_slashes content count
  | case3 piece rest others notLast inductionHypothesis =>
      rw [List.flatMap_cons, List.flatMap_cons, inductionHypothesis whole, List.append_assoc]

/-- Backslashes at the end of a text are shown. -/
theorem bareText_slashes {front : List Char} (isOpen : Open front) (count : Nat) :
    bareText (front ++ slashesOf count) = bareText front ++ slashesOf count := by
  cases count with
  | zero => rw [slashesOf, List.replicate_zero, List.append_nil, List.append_nil]
  | succ count =>
      have one : pieces (slashesOf (count + 1)) = [.text (slashesOf (count + 1))] :=
        pieces_of_untagged (tags_slashesOf (count + 1))
      unfold bareText
      rw [pieces_append ⟨isOpen, Or.inr (not_closesFirst_slashes _)⟩, one, bare_joinPieces_slashes]

/-- Neither a tag nor backslashes before one begin with any other character. -/
theorem tagAt?_cons_eq_none {c : Char} {rest : List Char} (noSlash : c ≠ '\\') (noBracket : c ≠ '[') :
    tagAt? (c :: rest) = none := by
  by_contra found
  obtain ⟨⟨piece, after⟩, found⟩ := Option.ne_none_iff_exists'.1 found
  obtain ⟨count, content, -, -, whole⟩ := tagAt?_eq_some_iff.1 found
  cases count with
  | zero => exact noBracket (List.cons.inj whole).1
  | succ count => exact noSlash (List.cons.inj whole).1

/-- A colon and a blank in front of a text change nothing in it. -/
theorem bareText_placeEnd (text : List Char) :
    bareText (placeEnd ++ text) = placeEnd ++ bareText text := by
  have spelled : placeEnd = [':', ' '] := by decide
  have whole : pieces (':' :: ' ' :: text) = consText ':' (consText ' ' (pieces text)) := by
    rw [pieces_of_char (tagAt?_cons_eq_none (by decide) (by decide)),
      pieces_of_char (tagAt?_cons_eq_none (by decide) (by decide))]
  have shown := fun content => showText_colonBlank (by decide : Text.isBlank ' ' = true) content
  have alone := shown []
  rw [showText_nil] at alone
  rw [spelled]
  simp only [List.cons_append, List.nil_append]
  unfold bareText
  rw [whole]
  cases pieces text with
  | nil =>
      rw [List.flatMap_nil]
      exact (List.flatMap_singleton ..).trans alone
  | cons piece rest =>
      cases piece with
      | text content =>
          rw [List.flatMap_cons]
          exact congrArg (· ++ rest.flatMap Piece.bare) (shown content)
      | tag count content =>
          exact congrArg (· ++ (Piece.tag count content :: rest).flatMap Piece.bare) alone

/-! ## Escaped texts -/

/-- Is a piece shown as it is, once it is escaped? -/
def Piece.IsInert : Piece → Prop
  | .text content => Inert content
  | .tag _ content => Inert (writeTag content)

instance (piece : Piece) : Decidable piece.IsInert :=
  match piece with
  | .text content => inferInstanceAs (Decidable (Inert content))
  | .tag _ content => inferInstanceAs (Decidable (Inert (writeTag content)))

/-- All of the text is shown as it is, once it is escaped. -/
def Untouched (text : List Char) : Prop := ∀ piece ∈ pieces text, piece.IsInert

instance (text : List Char) : Decidable (Untouched text) :=
  inferInstanceAs (Decidable (∀ piece ∈ pieces text, piece.IsInert))

theorem bare_toPlain (piece : Piece) :
    Traces piece.toPlain.bare piece.write ∧ (piece.toPlain.bare = piece.write ↔ piece.IsInert) := by
  cases piece with
  | text content => exact ⟨traces_showText content, showText_eq_iff⟩
  | tag count content =>
      have half : (2 * count + 1) / 2 = count := by omega
      have odd : (2 * count + 1) % 2 = 1 := by omega
      unfold Piece.toPlain Piece.bare Piece.write Piece.IsInert
      dsimp only
      rw [half, if_pos odd]
      exact ⟨(Traces.refl _).append (traces_showText _),
        (List.append_cancel_left_eq ..).to_iff.trans showText_eq_iff⟩

theorem bare_map_toPlain (pieces : List Piece) :
    Traces ((pieces.map Piece.toPlain).flatMap Piece.bare) (pieces.flatMap Piece.write) ∧
      ((pieces.map Piece.toPlain).flatMap Piece.bare = pieces.flatMap Piece.write ↔
        ∀ piece ∈ pieces, piece.IsInert) := by
  induction pieces with
  | nil => exact ⟨.refl [], fun _ => nofun, fun _ => rfl⟩
  | cons piece rest inductionHypothesis =>
      obtain ⟨traces, same⟩ := bare_toPlain piece
      obtain ⟨traces', same'⟩ := inductionHypothesis
      rw [List.map_cons, List.flatMap_cons, List.flatMap_cons, traces.append_eq_iff, same, same',
        List.forall_mem_cons]
      exact ⟨traces.append traces', Iff.rfl⟩

/-- What is shown of an escaped text is the text, or parts from it visibly. -/
theorem traces_escapeTags (text : List Char) : Traces (bareText (escapeTags text)) text := by
  have traces := (bare_map_toPlain (pieces text)).1
  rw [flatMap_write_pieces, ← pieces_escapeTags] at traces
  exact traces

/-- **An escaped text is shown as it is exactly if all of its pieces are inert.** -/
theorem bareText_escapeTags_eq_iff {text : List Char} :
    bareText (escapeTags text) = text ↔ Untouched text := by
  have same := (bare_map_toPlain (pieces text)).2
  rw [flatMap_write_pieces, ← pieces_escapeTags] at same
  exact same

section
variable {front : List Char} (isOpen : Open front) (count : Nat)
include isOpen

/-- Backslashes at the end do not matter for this. -/
theorem untouched_slashes : Untouched (front ++ slashesOf count) ↔ Untouched front := by
  rw [← bareText_escapeTags_eq_iff, ← bareText_escapeTags_eq_iff, escapeTags_slashes isOpen,
    bareText_slashes (open_escapeTags isOpen), List.append_cancel_right_eq]

/-- At the end of a message all backslashes of an escaped text are shown. -/
theorem bareText_escape : bareText (escape (front ++ slashesOf count)) =
    bareText (escapeTags front) ++ slashesOf (doubled count) := by
  rw [escape_eq isOpen, bareText_slashes (open_escapeTags isOpen)]

/-- In front of a tag they belong to the tag. -/
theorem bareText_escape_tag {content : List Char} (isTag : IsTag content) (rest : List Char) :
    bareText (escape (front ++ slashesOf count) ++ (writeTag content ++ rest)) =
      bareText (escapeTags front) ++ ((Piece.tag (doubled count) content).bare ++ bareText rest) := by
  rw [escape_eq isOpen, List.append_assoc, bareText_tag (open_escapeTags isOpen) isTag]

end

end ModuleGlue.Console
