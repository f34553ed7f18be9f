import ModuleGlue.Console.Log
import ModuleGlue.Proofs.Console.Tags
import ModuleGlue.Proofs.Outcome

/-!
Contract: which messages can be shown.

A message can be shown unless a tag in it ends a style that is not open. Tags that come in pairs,
one in the other, only end what they have begun; a tag that is made plain by a backslash does
nothing.

Main statement: `legible_diagnosticMessage` (a diagnostic can be shown, whatever it says and
whatever its file is called).

Owns: what the tags of a text do to the styles, and the messages without free text.

Does not own: how messages are shown.
-/

namespace ModuleGlue.Console

open ModuleGlue.Text (isDigit trimBlanks)

/-! ## Styles -/

def applyTags (styles : OpenStyles) : List (Nat × List Char) → Except MarkupError OpenStyles
  | [] => .ok styles
  | (count, content) :: rest =>
    if count % 2 = 1 then applyTags styles rest
    else (applyTag styles content).bind fun after => applyTags after rest

theorem applyTags_append (styles : OpenStyles) (first second : List (Nat × List Char)) :
    applyTags styles (first ++ second) =
      (applyTags styles first).bind fun after => applyTags after second := by
  induction first generalizing styles with
  | nil => rfl
  | cons tag rest inductionHypothesis =>
      obtain ⟨count, content⟩ := tag
      rw [List.cons_append, applyTags, applyTags]
      split
      · exact inductionHypothesis styles
      · cases applyTag styles content with
        | error reason => rfl
        | ok after => exact inductionHypothesis after

/-- Pieces can be shown if the first can, and then the others with the styles after it. -/
theorem exists_showPieces_cons_iff (styles : OpenStyles) (piece : Piece) (rest : List Piece) :
    (∃ shown, showPieces styles (piece :: rest) = .ok shown) ↔
      ∃ shown after, piece.show styles = .ok (shown, after) ∧
        ∃ others, showPieces after rest = .ok others := by
  constructor
  · rintro ⟨shown, whole⟩
    obtain ⟨⟨first, after⟩, here, whole⟩ := bind_eq_ok_iff.1 whole
    obtain ⟨others, there, -⟩ := bind_eq_ok_iff.1 whole
    exact ⟨first, after, here, others, there⟩
  · rintro ⟨first, after, here, others, there⟩
    exact ⟨first ++ others, bind_eq_ok_iff.2
      ⟨(first, after), here, bind_eq_ok_iff.2 ⟨others, there, rfl⟩⟩⟩

/-- Whether pieces can be shown is a question of the tags among them. -/
theorem exists_showPieces_iff (styles : OpenStyles) (pieces : List Piece) :
    (∃ shown, showPieces styles pieces = .ok shown) ↔
      ∃ after, applyTags styles (tagsOf pieces) = .ok after := by
  induction pieces generalizing styles with
  | nil => exact ⟨fun _ => ⟨styles, rfl⟩, fun _ => ⟨[], rfl⟩⟩
  | cons piece rest inductionHypothesis =>
      rw [exists_showPieces_cons_iff]
      cases piece with
      | text content =>
          refine Iff.trans ?_ (inductionHypothesis styles)
          constructor
          · rintro ⟨shown, after, here, others⟩
            cases here
            exact others
          · exact fun others => ⟨_, styles, rfl, others⟩
      | tag count content =>
          change _ ↔ ∃ after, applyTags styles ((count, content) :: tagsOf rest) = .ok after
          rw [applyTags, Piece.show]
          by_cases odd : count % 2 = 1
          · rw [if_pos odd, if_pos odd, ← inductionHypothesis styles]
            constructor
            · rintro ⟨shown, after, here, others⟩
              cases here
              exact others
            · exact fun others => ⟨_, styles, rfl, others⟩
          · rw [if_neg odd, if_neg odd]
            cases applyTag styles content with
            | error reason =>
                constructor
                · rintro ⟨shown, after, here, -⟩
                  cases here
                · rintro ⟨after, here⟩
                  cases here
            | ok next =>
                refine Iff.trans ?_ (inductionHypothesis next)
                constructor
                · rintro ⟨shown, after, here, others⟩
                  cases here
                  exact others
                · exact fun others => ⟨_, next, rfl, others⟩

def Legible (message : Level × String) : Prop :=
  ∃ entry, Entry.ofMessage message.1 message.2 = .ok entry

theorem legible_iff_tags (message : Level × String) :
    Legible message ↔
      ∃ after, applyTags [] (tags (message.1.sign.toList ++ message.2.toList)) = .ok after := by
  unfold tags
  rw [← exists_showPieces_iff]
  unfold Legible Entry.ofMessage showMarkup
  cases showPieces [] (pieces (message.1.sign.toList ++ message.2.toList)) with
  | ok shown => exact ⟨fun _ => ⟨shown, rfl⟩, fun _ => ⟨_, rfl⟩⟩
  | error reason =>
      constructor
      · rintro ⟨entry, found⟩
        cases found
      · rintro ⟨shown, found⟩
        cases found

/-! ## Tags that settle -/

/-- Some tags end no style but those that they have begun. They may leave some open. -/
def Settles (tags : List (Nat × List Char)) : Prop :=
  ∀ styles, ∃ begun, applyTags styles tags = .ok (begun ++ styles)

theorem settles_nil : Settles [] := fun _ => ⟨[], rfl⟩

theorem Settles.append {first second : List (Nat × List Char)} (settles : Settles first)
    (others : Settles second) : Settles (first ++ second) := by
  intro styles
  obtain ⟨begun, applied⟩ := settles styles
  obtain ⟨begun', applied'⟩ := others (begun ++ styles)
  refine ⟨begun' ++ begun, ?_⟩
  rw [applyTags_append, applied, List.append_assoc]
  exact applied'

/-- Plain tags do nothing. -/
theorem settles_plain (tags : List (Nat × List Char)) : Settles (tags.map plain) := by
  induction tags with
  | nil => exact settles_nil
  | cons tag rest inductionHypothesis =>
      intro styles
      have odd : (2 * tag.1 + 1) % 2 = 1 := by omega
      obtain ⟨begun, applied⟩ := inductionHypothesis styles
      refine ⟨begun, ?_⟩
      rw [List.map_cons, plain, applyTags, if_pos odd]
      exact applied

/-- The name of a style, as it stands in a tag that begins the style, and behind a slash in one that
ends it. -/
structure IsStyle (style : List Char) : Prop where
  begins : IsTag style
  ends : IsTag ('/' :: style)
  bare : '=' ∉ style
  unslashed : style.head? ≠ some '/'
  named : (trimBlanks style).isEmpty = false

instance (style : List Char) : Decidable (IsStyle style) :=
  decidable_of_iff (IsTag style ∧ IsTag ('/' :: style) ∧ '=' ∉ style ∧ style.head? ≠ some '/' ∧
      (trimBlanks style).isEmpty = false)
    ⟨fun ⟨begins, ends, bare, unslashed, named⟩ => ⟨begins, ends, bare, unslashed, named⟩,
      fun is => ⟨is.begins, is.ends, is.bare, is.unslashed, is.named⟩⟩

section
variable {style : List Char}

theorem IsStyle.takeWhile_eq (is : IsStyle style) : style.takeWhile (· != '=') = style := by
  rw [List.takeWhile_eq_self_iff]
  intro c member
  rw [bne_iff_ne]
  rintro rfl
  exact is.bare member

theorem IsStyle.applyTag_begin (is : IsStyle style) (styles : OpenStyles) :
    applyTag styles style = .ok (styleName style :: styles) := by
  unfold applyTag
  rw [is.takeWhile_eq]
  split
  · exact absurd rfl is.unslashed
  · rfl

theorem IsStyle.applyTag_end (is : IsStyle style) {styles : OpenStyles}
    (isOpen : styleName style ∈ styles) :
    applyTag styles ('/' :: style) = .ok (styles.erase (styleName style)) := by
  unfold applyTag
  have whole : ('/' :: style).takeWhile (· != '=') = '/' :: style := by
    rw [List.takeWhile_cons_of_pos (by decide), is.takeWhile_eq]
  rw [whole]
  simp [is.named, isOpen]

/-- A style that is ended, or left open because the tag that ends it is plain. -/
theorem Settles.styled {tags : List (Nat × List Char)} (settles : Settles tags)
    (is : IsStyle style) (count : Nat) :
    Settles ((0, style) :: (tags ++ [(count, '/' :: style)])) := by
  intro styles
  obtain ⟨begun, applied⟩ := settles (styleName style :: styles)
  have inside : applyTags styles ((0, style) :: (tags ++ [(count, '/' :: style)])) =
      applyTags (begun ++ styleName style :: styles) [(count, '/' :: style)] := by
    rw [applyTags, if_neg (by decide), is.applyTag_begin]
    change applyTags (styleName style :: styles) _ = _
    rw [applyTags_append, applied]
    rfl
  rw [inside]
  by_cases odd : count % 2 = 1
  · refine ⟨begun ++ [styleName style], ?_⟩
    rw [applyTags, if_pos odd, applyTags, List.append_assoc]
    rfl
  · rw [applyTags, if_neg odd, is.applyTag_end (by simp)]
    -- What is ended is the last style of that name, which was begun here.
    by_cases within : styleName style ∈ begun
    · refine ⟨begun.erase (styleName style) ++ [styleName style], ?_⟩
      rw [List.erase_append_left _ within, List.append_assoc]
      rfl
    · refine ⟨begun, ?_⟩
      rw [List.erase_append_right _ within, List.erase_cons_head]
      rfl

/-- A text in a style begins with a tag that has no backslash before it. -/
theorem append_styled (front : List Char) (style : String) (text rest : List Char) :
    front ++ (Console.styled style text ++ rest) =
      front ++ (slashesOf 0 ++ (writeTag style.toList ++
        (text ++ (writeTag ('/' :: style.toList) ++ rest)))) := by
  simp only [Console.styled, slashesOf, List.replicate_zero, List.nil_append, List.append_assoc]

/-- The tags of a text in a style, between two others. -/
theorem tags_styled {front : List Char} (isOpen : Open front) (style : String)
    (text rest : List Char) (is : IsStyle style.toList) :
    ∃ count, tags (front ++ (Console.styled style text ++ rest)) =
      tags front ++ ((0, style.toList) :: (tags text ++ [(count, '/' :: style.toList)]) ++
        tags rest) := by
  obtain ⟨count, inside⟩ := tags_append_tag text is.ends rest
  refine ⟨count, ?_⟩
  rw [append_styled, tags_append (apart_tag isOpen 0 _ _), tags, tags, pieces_tag is.begins]
  change _ ++ (0, style.toList) :: tags _ = _
  rw [inside]
  simp

end

/-! ## Messages -/

theorem isStyle_path : IsStyle "path".toList := by decide

theorem isStyle_span : IsStyle "span".toList := by decide

theorem isStyle_deprecated : IsStyle "deprecated".toList := by decide

theorem isStyle_bold : IsStyle "bold".toList := by decide

/-- The sign of a level holds no tag, and does not touch one. -/
theorem Level.sign_open (level : Level) : Open level.sign.toList := by
  cases level <;> decide

theorem Level.sign_unopened (level : Level) : '[' ∉ level.sign.toList := by
  cases level <;> decide

theorem legible_of_settles {level : Level} {message : String}
    (settles : Settles (tags (level.sign.toList ++ message.toList))) :
    Legible (level, message) := by
  obtain ⟨begun, applied⟩ := settles []
  exact (legible_iff_tags (level, message)).2 ⟨_, applied⟩

/-- A message without opening brackets can be shown. -/
theorem legible_of_unopened (level : Level) {message : String} (unopened : '[' ∉ message.toList) :
    Legible (level, message) := by
  refine legible_of_settles ?_
  rw [tags_of_unopened fun member => ?_]
  · exact settles_nil
  · exact (List.mem_append.1 member).elim level.sign_unopened unopened

/-- Numbers are written without brackets. -/
theorem unopened_number (number : Nat) : '[' ∉ (toString number).toList := by
  intro member
  have digits : (toString number).toList = Nat.toDigits 10 number := Nat.toList_repr
  rw [digits] at member
  have digit := Nat.isDigit_of_mem_toDigits (by omega) (by omega) member
  exact absurd digit (by decide)

theorem unopened_append {first second : String} (free : '[' ∉ first.toList)
    (free' : '[' ∉ second.toList) : '[' ∉ (first ++ second).toList := by
  rw [String.toList_append]
  exact fun member => (List.mem_append.1 member).elim free free'

theorem settles_escape (text : List Char) : Settles (tags (escape text)) :=
  tags_escape text ▸ settles_plain (tags text)

/-- A text between two others whose tags settle. -/
theorem Settles.of_styled {front : List Char} (isOpen : Open front) {style : String}
    (is : IsStyle style.toList) {text rest : List Char} (before : Settles (tags front))
    (within : Settles (tags text)) (behind : Settles (tags rest)) :
    Settles (tags (front ++ (Console.styled style text ++ rest))) := by
  obtain ⟨count, whole⟩ := tags_styled isOpen style text rest is
  rw [whole]
  exact before.append ((within.styled is count).append behind)

theorem settles_of_unopened {text : List Char} (unopened : '[' ∉ text) : Settles (tags text) :=
  tags_of_unopened unopened ▸ settles_nil

/-- A text with tags whose tags settle can be shown. -/
theorem exists_ofMarkup_of_settles {text : String} (settles : Settles (tags text.toList)) :
    ∃ entry, Entry.ofMarkup text = .ok entry := by
  obtain ⟨begun, applied⟩ := settles []
  obtain ⟨shown, whole⟩ := (exists_showPieces_iff [] (pieces text.toList)).2 ⟨_, applied⟩
  refine ⟨.plain (shown.filter (!isHidden ·)), ?_⟩
  unfold Entry.ofMarkup showMarkup
  rw [whole]
  rfl

/-- The place of a diagnostic holds no bracket. -/
theorem unopened_of_isPlace {text : List Char} (place : isPlace text = true) : '[' ∉ text := by
  intro member
  unfold isPlace at place
  have digits := (Bool.and_eq_true_iff.1 place).2
  rw [List.all_eq_true] at digits
  have isDigit := digits '[' (List.mem_filter.2 ⟨member, by decide⟩)
  exact absurd isDigit (by decide)

/-- The text behind the place or the label of a diagnostic. -/
theorem settles_placeEnd (text : List Char) : Settles (tags (placeEnd ++ escape text)) := by
  have apart : Apart placeEnd (escape text) := ⟨by decide, Or.inl (by decide)⟩
  rw [tags_append apart]
  exact (settles_of_unopened (by decide)).append (settles_escape text)

/-- A diagnostic settles wherever it stands. -/
theorem settles_diagnosticText {front : List Char} (isOpen : Open front)
    (before : Settles (tags front)) (label diagnostic : List Char) :
    Settles (tags (front ++ diagnosticText label diagnostic)) := by
  unfold diagnosticText
  cases found : splitPlace? diagnostic with
  | none =>
      dsimp only
      rw [List.append_assoc]
      exact .of_styled isOpen isStyle_path before (settles_escape label)
        (settles_placeEnd diagnostic)
  | some split =>
      obtain ⟨place, message⟩ := split
      obtain ⟨-, isPlace⟩ := Option.filter_eq_some_iff.1 found
      have colon :
          Settles (tags ([':'] ++ (styled "span" place ++ (placeEnd ++ escape message)))) :=
        .of_styled (by decide) isStyle_span (settles_of_unopened (by decide))
          (settles_of_unopened (unopened_of_isPlace isPlace)) (settles_placeEnd message)
      have shape : styled "path" (escape label) ++ ':' :: styled "span" place ++ placeEnd ++
            escape message = styled "path" (escape label) ++
          ([':'] ++ (styled "span" place ++ (placeEnd ++ escape message))) := by
        simp only [List.append_assoc, List.cons_append, List.nil_append]
      dsimp only
      rw [shape]
      exact .of_styled isOpen isStyle_path before (settles_escape label) colon

/-- **A diagnostic can always be shown**, whatever it says, whatever its file is called, and whether
or not it is an error. -/
theorem legible_diagnosticMessage (label diagnostic : String) (isError : Bool) :
    Legible (diagnosticMessage label diagnostic isError) := by
  have sign := fun level : Level => settles_of_unopened level.sign_unopened
  unfold diagnosticMessage
  cases isError with
  | true =>
      refine legible_of_settles ?_
      rw [String.toList_ofList]
      exact settles_diagnosticText (Level.sign_open .error) (sign .error) _ _
  | false =>
      refine legible_of_settles ?_
      rw [String.toList_ofList, ← List.append_nil (styled _ _)]
      refine .of_styled (Level.sign_open .warning) isStyle_deprecated (sign .warning) ?_
        (settles_of_unopened List.not_mem_nil)
      exact @settles_diagnosticText [] nofun (settles_of_unopened List.not_mem_nil) _ _

end ModuleGlue.Console
