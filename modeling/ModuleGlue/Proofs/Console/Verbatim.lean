import ModuleGlue.Proofs.Console.EscapedPieces

/-!
Contract: whether a diagnostic is shown as it is.

The label of a diagnostic, its place and its text are put together with the tags of styles. What is
written in them begins and ends no style, whatever it is. All of it is shown as it is unless
something is changed within one of the texts, or backslashes at the end of one meet the tag behind it.

Main statements: `exists_record_of_joined` (when a diagnostic is shown as it is) and
`tags_diagnosticMessage` (no tag that begins or ends a style is written in it).

Owns: what is shown of a diagnostic, exactly.

Does not own: what is shown of a text by itself.
-/

namespace ModuleGlue.Console

open ModuleGlue.Text (isDigit)

/-! ## The place of a diagnostic -/

theorem placeEnd_eq : placeEnd = [':', ' '] := by decide

theorem splitAtFirst?_sound {separator text before after : List Char}
    (found : splitAtFirst? separator text = some (before, after)) :
    text = before ++ (separator ++ after) := by
  induction text generalizing before with
  | nil =>
      unfold splitAtFirst? at found
      split at found
      · rename_i empty
        obtain ⟨rfl, rfl⟩ := Prod.mk.inj (Option.some.inj found)
        rw [List.isEmpty_iff.1 empty]
        rfl
      · cases found
  | cons c rest inductionHypothesis =>
      unfold splitAtFirst? at found
      split at found
      · rename_i here
        obtain ⟨rfl, rfl⟩ := Prod.mk.inj (Option.some.inj found)
        obtain ⟨behind, whole⟩ := List.isPrefixOf_iff_prefix.1 here
        rw [← whole, List.drop_left, List.nil_append]
      · obtain ⟨⟨before', after'⟩, later, same⟩ := Option.map_eq_some_iff.1 found
        obtain ⟨rfl, rfl⟩ := Prod.mk.inj same
        exact congrArg (c :: ·) (inductionHypothesis later)

/-- The first colon with a blank is the one behind a text without blanks. -/
theorem splitAtFirst?_placeEnd {place : List Char} (unblanked : ' ' ∉ place) (message : List Char) :
    splitAtFirst? placeEnd (place ++ (placeEnd ++ message)) = some (place, message) := by
  rw [placeEnd_eq]
  induction place with
  | nil => rfl
  | cons c rest inductionHypothesis =>
      rw [List.mem_cons, not_or] at unblanked
      have notHere : [':', ' '].isPrefixOf (c :: (rest ++ ([':', ' '] ++ message))) = false := by
        rw [Bool.eq_false_iff]
        intro here
        obtain ⟨behind, whole⟩ := List.isPrefixOf_iff_prefix.1 here
        have second := congrArg List.head? (List.cons.inj whole).2
        cases rest with
        | nil => cases second
        | cons d rest => exact unblanked.2 (Option.some.inj second ▸ List.mem_cons_self)
      rw [List.cons_append, splitAtFirst?, notHere, if_neg Bool.false_ne_true,
        inductionHypothesis unblanked.2]
      rfl

/-- A place is digits and colons. -/
theorem mem_of_isPlace {place : List Char} (is : isPlace place = true) {c : Char}
    (member : c ∈ place) : c = ':' ∨ isDigit c = true := by
  by_cases colon : c = ':'
  · exact Or.inl colon
  · have digits := (Bool.and_eq_true_iff.1 is).2
    rw [List.all_eq_true] at digits
    exact Or.inr (digits c (List.mem_filter.2 ⟨member, bne_iff_ne.2 colon⟩))

theorem splitPlace?_eq_some_iff {diagnostic place message : List Char} :
    splitPlace? diagnostic = some (place, message) ↔
      diagnostic = place ++ (placeEnd ++ message) ∧ isPlace place = true := by
  unfold splitPlace?
  rw [Option.filter_eq_some_iff]
  constructor
  · rintro ⟨found, is⟩
    exact ⟨splitAtFirst?_sound found, is⟩
  · rintro ⟨rfl, is⟩
    refine ⟨splitAtFirst?_placeEnd (fun blank => ?_) message, is⟩
    rcases mem_of_isPlace is blank with colon | digit
    · cases colon
    · exact absurd digit (by decide)

/-- What is put between a label and a diagnostic: a colon if the diagnostic begins with a place, and
a colon and a blank if it does not. The place and the text of the diagnostic are named as well. -/
inductive Joined (diagnostic : List Char) : List Char → List Char → List Char → Prop where
  | placed {place message : List Char} (split : diagnostic = place ++ (placeEnd ++ message))
      (is : isPlace place = true) : Joined diagnostic [':'] place message
  | unplaced (none : ∀ place message, diagnostic = place ++ (placeEnd ++ message) →
      isPlace place = false) : Joined diagnostic placeEnd [] diagnostic

theorem splitPlace?_eq_none_iff {diagnostic : List Char} :
    splitPlace? diagnostic = none ↔ ∀ place message,
      diagnostic = place ++ (placeEnd ++ message) → isPlace place = false := by
  rw [Option.eq_none_iff_forall_ne_some, Prod.forall]
  simp only [ne_eq, splitPlace?_eq_some_iff, not_and, Bool.not_eq_true]

theorem exists_joined (diagnostic : List Char) :
    ∃ separator place message, Joined diagnostic separator place message := by
  cases found : splitPlace? diagnostic with
  | none => exact ⟨_, _, _, .unplaced (splitPlace?_eq_none_iff.1 found)⟩
  | some split =>
      obtain ⟨split, is⟩ := splitPlace?_eq_some_iff.1 found
      exact ⟨_, _, _, .placed split is⟩

/-! ## Backslashes in front of a tag -/

theorem isSeen_slash : isSeen '\\' = true := by decide

theorem filter_slashesOf (count : Nat) : (slashesOf count).filter isSeen = slashesOf count :=
  List.filter_eq_self.2 fun _ member => List.eq_of_mem_replicate member ▸ isSeen_slash

/-- Fewer backslashes, and then something else. -/
theorem parts_slashes {fewer count : Nat} (less : fewer < count) {c : Char} (other : c ≠ '\\')
    (seen : isSeen c = true) (more rest : List Char) :
    Parts (slashesOf fewer ++ c :: more) (slashesOf count ++ rest) := by
  obtain ⟨left, rfl⟩ := Nat.exists_eq_add_of_lt less
  have split : slashesOf (fewer + left + 1) ++ rest =
      slashesOf fewer ++ '\\' :: (slashesOf left ++ rest) := by
    unfold slashesOf
    rw [Nat.add_assoc, List.replicate_add, List.replicate_succ, List.append_assoc,
      List.cons_append]
  exact ⟨rfl, split, other, seen⟩

/-- A tag that is shown begins with its bracket. -/
theorem showText_writeTag (content : List Char) :
    ∃ rest, showText (writeTag content) = '[' :: rest :=
  ⟨_, showText_cons (by decide) (by decide) (content ++ [']'])⟩

section
variable {count : Nat} {content : List Char}

/-- At most one backslash, doubled, is the one that is shown in front of a tag. -/
theorem bare_tag_of_few (few : count ≤ 1) :
    (Piece.tag (doubled count) content).bare = slashesOf count := by
  obtain rfl | rfl : count = 0 ∨ count = 1 := by omega
  · rfl
  · rfl

/-- Of more backslashes in front of a tag fewer are shown, and perhaps the tag. -/
theorem exists_bare_tag_of_many (many : 1 < count) :
    ∃ fewer more, fewer < count ∧ (Piece.tag (doubled count) content).bare = slashesOf fewer ++ more ∧
      (more = [] ∨ ∃ rest, more = '[' :: rest) := by
  have same : doubled count = count := if_neg (by omega)
  refine ⟨count / 2, _, by omega, by rw [same]; rfl, ?_⟩
  split
  · exact Or.inr (showText_writeTag content)
  · exact Or.inl rfl

/-- In front of a tag and more text, at most one backslash is shown as it is. -/
theorem filter_bare_tag_eq_iff {c : Char} (other : c ≠ '\\') (seen : isSeen c = true)
    {more rest : List Char} :
    ((Piece.tag (doubled count) content).bare ++ c :: more).filter isSeen =
        slashesOf count ++ c :: rest ↔ count ≤ 1 ∧ more.filter isSeen = rest := by
  by_cases few : count ≤ 1
  · rw [bare_tag_of_few few, List.filter_append, filter_slashesOf, List.append_cancel_left_eq,
      List.filter_cons_of_pos seen]
    simp [few]
  · obtain ⟨fewer, tag, less, shown, outcome⟩ :=
      @exists_bare_tag_of_many count content (Nat.lt_of_not_le few)
    have parts : Parts (slashesOf fewer ++ tag ++ c :: more) (slashesOf count ++ c :: rest) := by
      rcases outcome with rfl | ⟨behind, rfl⟩
      · rw [List.append_nil]
        exact parts_slashes less other seen more _
      · rw [List.append_assoc]
        exact parts_slashes less (by decide) (by decide) _ _
    rw [shown]
    exact ⟨fun same => absurd same parts.filter_ne, fun both => absurd both.1 few⟩

/-- So it is in front of a tag and nothing more. -/
theorem filter_bare_lastTag_eq_iff :
    (Piece.tag (doubled count) content).bare.filter isSeen = slashesOf count ↔ count ≤ 1 := by
  by_cases few : count ≤ 1
  · rw [bare_tag_of_few few, filter_slashesOf]
    simp [few]
  · obtain ⟨fewer, tag, less, shown, outcome⟩ :=
      @exists_bare_tag_of_many count content (Nat.lt_of_not_le few)
    rw [shown]
    refine ⟨fun same => ?_, fun both => absurd both few⟩
    rcases outcome with rfl | ⟨behind, rfl⟩
    · rw [List.append_nil, filter_slashesOf] at same
      have lengths := congrArg List.length same
      rw [slashesOf, slashesOf, List.length_replicate, List.length_replicate] at lengths
      omega
    · have parts := parts_slashes less (by decide) (by decide : isSeen '[' = true) behind []
      rw [List.append_nil] at parts
      exact absurd same parts.filter_ne

end

/-! ## What is shown of a diagnostic -/

/-- A style that begins shows nothing. -/
theorem bareText_styled {front : List Char} (isOpen : Open front) {style : String}
    (is : IsStyle style.toList) (text rest : List Char) :
    bareText (front ++ (styled style text ++ rest)) =
      bareText front ++ bareText (text ++ (writeTag ('/' :: style.toList) ++ rest)) := by
  rw [append_styled, bareText_tag isOpen is.begins]
  rfl

/-- What is written between the label and the text of a diagnostic. -/
def writeMiddle (place : List Char) : List Char :=
  if place.isEmpty then placeEnd else [':'] ++ (styled "span" place ++ placeEnd)

section
variable {place : List Char} (is : isPlace place = true)
include is

theorem writeMiddle_of_isPlace : writeMiddle place = [':'] ++ (styled "span" place ++ placeEnd) := by
  cases place with
  | nil => cases is
  | cons c rest => rfl

theorem open_of_isPlace : Open place := by
  intro slash
  rcases mem_of_isPlace is (List.mem_of_getLast? slash) with colon | digit
  · cases colon
  · exact absurd digit (by decide)

/-- A place is shown by itself, and its style is not. -/
theorem bareText_place (rest : List Char) : bareText (writeMiddle place ++ rest) =
    ':' :: (showText place ++ (placeEnd ++ bareText rest)) := by
  have colon : bareText [':'] = [':'] :=
    (bareText_of_untagged (tags_of_unopened (by decide))).trans (showText_eq_iff.2 (by decide +kernel))
  have behind := bareText_tag (open_of_isPlace is) isStyle_span.ends 0 (placeEnd ++ rest)
  rw [bareText_of_untagged (tags_of_unopened (unopened_of_isPlace is)), bareText_placeEnd] at behind
  rw [writeMiddle_of_isPlace is, List.append_assoc, List.append_assoc,
    bareText_styled (by decide) isStyle_span, colon]
  exact congrArg (':' :: ·) behind

/-- There is nothing to escape in a place, so it is shown as it is if it is inert. -/
theorem untouched_iff_of_isPlace : Untouched place ↔ showText place = place := by
  have none := tags_of_unopened (unopened_of_isPlace is)
  rw [← bareText_escapeTags_eq_iff, escapeTags_of_untagged none, bareText_of_untagged none]

end

theorem untouched_nil : Untouched [] := by
  intro piece member
  rw [pieces_nil] at member
  cases member

/-- What is shown behind the label, as far as the text of the diagnostic. -/
structure Middle (place text shown : List Char) : Prop where
  bare : ∀ rest, bareText (writeMiddle place ++ rest) = ':' :: (shown ++ bareText rest)
  traces : Traces shown text
  same_iff : shown = text ↔ Untouched place

section
variable {diagnostic separator place message : List Char}
  (joined : Joined diagnostic separator place message)
include joined

theorem exists_middle :
    ∃ text shown, separator ++ diagnostic = ':' :: (text ++ message) ∧ Middle place text shown := by
  cases joined with
  | placed split is =>
      refine ⟨place ++ placeEnd, showText place ++ placeEnd, by simp [split], fun rest => ?_,
        (traces_showText place).append (.refl _), ?_⟩
      · rw [bareText_place is, List.append_assoc]
      · rw [untouched_iff_of_isPlace is, List.append_cancel_right_eq]
  | unplaced none =>
      refine ⟨[' '], [' '], by rw [placeEnd_eq]; rfl, fun rest => ?_, .refl _,
        fun _ => untouched_nil, fun _ => rfl⟩
      exact (bareText_placeEnd rest).trans (congrArg (· ++ bareText rest) placeEnd_eq)

theorem diagnosticText_eq (label : List Char) : diagnosticText label diagnostic =
    styled "path" (escape label) ++ (writeMiddle place ++ escape message) := by
  unfold diagnosticText
  cases joined with
  | placed split is =>
      rw [splitPlace?_eq_some_iff.2 ⟨split, is⟩, writeMiddle_of_isPlace is]
      simp only [List.append_assoc, List.cons_append, List.nil_append]
  | unplaced none =>
      rw [splitPlace?_eq_none_iff.2 none]
      exact List.append_assoc ..

/-- What is shown of a diagnostic with other text before and behind it. -/
theorem bareText_diagnosticText {text shown front label : List Char}
    (is : Middle place text shown) (isOpen : Open front) (isOpen' : Open label) (count : Nat)
    (ending : List Char) :
    bareText (front ++ (diagnosticText (label ++ slashesOf count) diagnostic ++ ending)) =
      bareText front ++ (bareText (escapeTags label) ++
        ((Piece.tag (doubled count) ('/' :: "path".toList)).bare ++
          ':' :: (shown ++ bareText (escape message ++ ending)))) := by
  rw [diagnosticText_eq joined, List.append_assoc, List.append_assoc,
    bareText_styled isOpen isStyle_path, bareText_escape_tag isOpen' _ isStyle_path.ends, is.bare]

end

/-- What ends the style of a whole diagnostic. An error has none. -/
def ending (isError : Bool) : List Char :=
  if isError then [] else writeTag ('/' :: "deprecated".toList)

theorem bareText_nil : bareText [] = [] := by
  unfold bareText
  rw [pieces_nil, List.flatMap_nil]

theorem bareText_sign (level : Level) : bareText level.sign.toList = level.sign.toList := by
  rw [bareText_of_untagged (tags_of_unopened level.sign_unopened), showText_eq_iff]
  cases level <;> decide +kernel

def diagnosticLevel (isError : Bool) : Level := if isError then .error else .warning

section
variable {label diagnostic : String} {isError : Bool}

theorem diagnosticMessage_level :
    (diagnosticMessage label diagnostic isError).1 = diagnosticLevel isError := by
  cases isError <;> rfl

theorem toList_diagnosticMessage_error : (diagnosticMessage label diagnostic true).2.toList =
    diagnosticText label.toList diagnostic.toList ++ ending true :=
  String.toList_ofList.trans (List.append_nil _).symm

theorem toList_diagnosticMessage_warning : (diagnosticMessage label diagnostic false).2.toList =
    styled "deprecated" (diagnosticText label.toList diagnostic.toList) ++ [] :=
  String.toList_ofList.trans (List.append_nil _).symm

/-- What is shown of the message of a record, if it is known what is shown of the diagnostic. -/
theorem bareText_diagnosticMessage {shown : List Char}
    (within : ∀ {front : List Char}, Open front →
      bareText (front ++ (diagnosticText label.toList diagnostic.toList ++ ending isError)) =
        bareText front ++ shown) :
    bareText ((diagnosticLevel isError).sign.toList ++
        (diagnosticMessage label diagnostic isError).2.toList) =
      (diagnosticLevel isError).sign.toList ++ shown := by
  cases isError with
  | true =>
      rw [toList_diagnosticMessage_error, within (Level.sign_open _), bareText_sign]
  | false =>
      have text := @within [] (by decide)
      rw [List.nil_append, bareText_nil, List.nil_append] at text
      rw [toList_diagnosticMessage_warning, bareText_styled (Level.sign_open _) isStyle_deprecated,
        List.append_nil, bareText_sign]
      exact congrArg (_ ++ ·) text

end

/-- How many backslashes may a message end with? At the end of an error only a single one is
doubled; those at the end of a warning meet the tag that ends its style. -/
def EndsWell (isError : Bool) (count : Nat) : Prop :=
  if isError then count ≠ 1 else count ≤ 1

instance (isError : Bool) (count : Nat) : Decidable (EndsWell isError count) :=
  inferInstanceAs (Decidable (if isError then count ≠ 1 else count ≤ 1))

/-- When the text of a diagnostic is shown as it is. -/
theorem filter_escape_ending_eq_iff (message : List Char) (isError : Bool) :
    (bareText (escape message ++ ending isError)).filter isSeen = message ↔
      Untouched message ∧ (∀ c ∈ message, isSeen c = true) ∧
        EndsWell isError (closingSlashes message) := by
  obtain ⟨front, isOpen, whole⟩ := exists_open_closing message
  generalize closingSlashes message = count at whole ⊢
  subst whole
  have seen : (∀ c ∈ front ++ slashesOf count, isSeen c = true) ↔ ∀ c ∈ front, isSeen c = true := by
    rw [List.forall_mem_append, and_iff_left]
    exact List.filter_eq_self.1 (filter_slashesOf count)
  rw [untouched_slashes isOpen, seen, ← bareText_escapeTags_eq_iff]
  cases isError with
  | true =>
      have doubles : (slashesOf (doubled count)).filter isSeen = slashesOf count ↔ count ≠ 1 := by
        rw [filter_slashesOf, slashesOf, slashesOf, List.replicate_left_inj]
        unfold doubled
        split <;> omega
      rw [ending, if_pos rfl, List.append_nil, bareText_escape isOpen,
        (traces_escapeTags front).filter_append_eq_iff, doubles]
      rfl
  | false =>
      have last : ending false = writeTag ('/' :: "deprecated".toList) ++ [] :=
        (List.append_nil _).symm
      rw [last, bareText_escape_tag isOpen _ isStyle_deprecated.ends, bareText_nil, List.append_nil,
        (traces_escapeTags front).filter_append_eq_iff, filter_bare_lastTag_eq_iff]
      rfl

/-! ## Tags -/

theorem tags_tag {front content : List Char} (isOpen : Open front) (isTag : IsTag content)
    (count : Nat) (rest : List Char) :
    tags (front ++ (slashesOf count ++ (writeTag content ++ rest))) =
      tags front ++ (count, content) :: tags rest := by
  rw [tags_append (apart_tag isOpen count content rest), tags, tags, pieces_tag isTag]
  rfl

/-- A style begins with its tag, whatever the text in it. -/
theorem tags_styled_open {front : List Char} (isOpen : Open front) {style : String}
    (is : IsStyle style.toList) (text rest : List Char) :
    tags (front ++ (styled style text ++ rest)) = tags front ++ (0, style.toList) ::
      tags (text ++ (writeTag ('/' :: style.toList) ++ rest)) := by
  rw [append_styled, tags_tag isOpen is.begins]

/-- The tags of an escaped text are plain, and the tag behind it gets the backslashes at its end. -/
theorem tags_escape_tag (text : List Char) {content : List Char} (isTag : IsTag content)
    (rest : List Char) :
    tags (escape text ++ (writeTag content ++ rest)) =
      (tags text).map plain ++ (doubled (closingSlashes text), content) :: tags rest := by
  obtain ⟨front, isOpen, whole⟩ := exists_open_closing text
  generalize closingSlashes text = count at whole ⊢
  subst whole
  rw [escape_eq isOpen, List.append_assoc, tags_tag (open_escapeTags isOpen) isTag,
    tags_escapeTags, tags_append_slashes isOpen]

theorem tags_placeEnd (text : List Char) : tags (placeEnd ++ text) = tags text := by
  rw [tags_append ⟨by decide, Or.inl (by decide)⟩, tags_of_unopened (by decide), List.nil_append]

def placeTags (place : List Char) : List (Nat × List Char) :=
  if place.isEmpty then [] else [(0, "span".toList), (0, '/' :: "span".toList)]

theorem tags_writeMiddle {diagnostic separator place message : List Char}
    (joined : Joined diagnostic separator place message) (rest : List Char) :
    tags (writeMiddle place ++ rest) = placeTags place ++ tags rest := by
  cases joined with
  | placed split is =>
      have some : placeTags place = [(0, "span".toList), (0, '/' :: "span".toList)] := by
        cases place with
        | nil => cases is
        | cons c rest => rfl
      have none : tags [':'] = [] := tags_of_unopened (by decide)
      have behind := tags_tag (open_of_isPlace is) isStyle_span.ends 0 (placeEnd ++ rest)
      rw [tags_of_unopened (unopened_of_isPlace is), tags_placeEnd] at behind
      rw [writeMiddle_of_isPlace is, List.append_assoc, List.append_assoc,
        tags_styled_open (by decide) isStyle_span, none, some]
      exact congrArg ((0, "span".toList) :: ·) behind
  | unplaced none => exact tags_placeEnd rest

/-- The tags in a record of a diagnostic. Those of its texts are plain. -/
def recordTags (label place message : List Char) (isError : Bool) : List (Nat × List Char) :=
  (if isError then [] else [(0, "deprecated".toList)]) ++
    ((0, "path".toList) :: ((tags label).map plain ++
      (doubled (closingSlashes label), '/' :: "path".toList) ::
        (placeTags place ++ ((tags message).map plain ++
          if isError then []
          else [(doubled (closingSlashes message), '/' :: "deprecated".toList)]))))

/-- **Of all tags only those around the texts can begin or end a style.** -/
theorem tags_diagnosticMessage {label diagnostic : String} {separator place message : List Char}
    (joined : Joined diagnostic.toList separator place message) (isError : Bool) :
    tags ((diagnosticLevel isError).sign.toList ++
        (diagnosticMessage label diagnostic isError).2.toList) =
      recordTags label.toList place message isError := by
  have sign := fun level : Level => tags_of_unopened level.sign_unopened
  have text : ∀ {front : List Char} (_ : Open front) (ending : List Char),
      tags (front ++ (diagnosticText label.toList diagnostic.toList ++ ending)) =
        tags front ++ (0, "path".toList) :: ((tags label.toList).map plain ++
          (doubled (closingSlashes label.toList), '/' :: "path".toList) ::
            (placeTags place ++ tags (escape message ++ ending))) := by
    intro front isOpen ending
    rw [diagnosticText_eq joined, List.append_assoc, List.append_assoc,
      tags_styled_open isOpen isStyle_path, tags_escape_tag _ isStyle_path.ends,
      tags_writeMiddle joined]
  unfold recordTags
  cases isError with
  | true =>
      have last : tags (escape message ++ ending true) = (tags message).map plain ++ [] := by
        rw [ending, if_pos rfl, List.append_nil, List.append_nil, tags_escape]
      rw [toList_diagnosticMessage_error, text (Level.sign_open _), sign, last]
      rfl
  | false =>
      have last := tags_escape_tag message isStyle_deprecated.ends []
      have inside := @text [] (by decide) (ending false ++ [])
      rw [List.nil_append, ending, if_neg Bool.false_ne_true, last,
        tags_of_unopened List.not_mem_nil] at inside
      rw [toList_diagnosticMessage_warning, tags_styled_open (Level.sign_open _) isStyle_deprecated,
        sign]
      exact congrArg ((0, "deprecated".toList) :: ·) inside

/-! ## Records of diagnostics -/

/-- Nothing of a diagnostic is changed when it is shown. -/
structure ShownWhole (label diagnostic place message : List Char) (isError : Bool) : Prop where
  label_untouched : Untouched label
  place_untouched : Untouched place
  message_untouched : Untouched message
  label_end : closingSlashes label ≤ 1
  message_end : EndsWell isError (closingSlashes message)
  seen : (label ++ diagnostic).all isSeen = true

instance (label diagnostic place message : List Char) (isError : Bool) :
    Decidable (ShownWhole label diagnostic place message isError) :=
  decidable_of_iff (Untouched label ∧ Untouched place ∧ Untouched message ∧
      closingSlashes label ≤ 1 ∧ EndsWell isError (closingSlashes message) ∧
      (label ++ diagnostic).all isSeen = true)
    ⟨fun ⟨label, place, message, label_end, message_end, seen⟩ =>
      ⟨label, place, message, label_end, message_end, seen⟩,
      fun whole => ⟨whole.label_untouched, whole.place_untouched, whole.message_untouched,
        whole.label_end, whole.message_end, whole.seen⟩⟩

theorem Joined.seen {diagnostic separator place message : List Char}
    (joined : Joined diagnostic separator place message) : ∀ c ∈ separator, isSeen c = true := by
  rw [← List.all_eq_true]
  cases joined <;> rfl

/-- What is shown of a diagnostic, and when it is the diagnostic itself. -/
theorem exists_bareText_diagnostic {label diagnostic separator place message : List Char}
    (joined : Joined diagnostic separator place message) (isError : Bool) :
    ∃ shown, (∀ {front : List Char}, Open front →
        bareText (front ++ (diagnosticText label diagnostic ++ ending isError)) =
          bareText front ++ shown) ∧
      (shown.filter isSeen = label ++ (separator ++ diagnostic) ↔
        ShownWhole label diagnostic place message isError) := by
  obtain ⟨text, middle, split, is⟩ := exists_middle joined
  obtain ⟨front, isOpen, whole⟩ := exists_open_closing label
  have untouched : Untouched label ↔ Untouched front := by
    rw [whole, untouched_slashes isOpen]
  have seen : (label ++ diagnostic).all isSeen = true ↔ (∀ c ∈ front, isSeen c = true) ∧
      (∀ c ∈ text, isSeen c = true) ∧ ∀ c ∈ message, isSeen c = true := by
    have behind : (∀ c ∈ separator ++ diagnostic, isSeen c = true) ↔
        ∀ c ∈ diagnostic, isSeen c = true := by
      rw [List.forall_mem_append, and_iff_right joined.seen]
    rw [List.all_eq_true, List.forall_mem_append, ← behind, split, List.forall_mem_cons, List.forall_mem_append,
      and_iff_right (by decide : isSeen ':' = true), whole, List.forall_mem_append,
      and_iff_left (List.filter_eq_self.1 (filter_slashesOf _))]
  have same := filter_escape_ending_eq_iff message isError
  have shown := fun {outside : List Char} (isOpen' : Open outside) =>
    bareText_diagnosticText joined is isOpen' isOpen (closingSlashes label) (ending isError)
  rw [← whole] at shown
  refine ⟨_, shown, ?_⟩
  -- From left to right, each text has to be shown as it is before the next one counts.
  have split' : label ++ (separator ++ diagnostic) =
      front ++ (slashesOf (closingSlashes label) ++ ':' :: (text ++ message)) := by
    rw [split, ← List.append_assoc, ← whole]
  rw [split', (traces_escapeTags front).filter_append_eq_iff,
    filter_bare_tag_eq_iff (by decide) (by decide), is.traces.filter_append_eq_iff, is.same_iff,
    same, bareText_escapeTags_eq_iff, ← untouched]
  constructor
  · rintro ⟨label_untouched, seen_front, label_end, place_untouched, seen_text, message_untouched,
      seen_message, message_end⟩
    exact ⟨label_untouched, place_untouched, message_untouched, label_end, message_end,
      seen.2 ⟨seen_front, seen_text, seen_message⟩⟩
  · intro whole
    obtain ⟨seen_front, seen_text, seen_message⟩ := seen.1 whole.seen
    exact ⟨whole.label_untouched, seen_front, whole.label_end, whole.place_untouched, seen_text,
      whole.message_untouched, seen_message, whole.message_end⟩

/-- **A diagnostic is always shown, and shown as it is exactly if nothing in it is changed.** -/
theorem exists_record_of_joined (label : String) {diagnostic : String}
    {separator place message : List Char}
    (joined : Joined diagnostic.toList separator place message) (isError : Bool) :
    ∃ shown, Entry.ofMessage (diagnosticMessage label diagnostic isError).1
        (diagnosticMessage label diagnostic isError).2 =
      .ok (.record (diagnosticLevel isError) shown) ∧
      (shown = (diagnosticLevel isError).sign.toList ++
          (label.toList ++ (separator ++ diagnostic.toList)) ↔
        ShownWhole label.toList diagnostic.toList place message isError) := by
  obtain ⟨shown, bare, same⟩ := exists_bareText_diagnostic joined isError
  have record : Entry.ofMessage (diagnosticMessage label diagnostic isError).1
      (diagnosticMessage label diagnostic isError).2 = _ :=
    ofMessage_of_legible (legible_diagnosticMessage label diagnostic isError)
  rw [diagnosticMessage_level, bareText_diagnosticMessage bare] at record
  have sign : ∀ c ∈ (diagnosticLevel isError).sign.toList, isSeen c = true := by
    rw [← List.all_eq_true]
    cases isError <;> decide
  refine ⟨_, (congrArg (Entry.ofMessage · _) diagnosticMessage_level).trans record, ?_⟩
  rw [(Traces.refl _).filter_append_eq_iff, same, and_iff_right rfl, and_iff_right sign]

/-- Brackets alone do not matter. -/
example : ShownWhole "ext.py".toList "Syntax error: [bold] is not markup".toList []
    "Syntax error: [bold] is not markup".toList false := by decide +kernel

end ModuleGlue.Console
