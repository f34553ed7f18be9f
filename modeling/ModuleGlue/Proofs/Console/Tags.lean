import ModuleGlue.Console.Markup
import Mathlib.Data.List.Induction
import Mathlib.Data.List.TakeWhile

/-!
Contract: the tags in a text that is put together from others.

A tag is found wherever it is put, with the backslashes that the text before it ends with; and no
tag arises across the ends of the texts, since what stands between its brackets holds no bracket.

Main statements: `pieces_append` (the pieces of two texts) and `tags_escape` (an escaped text has the
tags of the text, each of them plain).

Owns: the pieces of joined and of escaped texts.

Does not own: what is shown of a piece.
-/

namespace ModuleGlue.Console

/-! ## Tags as they are written -/

/-- May this stand between the brackets of a tag? -/
structure IsTag (content : List Char) : Prop where
  begins : content.head?.any beginsTag = true
  free : ∀ c ∈ content, c ≠ '[' ∧ c ≠ ']'

instance (content : List Char) : Decidable (IsTag content) :=
  decidable_of_iff (content.head?.any beginsTag = true ∧
      content.all (fun c => c != '[' && c != ']') = true)
    ⟨fun both => ⟨both.1, by simpa using both.2⟩, fun tag => ⟨tag.begins, by simpa using tag.free⟩⟩

def Bracketless (text : List Char) : Prop := ∀ c ∈ text, c ≠ '[' ∧ c ≠ ']'

/-- A text that does not end with a backslash, so that none is added to those of a tag behind it. -/
def Open (text : List Char) : Prop := text.getLast? ≠ some '\\'

instance (text : List Char) : Decidable (Open text) :=
  inferInstanceAs (Decidable (text.getLast? ≠ some '\\'))

theorem Open.tail {c : Char} {rest : List Char} (isOpen : Open (c :: rest)) : Open rest := by
  cases rest with
  | nil => exact nofun
  | cons next others => simpa [Open] using isOpen

/-- Any text is an open one with backslashes behind it. -/
theorem exists_open (text : List Char) :
    ∃ front count, text = front ++ slashesOf count ∧ Open front := by
  induction text using List.reverseRecOn with
  | nil => exact ⟨[], 0, rfl, nofun⟩
  | append_singleton front c inductionHypothesis =>
      by_cases backslash : c = '\\'
      · obtain ⟨front', count, rfl, isOpen⟩ := inductionHypothesis
        refine ⟨front', count + 1, ?_, isOpen⟩
        rw [backslash, List.append_assoc, slashesOf, slashesOf, List.replicate_succ']
      · refine ⟨front ++ [c], 0, by simp [slashesOf], ?_⟩
        simpa [Open] using backslash

theorem not_open_slashes {count : Nat} (nonzero : count ≠ 0) : ¬ Open (slashesOf count) := by
  obtain ⟨count, rfl⟩ := Nat.exists_eq_succ_of_ne_zero nonzero
  simp [Open, slashesOf, List.replicate_succ']

/-- The characters of the content stop at the bracket that closes it. -/
theorem tagContent?_eq_some_iff {text content after : List Char} :
    tagContent? text = some (content, after) ↔
      IsTag content ∧ text = writeTag content ++ after := by
  constructor
  · intro found
    unfold tagContent? at found
    split at found
    · rename_i first rest
      split at found
      · rename_i begins
        split at found
        · rename_i after' dropped
          simp only [Option.some.injEq, Prod.mk.injEq] at found
          obtain ⟨rfl, rfl⟩ := found
          have whole := List.takeWhile_append_dropWhile
            (p := fun c => c != '[' && c != ']') (l := rest)
          rw [dropped] at whole
          refine ⟨⟨by simpa using begins, ?_⟩, ?_⟩
          · intro c member
            rcases List.mem_cons.1 member with rfl | member
            · constructor <;> rintro rfl <;> exact absurd begins (by decide)
            · have kept := List.mem_takeWhile_imp member
              simpa using kept
          · simpa [writeTag] using whole.symm
        · cases found
      · cases found
    · cases found
  · rintro ⟨⟨begins, free⟩, rfl⟩
    cases content with
    | nil => cases begins
    | cons first rest =>
        have kept : ∀ c ∈ rest, (c != '[' && c != ']') = true := fun c member => by
          simpa using free c (List.mem_cons_of_mem _ member)
        have begins : beginsTag first = true := by simpa using begins
        have text : writeTag (first :: rest) ++ after = '[' :: first :: (rest ++ ']' :: after) := by
          simp [writeTag]
        rw [text]
        simp [tagContent?, begins, List.dropWhile_append_of_pos kept,
          List.takeWhile_append_of_pos kept]

/-- A text begins with a tag if one is written there, after any number of backslashes. -/
theorem tagAt?_eq_some_iff {text after : List Char} {piece : Piece} :
    tagAt? text = some (piece, after) ↔ ∃ count content, IsTag content ∧
      piece = .tag count content ∧ text = slashesOf count ++ (writeTag content ++ after) := by
  unfold tagAt?
  constructor
  · intro found
    obtain ⟨⟨content, rest⟩, tag, equal⟩ := Option.map_eq_some_iff.1 found
    simp only [Prod.mk.injEq] at equal
    obtain ⟨rfl, rfl⟩ := equal
    obtain ⟨isTag, dropped⟩ := tagContent?_eq_some_iff.1 tag
    refine ⟨_, content, isTag, rfl, ?_⟩
    have slashes : text.takeWhile (· == '\\') =
        slashesOf (text.takeWhile (· == '\\')).length :=
      List.eq_replicate_of_mem fun c member => by
        simpa using List.mem_takeWhile_imp member
    rw [← slashes, ← dropped]
    exact List.takeWhile_append_dropWhile.symm
  · rintro ⟨count, content, isTag, rfl, rfl⟩
    have slashes : ∀ c ∈ slashesOf count, (c == '\\') = true := fun c member => by
      rw [List.eq_of_mem_replicate member]
      rfl
    rw [List.dropWhile_append_of_pos slashes, List.takeWhile_append_of_pos slashes]
    have stops : writeTag content ++ after = '[' :: (content ++ ']' :: after) := by simp [writeTag]
    have ends : (writeTag content ++ after).dropWhile (· == '\\') = writeTag content ++ after := by
      rw [stops]
      rfl
    have none : (writeTag content ++ after).takeWhile (· == '\\') = [] := by
      rw [stops]
      rfl
    rw [ends, none, tagContent?_eq_some_iff.2 ⟨isTag, rfl⟩, List.append_nil, slashesOf,
      List.length_replicate]
    rfl

/-- A tag at the beginning of a text stays one, whatever comes behind the text. -/
theorem tagAt?_append {text after : List Char} {piece : Piece} (others : List Char)
    (found : tagAt? text = some (piece, after)) :
    tagAt? (text ++ others) = some (piece, after ++ others) := by
  obtain ⟨count, content, isTag, rfl, rfl⟩ := tagAt?_eq_some_iff.1 found
  exact tagAt?_eq_some_iff.2 ⟨count, content, isTag, rfl, by simp only [List.append_assoc]⟩

/-! ## No tag across an end -/

/-- The first bracket of the text is a closing one. -/
def ClosesFirst (text : List Char) : Prop :=
  ∃ before after, text = before ++ ']' :: after ∧ Bracketless before

theorem not_closesFirst_tag (count : Nat) (content rest : List Char) :
    ¬ ClosesFirst (slashesOf count ++ (writeTag content ++ rest)) := by
  rintro ⟨before, after, same, free⟩
  have first : (before ++ ']' :: after).find? (fun c => c == '[' || c == ']') = some ']' := by
    rw [List.find?_append, List.find?_eq_none.2 fun c member => by simpa using free c member]
    rfl
  rw [← same, List.find?_append, List.find?_eq_none.2 fun c member => by
    rw [List.eq_of_mem_replicate member]
    decide] at first
  cases first

theorem not_closesFirst_slashes (count : Nat) : ¬ ClosesFirst (slashesOf count) := by
  rintro ⟨before, after, same, -⟩
  have member : ']' ∈ slashesOf count := same ▸ List.mem_append_right before List.mem_cons_self
  cases List.eq_of_mem_replicate member

/-- Two texts that can be put together: backslashes at the end of the first do not meet a tag, and
no tag is begun in the first and ended in the second. -/
structure Apart (front back : List Char) : Prop where
  isOpen : Open front
  across : '[' ∉ front ∨ ¬ ClosesFirst back

theorem Apart.tail {c : Char} {front back : List Char} (apart : Apart (c :: front) back) :
    Apart front back :=
  ⟨apart.isOpen.tail, apart.across.imp_left fun none => fun member =>
    none (List.mem_cons_of_mem c member)⟩

theorem Apart.of_append {front middle back : List Char} (apart : Apart (front ++ middle) back) :
    Apart middle back := by
  induction front with
  | nil => exact apart
  | cons c rest inductionHypothesis => exact inductionHypothesis apart.tail

/-- A tag that is not there does not come to be when another text is put behind. -/
theorem tagAt?_append_eq_none {c : Char} {front back : List Char} (apart : Apart (c :: front) back)
    (none : tagAt? (c :: front) = none) : tagAt? (c :: front ++ back) = .none := by
  by_contra found
  obtain ⟨⟨piece, after⟩, found⟩ := Option.ne_none_iff_exists'.1 found
  obtain ⟨count, content, isTag, rfl, written⟩ := tagAt?_eq_some_iff.1 found
  -- A tag that ends within the first text would be found there.
  have inside : ∀ rest, c :: front ≠ slashesOf count ++ (writeTag content ++ rest) := by
    intro rest whole
    have here := tagAt?_eq_some_iff.2 ⟨count, content, isTag, rfl, whole⟩
    rw [none] at here
    cases here
  rcases List.append_eq_append_iff.1 written with ⟨more, slashes, -⟩ | ⟨inTag, whole, rest⟩
  · -- The first text would be backslashes only.
    have all := List.append_eq_replicate_iff.1 slashes.symm
    exact not_open_slashes (List.cons_ne_nil c front |> mt List.length_eq_zero_iff.1)
      (by rw [slashesOf, ← all.2.1]; exact apart.isOpen)
  · cases inTag with
    | nil =>
        rw [List.append_nil] at whole
        refine not_open_slashes ?_ (whole ▸ apart.isOpen)
        rintro rfl
        cases whole
    | cons bracket inTag =>
        have tag : '[' :: (content ++ ']' :: after) = bracket :: (inTag ++ back) := by
          simpa [writeTag] using rest
        obtain ⟨rfl, split⟩ := List.cons.inj tag
        have opens : '[' ∈ c :: front := whole ▸ List.mem_append_right _ List.mem_cons_self
        refine apart.across.elim (fun free => free opens) fun notFirst => ?_
        rcases List.append_eq_append_iff.1 split with ⟨closing, rfl, behind⟩ | ⟨left, rfl, behind⟩
        · cases closing with
          | nil => exact notFirst ⟨[], after, behind.symm, fun c member => nomatch member⟩
          | cons d closing =>
              obtain ⟨rfl, behind⟩ := List.cons.inj behind
              exact inside closing (by rw [whole]; simp [writeTag])
        · exact notFirst ⟨left, after, behind, fun c member =>
            isTag.free c (List.mem_append_right inTag member)⟩

/-! ## Pieces of joined texts -/

theorem pieces_nil : pieces [] = [] := by
  rw [pieces]
  rfl

theorem pieces_of_tag {text after : List Char} {piece : Piece}
    (found : tagAt? text = some (piece, after)) : pieces text = piece :: pieces after := by
  rw [pieces]
  split
  · rename_i piece' after' found'
    rw [found] at found'
    obtain ⟨rfl, rfl⟩ := Prod.mk.inj (Option.some.inj found')
    rfl
  · rename_i none
    rw [found] at none
    cases none

theorem pieces_of_char {c : Char} {rest : List Char} (none : tagAt? (c :: rest) = none) :
    pieces (c :: rest) = consText c (pieces rest) := by
  rw [pieces]
  split
  · rename_i piece' after' found
    rw [none] at found
    cases found
  · rfl

theorem pieces_tag {count : Nat} {content : List Char} (isTag : IsTag content) (rest : List Char) :
    pieces (slashesOf count ++ (writeTag content ++ rest)) = .tag count content :: pieces rest :=
  pieces_of_tag (tagAt?_eq_some_iff.2 ⟨count, content, isTag, rfl, rfl⟩)

/-- Pieces behind others. Where text meets text, they are one piece. -/
def joinPieces : List Piece → List Piece → List Piece
  | [], others => others
  | [.text content], others => content.foldr consText others
  | piece :: rest, others => piece :: joinPieces rest others

theorem joinPieces_consText (c : Char) (front back : List Piece) :
    joinPieces (consText c front) back = consText c (joinPieces front back) := by
  cases front with
  | nil => rfl
  | cons piece rest =>
      cases piece with
      | text content => cases rest <;> rfl
      | tag count content => rfl

/-- **The pieces of two texts put together**, if the texts are apart. -/
theorem pieces_append {front back : List Char} (apart : Apart front back) :
    pieces (front ++ back) = joinPieces (pieces front) (pieces back) := by
  -- The induction follows the pieces of the first text.
  induction size : front.length using Nat.strongRecOn generalizing front with
  | ind size inductionHypothesis =>
      subst size
      cases found : tagAt? front with
      | some tag =>
          obtain ⟨piece, after⟩ := tag
          obtain ⟨count, content, isTag, rfl, whole⟩ := tagAt?_eq_some_iff.1 found
          have rest : Apart after back := by
            rw [whole, ← List.append_assoc] at apart
            exact apart.of_append
          rw [pieces_of_tag (tagAt?_append back found), pieces_of_tag found,
            inductionHypothesis after.length (length_lt_of_tagAt? found) rest rfl]
          rfl
      | none =>
          cases front with
          | nil =>
              rw [pieces_nil]
              rfl
          | cons c rest =>
              have none : tagAt? (c :: (rest ++ back)) = none := tagAt?_append_eq_none apart found
              rw [pieces_of_char found, List.cons_append, pieces_of_char none,
                joinPieces_consText,
                inductionHypothesis rest.length (Nat.lt_succ_self _) apart.tail rfl]

/-! ## Tags -/

/-- The tags among some pieces: the backslashes before each, and what it holds. -/
def tagsOf (pieces : List Piece) : List (Nat × List Char) :=
  pieces.filterMap fun
    | .text _ => none
    | .tag count content => some (count, content)

def tags (text : List Char) : List (Nat × List Char) := tagsOf (pieces text)

theorem tagsOf_consText (c : Char) (pieces : List Piece) :
    tagsOf (consText c pieces) = tagsOf pieces := by
  cases pieces with
  | nil => rfl
  | cons piece rest => cases piece <;> rfl

theorem tagsOf_joinPieces (front back : List Piece) :
    tagsOf (joinPieces front back) = tagsOf front ++ tagsOf back := by
  fun_induction joinPieces front back with
  | case1 others => rfl
  | case2 content others =>
      induction content with
      | nil => rfl
      | cons c rest inductionHypothesis =>
          rw [List.foldr_cons, tagsOf_consText, inductionHypothesis]
          rfl
  | case3 piece rest others notLast inductionHypothesis =>
      cases piece with
      | text content => exact inductionHypothesis
      | tag count content => exact congrArg ((count, content) :: ·) inductionHypothesis

theorem tags_append {front back : List Char} (apart : Apart front back) :
    tags (front ++ back) = tags front ++ tags back := by
  unfold tags
  rw [pieces_append apart, tagsOf_joinPieces]

theorem tags_cons_of_none {c : Char} {rest : List Char} (none : tagAt? (c :: rest) = none) :
    tags (c :: rest) = tags rest := by
  unfold tags
  rw [pieces_of_char none, tagsOf_consText]

/-- A text without tags begins with none. -/
theorem tagAt?_of_untagged {text : List Char} (none : tags text = []) : tagAt? text = .none := by
  by_contra found
  obtain ⟨⟨piece, after⟩, found⟩ := Option.ne_none_iff_exists'.1 found
  obtain ⟨count, content, isTag, rfl, whole⟩ := tagAt?_eq_some_iff.1 found
  rw [tags, pieces_of_tag found] at none
  cases none

/-- A tag needs an opening bracket. -/
theorem tags_of_unopened {text : List Char} (unopened : '[' ∉ text) : tags text = [] := by
  induction text with
  | nil =>
      unfold tags
      rw [pieces_nil]
      rfl
  | cons c rest inductionHypothesis =>
      have none : tagAt? (c :: rest) = none := by
        by_contra found
        obtain ⟨⟨piece, after⟩, found⟩ := Option.ne_none_iff_exists'.1 found
        obtain ⟨count, content, isTag, rfl, whole⟩ := tagAt?_eq_some_iff.1 found
        exact unopened (whole ▸ List.mem_append_right _ List.mem_cons_self)
      rw [tags_cons_of_none none]
      exact inductionHypothesis fun member => unopened (List.mem_cons_of_mem c member)

theorem apart_tag {front : List Char} (isOpen : Open front) (count : Nat)
    (content rest : List Char) : Apart front (slashesOf count ++ (writeTag content ++ rest)) :=
  ⟨isOpen, Or.inr (not_closesFirst_tag count content rest)⟩

theorem tags_slashesOf (count : Nat) : tags (slashesOf count) = [] :=
  tags_of_unopened fun member => by cases List.eq_of_mem_replicate member

theorem tags_append_slashes {front : List Char} (isOpen : Open front) (count : Nat) :
    tags (front ++ slashesOf count) = tags front := by
  rw [tags_append ⟨isOpen, Or.inr (not_closesFirst_slashes count)⟩, tags_slashesOf,
    List.append_nil]

/-- A tag that is written behind a text is found there. If backslashes end the text, they are taken
as the tag's own. -/
theorem tags_append_tag (text : List Char) {content : List Char} (isTag : IsTag content)
    (rest : List Char) :
    ∃ count, tags (text ++ (writeTag content ++ rest)) =
      tags text ++ (count, content) :: tags rest := by
  obtain ⟨front, count, rfl, isOpen⟩ := exists_open text
  refine ⟨count, ?_⟩
  rw [List.append_assoc, tags_append (apart_tag isOpen count content rest),
    tags_append_slashes isOpen, tags, tags, pieces_tag isTag rest]
  rfl

/-! ## Escaping -/

/-- A text has no tags, or a first one. -/
theorem exists_first_tag (text : List Char) :
    tags text = [] ∨ ∃ front count content rest, Open front ∧ tags front = [] ∧ IsTag content ∧
      text = front ++ (slashesOf count ++ (writeTag content ++ rest)) := by
  induction text with
  | nil => exact Or.inl (tags_of_unopened List.not_mem_nil)
  | cons c rest inductionHypothesis =>
      cases found : tagAt? (c :: rest) with
      | some tag =>
          obtain ⟨piece, after⟩ := tag
          obtain ⟨count, content, isTag, rfl, whole⟩ := tagAt?_eq_some_iff.1 found
          exact Or.inr ⟨[], count, content, after, nofun, tags_of_unopened List.not_mem_nil, isTag,
            whole⟩
      | none =>
          rcases inductionHypothesis with none | ⟨front, count, content, rest, isOpen, none, isTag,
            rfl⟩
          · exact Or.inl ((tags_cons_of_none found).trans none)
          · refine Or.inr ⟨c :: front, count, content, rest, ?_, ?_, isTag, rfl⟩
            · cases front with
              | nil =>
                  -- A backslash here would be one of the tag's own.
                  intro backslash
                  obtain rfl := Option.some.inj backslash
                  have first := tagAt?_eq_some_iff.2 ⟨count + 1, content, isTag, rfl,
                    (rfl : '\\' :: ([] ++ (slashesOf count ++ (writeTag content ++ rest))) =
                      slashesOf (count + 1) ++ (writeTag content ++ rest))⟩
                  rw [found] at first
                  cases first
              | cons d others => simpa [Open] using isOpen
            · have noTag : tagAt? (c :: front) = .none := by
                by_contra tag
                obtain ⟨⟨piece, after⟩, tag⟩ := Option.ne_none_iff_exists'.1 tag
                have first := tagAt?_append (slashesOf count ++ (writeTag content ++ rest)) tag
                rw [List.cons_append, found] at first
                cases first
              rw [tags_cons_of_none noTag, none]

/-- A text with backslashes for all its tags, as many as make them plain. -/
def escapeTags (text : List Char) : List Char := (pieces text).flatMap Piece.escape

theorem escape_consText (c : Char) (pieces : List Piece) :
    (consText c pieces).flatMap Piece.escape = c :: pieces.flatMap Piece.escape := by
  cases pieces with
  | nil => rfl
  | cons piece rest => cases piece <;> rfl

theorem escape_joinPieces (front back : List Piece) :
    (joinPieces front back).flatMap Piece.escape =
      front.flatMap Piece.escape ++ back.flatMap Piece.escape := by
  fun_induction joinPieces front back with
  | case1 others => rfl
  | case2 content others =>
      rw [List.flatMap_singleton, Piece.escape]
      induction content with
      | nil => rfl
      | cons c rest inductionHypothesis =>
          rw [List.foldr_cons, escape_consText, inductionHypothesis]
          rfl
  | case3 piece rest others notLast inductionHypothesis =>
      rw [List.flatMap_cons, List.flatMap_cons, inductionHypothesis, List.append_assoc]

/-- Where there are no tags, nothing is escaped. -/
theorem escapeTags_of_untagged {text : List Char} (none : tags text = []) :
    escapeTags text = text := by
  induction text with
  | nil =>
      unfold escapeTags
      rw [pieces_nil]
      rfl
  | cons c rest inductionHypothesis =>
      have noTag := tagAt?_of_untagged none
      rw [tags_cons_of_none noTag] at none
      unfold escapeTags at inductionHypothesis ⊢
      rw [pieces_of_char noTag, escape_consText, inductionHypothesis none]

/-- The first tag of a text gets its backslashes, and what is behind it is escaped by itself. -/
theorem escapeTags_tag {front content : List Char} (isOpen : Open front) (none : tags front = [])
    (isTag : IsTag content) (count : Nat) (rest : List Char) :
    escapeTags (front ++ (slashesOf count ++ (writeTag content ++ rest))) =
      front ++ (slashesOf (2 * count + 1) ++ (writeTag content ++ escapeTags rest)) := by
  rw [escapeTags, pieces_append (apart_tag isOpen count content rest), escape_joinPieces,
    pieces_tag isTag, ← escapeTags, escapeTags_of_untagged none, List.flatMap_cons, Piece.escape,
    List.append_assoc]
  rfl

/-- What becomes of the backslashes before a tag that is escaped. -/
def plain (tag : Nat × List Char) : Nat × List Char := (2 * tag.1 + 1, tag.2)

/-- **Escaping leaves the tags of a text where they are and makes them plain.** -/
theorem tags_escapeTags (text : List Char) : tags (escapeTags text) = (tags text).map plain := by
  -- The induction is on what is left behind the first tag.
  induction size : text.length using Nat.strongRecOn generalizing text with
  | ind size inductionHypothesis =>
      subst size
      rcases exists_first_tag text with none | ⟨front, count, content, rest, isOpen, none, isTag,
        rfl⟩
      · rw [escapeTags_of_untagged none, none]
        rfl
      · have shorter : rest.length <
            (front ++ (slashesOf count ++ (writeTag content ++ rest))).length := by
          simp only [writeTag, List.length_append, List.length_cons]
          omega
        rw [escapeTags_tag isOpen none isTag, tags_append (apart_tag isOpen _ content _),
          tags_append (apart_tag isOpen count content rest), none, List.nil_append, List.nil_append,
          tags, tags, pieces_tag isTag, pieces_tag isTag]
        exact congrArg ((2 * count + 1, content) :: ·)
          (inductionHypothesis rest.length shorter rest rfl)

/-- All tags in an escaped text are plain. -/
theorem tags_escape (text : List Char) : tags (escape text) = (tags text).map plain := by
  rw [← tags_escapeTags]
  change tags (doubleLastSlash (escapeTags text)) = tags (escapeTags text)
  obtain ⟨front, count, same, isOpen⟩ := exists_open (escapeTags text)
  unfold doubleLastSlash
  split
  · rfl
  · have more : slashesOf count ++ ['\\'] = slashesOf (count + 1) := List.replicate_succ'.symm
    rw [same, List.append_assoc, more]
    exact (tags_append_slashes isOpen (count + 1)).trans (tags_append_slashes isOpen count).symm
  · rfl

end ModuleGlue.Console
