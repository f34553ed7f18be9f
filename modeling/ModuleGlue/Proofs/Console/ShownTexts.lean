import Mathlib.Data.List.Infix
import Mathlib.Data.List.TakeWhile
import ModuleGlue.Console.Markup
import ModuleGlue.Text.CharClass

/-!
Contract: which texts are shown as they are.

Text between tags loses the backslashes before its opening brackets, and names between colons become
pictures. Where nothing of this happens, a text is shown as it is; where it does, the first character
that becomes another one is one that can be seen, so that no other text makes up for it.

Main statements: `traces_showText` (what is shown is the text, or parts from it visibly) and
`showText_eq_iff` (it is the text exactly if no opening bracket has a backslash before it, and no name
of a picture stands between colons).

Owns: what showing text changes.

Does not own: tags, and what is escaped.
-/

namespace ModuleGlue.Console

open ModuleGlue.Text (isBlank)

/-! ## Texts that part visibly -/

def isSeen (c : Char) : Bool := !isHidden c

/-- What is shown parts from the text at a character that can be seen. -/
inductive Parts (shown text : List Char) : Prop where
  | mk {front more rest : List Char} {c d : Char} (shownFrom : shown = front ++ c :: more)
      (textFrom : text = front ++ d :: rest) (apart : c ≠ d) (seen : isSeen c = true)

/-- What is shown is the text, or parts from it. -/
def Traces (shown text : List Char) : Prop := shown = text ∨ Parts shown text

section
variable {shown text shown' text' : List Char}

theorem Parts.append (parts : Parts shown text) (more more' : List Char) :
    Parts (shown ++ more) (text ++ more') := by
  obtain ⟨rfl, rfl, apart, seen⟩ := parts
  rw [List.append_assoc, List.append_assoc]
  exact ⟨rfl, rfl, apart, seen⟩

theorem Parts.behind (parts : Parts shown text) (front : List Char) :
    Parts (front ++ shown) (front ++ text) := by
  obtain ⟨rfl, rfl, apart, seen⟩ := parts
  rw [← List.append_assoc, ← List.append_assoc]
  exact ⟨rfl, rfl, apart, seen⟩

theorem Parts.ne (parts : Parts shown text) : shown ≠ text := by
  obtain ⟨rfl, rfl, apart, -⟩ := parts
  exact fun same => apart (List.cons.inj (List.append_cancel_left same)).1

/-- The texts are apart also if only the characters that can be seen are looked at. -/
theorem Parts.filter_ne (parts : Parts shown text) : shown.filter isSeen ≠ text := by
  intro whole
  obtain ⟨rfl, rfl, apart, seen⟩ := parts
  have seenFront : ∀ c ∈ _, isSeen c = true := fun c member =>
    (List.mem_filter.1 (whole ▸ List.mem_append_left _ member)).2
  rw [List.filter_append, List.filter_eq_self.2 seenFront, List.filter_cons_of_pos seen] at whole
  exact apart (List.cons.inj (List.append_cancel_left whole)).1

theorem Traces.refl (text : List Char) : Traces text text := Or.inl rfl

theorem Traces.append (traces : Traces shown text) (traces' : Traces shown' text') :
    Traces (shown ++ shown') (text ++ text') := by
  rcases traces with rfl | parts
  · rcases traces' with rfl | parts
    · exact .refl _
    · exact Or.inr (parts.behind _)
  · exact Or.inr (parts.append _ _)

/-- Once a text has parted, nothing that is shown behind makes up for it. -/
theorem Traces.append_eq_iff (traces : Traces shown text) :
    shown ++ shown' = text ++ text' ↔ shown = text ∧ shown' = text' := by
  constructor
  · intro whole
    rcases traces with rfl | parts
    · exact ⟨rfl, List.append_cancel_left whole⟩
    · exact absurd whole (parts.append _ _).ne
  · rintro ⟨rfl, rfl⟩
    rfl

/-- The same holds if only the characters that can be seen are looked at. -/
theorem Traces.filter_append_eq_iff (traces : Traces shown text) :
    (shown ++ shown').filter isSeen = text ++ text' ↔
      shown = text ∧ (∀ c ∈ text, isSeen c = true) ∧ shown'.filter isSeen = text' := by
  constructor
  · intro whole
    rcases traces with rfl | parts
    · have seen : ∀ c ∈ shown, isSeen c = true := fun c member =>
        (List.mem_filter.1 (whole ▸ List.mem_append_left _ member)).2
      rw [List.filter_append, List.filter_eq_self.2 seen] at whole
      exact ⟨rfl, seen, List.append_cancel_left whole⟩
    · exact absurd whole (parts.append _ _).filter_ne
  · rintro ⟨rfl, seen, rfl⟩
    rw [List.filter_append, List.filter_eq_self.2 seen]

end

/-! ## Brackets -/

theorem unescapeBrackets_cons {c : Char} {rest : List Char}
    (noEscape : c = '\\' → rest.head? ≠ some '[') :
    unescapeBrackets (c :: rest) = c :: unescapeBrackets rest := by
  rw [unescapeBrackets]
  rintro others rfl rfl
  exact noEscape rfl rfl

/-- A text keeps its brackets, or has one with a backslash before it, which is lost. -/
theorem unescapeBrackets_cases (text : List Char) :
    ¬ ['\\', '['] <:+: text ∧ unescapeBrackets text = text ∨
      ['\\', '['] <:+: text ∧ ∃ front more rest,
        unescapeBrackets text = front ++ '[' :: more ∧ text = front ++ '\\' :: rest := by
  fun_induction unescapeBrackets text with
  | case1 rest => exact Or.inr ⟨⟨[], rest, rfl⟩, [], _, _, rfl, rfl⟩
  | case2 c rest noEscape inductionHypothesis =>
      rcases inductionHypothesis with ⟨free, same⟩ | ⟨escaped, front, more, others, shown, same⟩
      · refine Or.inl ⟨fun inside => ?_, congrArg (c :: ·) same⟩
        rcases List.infix_cons_iff.1 inside with first | later
        · obtain ⟨others, whole⟩ := first
          obtain ⟨rfl, rfl⟩ := List.cons.inj whole
          exact noEscape others rfl rfl
        · exact free later
      · exact Or.inr ⟨escaped.trans (List.suffix_cons c rest).isInfix, c :: front, more, others,
          congrArg (c :: ·) shown, congrArg (c :: ·) same⟩
  | case3 => exact Or.inl ⟨by simp, rfl⟩

/-! ## Pictures -/

/-- May the character stand in the name of a picture? -/
def inName (c : Char) : Bool := c != ':' && !isBlank c

/-- The names between colons. A colon that ends a name begins no other one. -/
def colonNames (text : List Char) : List (List Char) :=
  match text with
  | [] => []
  | c :: rest =>
    if c = ':' then
      match _ended : rest.dropWhile inName with
      | ':' :: after => rest.takeWhile inName :: colonNames after
      | _ => colonNames rest
    else colonNames rest
termination_by text.length
decreasing_by
  · have shorter := length_dropWhile_le inName rest
    rw [_ended] at shorter
    simp only [List.length_cons] at shorter ⊢
    omega
  · simp
  · simp

/-- The text begins with a character that can be seen and is no colon. -/
def StartsVisibly (text : List Char) : Prop :=
  ∃ c rest, text = c :: rest ∧ c ≠ ':' ∧ isSeen c = true

/-- The bytes of a colon and of the characters that cannot be seen. -/
def colonOrHidden : List UInt8 := [58, 7, 8, 11, 12, 13]

/-- The same for texts in memory, by their first byte. -/
def startsVisibly (text : String) : Bool :=
  text.toByteArray.data.toList.head?.any fun byte => !colonOrHidden.contains byte

theorem startsVisibly_of_string {text : String} (starts : startsVisibly text = true) :
    StartsVisibly text.toList := by
  have bytes : text.toByteArray.data.toList = text.toList.flatMap String.utf8EncodeChar := by
    rw [← String.ofList_toList (s := text), String.toByteArray_ofList, String.toList_ofList]
    exact List.toList_data_toByteArray
  unfold startsVisibly at starts
  rw [bytes] at starts
  cases letters : text.toList with
  | nil =>
      rw [letters] at starts
      cases starts
  | cons c rest =>
      rw [letters, List.flatMap_cons] at starts
      have free : ∀ other ∈ [':', '\x07', '\x08', '\x0B', '\x0C', '\x0D'], c ≠ other := by
        rintro other member rfl
        simp only [List.mem_cons, List.not_mem_nil, or_false] at member
        rcases member with rfl | rfl | rfl | rfl | rfl | rfl <;> cases starts
      refine ⟨c, rest, rfl, free ':' (by decide), ?_⟩
      simp only [isSeen, isHidden, Bool.not_eq_true', Bool.or_eq_false_iff, beq_eq_false_iff_ne]
      exact ⟨⟨⟨⟨free _ (by decide), free _ (by decide)⟩, free _ (by decide)⟩, free _ (by decide)⟩,
        free _ (by decide)⟩

/-- **All pictures can be seen**, and none of them begins with a colon. -/
theorem startsVisibly_picturesOf (key : Char) :
    (picturesOf key).all (fun entry => startsVisibly entry.2) = true := by
  unfold picturesOf
  split <;> decide +kernel

theorem startsVisibly_picture {name shown : List Char} (found : picture? name = some shown) :
    StartsVisibly shown := by
  unfold picture? at found
  obtain ⟨entry, listed, rfl⟩ := Option.map_eq_some_iff.1 found
  obtain ⟨before, behind, table, -⟩ := List.lookup_eq_some_iff.1 listed
  have each := List.all_eq_true.1 (startsVisibly_picturesOf _) (_, entry) (by
    rw [table]
    exact List.mem_append_right _ List.mem_cons_self)
  obtain ⟨c, rest, letters, noColon, seen⟩ := startsVisibly_of_string each
  exact ⟨c, _, by rw [letters, List.cons_append], noColon, seen⟩

section
variable {rest name after : List Char} {c : Char}

theorem showPictures_char (noColon : c ≠ ':') :
    showPictures (c :: rest) = c :: showPictures rest := by
  rw [showPictures, if_neg noColon]

/-- A colon that begins no name is shown. -/
theorem showPictures_lone (lone : (rest.dropWhile inName).head? ≠ some ':') :
    showPictures (':' :: rest) = ':' :: showPictures rest := by
  rw [showPictures, if_pos rfl]
  dsimp only
  split
  · rename_i after ended
    exact absurd (congrArg List.head? ended) lone
  · rfl

/-- A name between colons is shown as its picture, or with its colons if it has none. -/
theorem showPictures_pair (named : ∀ d ∈ name, inName d = true) :
    showPictures (':' :: (name ++ ':' :: after)) =
      (picture? name).getD (':' :: (name ++ [':'])) ++ showPictures after := by
  have stop : inName ':' = false := by decide
  have ended : (name ++ ':' :: after).dropWhile inName = ':' :: after := by
    rw [List.dropWhile_append_of_pos named, List.dropWhile_cons_of_neg (by simp [stop])]
  have taken : (name ++ ':' :: after).takeWhile inName = name := by
    rw [List.takeWhile_append_of_pos named, List.takeWhile_cons_of_neg (by simp [stop]),
      List.append_nil]
  rw [showPictures, if_pos rfl]
  dsimp only
  split
  · rename_i after' ended'
    obtain rfl := (List.cons.inj (ended.symm.trans ended')).2
    exact congrArg (fun name => (picture? name).getD (':' :: name ++ [':']) ++ showPictures after) taken
  · rename_i other
    exact absurd ended (other after)

end

/-- A text keeps its colons, or a name between them is that of a picture, which is shown instead. -/
theorem showPictures_cases (text : List Char) :
    (∀ name ∈ colonNames text, picture? name = none) ∧ showPictures text = text ∨
      (∃ name ∈ colonNames text, picture? name ≠ none) ∧ ∃ front more rest c,
        showPictures text = front ++ c :: more ∧ text = front ++ ':' :: rest ∧ c ≠ ':' ∧
          isSeen c = true := by
  fun_induction colonNames text with
  | case1 => exact Or.inl ⟨nofun, by rw [showPictures]⟩
  | case2 rest after ended inductionHypothesis =>
      have named : ∀ d ∈ rest.takeWhile inName, inName d = true := fun d => List.mem_takeWhile_imp
      have whole : rest = rest.takeWhile inName ++ ':' :: after := by
        rw [← ended, List.takeWhile_append_dropWhile]
      generalize rest.takeWhile inName = name at named whole ⊢
      subst whole
      rw [showPictures_pair named]
      cases found : picture? name with
      | some shown =>
          obtain ⟨c, more, rfl, noColon, seen⟩ := startsVisibly_picture found
          exact Or.inr ⟨⟨name, List.mem_cons_self, by simp [found]⟩, [], _, _, c, rfl, rfl, noColon,
            seen⟩
      | none =>
          rw [Option.getD_none]
          rcases inductionHypothesis with ⟨none, same⟩ | ⟨⟨other, member, picture⟩, front, more, rest,
            c, shown, split, noColon, seen⟩
          · refine Or.inl ⟨fun other member => ?_, by simp [same]⟩
            rcases List.mem_cons.1 member with rfl | later
            · exact found
            · exact none other later
          · exact Or.inr ⟨⟨other, List.mem_cons_of_mem _ member, picture⟩,
              ':' :: (name ++ ':' :: front), more, rest, c, by simp [shown], by simp [split],
              noColon, seen⟩
  | case3 rest lone inductionHypothesis =>
      have noName : (rest.dropWhile inName).head? ≠ some ':' := by
        intro first
        obtain ⟨after, ended⟩ := List.head?_eq_some_iff.1 first
        exact lone after ended
      rw [showPictures_lone noName]
      rcases inductionHypothesis with ⟨none, same⟩ | ⟨pictured, front, more, others, c, shown, split,
        noColon, seen⟩
      · exact Or.inl ⟨none, congrArg (':' :: ·) same⟩
      · exact Or.inr ⟨pictured, ':' :: front, more, others, c, congrArg (':' :: ·) shown,
          congrArg (':' :: ·) split, noColon, seen⟩
  | case4 c rest noColon inductionHypothesis =>
      rw [showPictures_char noColon]
      rcases inductionHypothesis with ⟨none, same⟩ | ⟨pictured, front, more, others, d, shown, split,
        noColon', seen⟩
      · exact Or.inl ⟨none, congrArg (c :: ·) same⟩
      · exact Or.inr ⟨pictured, c :: front, more, others, d, congrArg (c :: ·) shown,
          congrArg (c :: ·) split, noColon', seen⟩

/-! ## Text between tags -/

/-- Nothing changes when the text is shown: no opening bracket has a backslash before it, and no name
between colons is that of a picture. -/
structure Inert (text : List Char) : Prop where
  unescaped : ¬ ['\\', '['] <:+: text
  unpictured : ∀ name ∈ colonNames text, picture? name = none

instance (text : List Char) : Decidable (Inert text) :=
  decidable_of_iff (¬ ['\\', '['] <:+: text ∧ ∀ name ∈ colonNames text, picture? name = none)
    ⟨fun ⟨unescaped, unpictured⟩ => ⟨unescaped, unpictured⟩,
      fun inert => ⟨inert.unescaped, inert.unpictured⟩⟩

/-- A text is inert and shown as it is, or it is not and what is shown parts from it. -/
theorem showText_cases (text : List Char) :
    Inert text ∧ showText text = text ∨ ¬ Inert text ∧ Parts (showText text) text := by
  unfold showText
  rcases unescapeBrackets_cases text with ⟨unescaped, same⟩ | ⟨escaped, front, more, rest, plain, whole⟩
  · rw [same]
    rcases showPictures_cases text with ⟨none, shown⟩ | ⟨⟨name, member, picture⟩, front, more, rest,
      c, shown, split, noColon, seen⟩
    · exact Or.inl ⟨⟨unescaped, none⟩, shown⟩
    · exact Or.inr ⟨fun inert => picture (inert.unpictured name member),
        ⟨shown, split, noColon, seen⟩⟩
  · refine Or.inr ⟨fun inert => inert.unescaped escaped, ?_⟩
    rcases showPictures_cases (unescapeBrackets text) with ⟨-, shown⟩ | ⟨-, front', more', rest', c,
      shown, split, noColon, seen⟩
    · rw [shown]
      exact ⟨plain, whole, by decide, rfl⟩
    · -- What comes first, the bracket or the picture, is where the texts part.
      rw [plain] at split
      rcases List.append_eq_append_iff.1 split with ⟨between, rfl, behind⟩ | ⟨between, rfl, behind⟩
      · cases between with
        | nil => cases (List.cons.inj behind).1
        | cons bracket between =>
            obtain ⟨rfl, -⟩ := List.cons.inj behind
            rw [List.append_assoc, List.cons_append] at shown
            exact ⟨shown, whole, by decide, rfl⟩
      · cases between with
        | nil => cases (List.cons.inj behind).1
        | cons colon between =>
            obtain ⟨rfl, -⟩ := List.cons.inj behind
            rw [List.append_assoc, List.cons_append] at whole
            exact ⟨shown, whole, noColon, seen⟩

/-- **What is shown is the text, or parts from it visibly.** -/
theorem traces_showText (text : List Char) : Traces (showText text) text :=
  (showText_cases text).imp And.right And.right

/-- **A text is shown as it is exactly if it is inert.** -/
theorem showText_eq_iff {text : List Char} : showText text = text ↔ Inert text := by
  rcases showText_cases text with ⟨inert, same⟩ | ⟨not, parts⟩
  · exact ⟨fun _ => inert, fun _ => same⟩
  · exact ⟨fun same => absurd same parts.ne, fun inert => absurd inert not⟩

theorem showText_nil : showText [] = [] := by
  unfold showText
  rw [unescapeBrackets, showPictures]

/-! ## Text with more behind or before it -/

theorem colonless_slashesOf (count : Nat) : ':' ∉ slashesOf count :=
  fun member => nomatch List.eq_of_mem_replicate member

theorem unescapeBrackets_slashes (text : List Char) (count : Nat) :
    unescapeBrackets (text ++ slashesOf count) = unescapeBrackets text ++ slashesOf count := by
  fun_induction unescapeBrackets text with
  | case1 rest inductionHypothesis =>
      rw [List.cons_append, List.cons_append, unescapeBrackets, inductionHypothesis]
      rfl
  | case2 c rest noEscape inductionHypothesis =>
      rw [List.cons_append, unescapeBrackets_cons, inductionHypothesis]
      · rfl
      · intro slash first
        cases rest with
        | nil => cases List.eq_of_mem_replicate (List.mem_of_mem_head? first)
        | cons bracket rest =>
            obtain rfl := Option.some.inj first
            exact noEscape rest slash rfl
  | case3 =>
      induction count with
      | zero => rfl
      | succ count inductionHypothesis =>
          have slash : slashesOf (count + 1) = '\\' :: slashesOf count := rfl
          rw [List.nil_append] at inductionHypothesis ⊢
          rw [slash, unescapeBrackets_cons, inductionHypothesis]
          exact fun _ first => nomatch List.eq_of_mem_replicate (List.mem_of_mem_head? first)

theorem showPictures_colonless {text : List Char} (colonless : ':' ∉ text) :
    showPictures text = text := by
  induction text with
  | nil => rw [showPictures]
  | cons c rest inductionHypothesis =>
      rw [List.mem_cons, not_or] at colonless
      rw [showPictures_char (Ne.symm colonless.1), inductionHypothesis colonless.2]

/-- Text without colons changes nothing before it. -/
theorem showPictures_append (text : List Char) {behind : List Char} (colonless : ':' ∉ behind) :
    showPictures (text ++ behind) = showPictures text ++ behind := by
  fun_induction colonNames text with
  | case1 => rw [List.nil_append, showPictures_colonless colonless, showPictures, List.nil_append]
  | case2 rest after ended inductionHypothesis =>
      have named : ∀ d ∈ rest.takeWhile inName, inName d = true := fun d => List.mem_takeWhile_imp
      have whole : rest = rest.takeWhile inName ++ ':' :: after := by
        rw [← ended, List.takeWhile_append_dropWhile]
      generalize rest.takeWhile inName = name at named whole
      subst whole
      rw [List.cons_append, List.append_assoc, List.cons_append, showPictures_pair named,
        showPictures_pair named, inductionHypothesis, List.append_assoc]
  | case3 rest lone inductionHypothesis =>
      have noName : (rest.dropWhile inName).head? ≠ some ':' := by
        intro first
        obtain ⟨after, ended⟩ := List.head?_eq_some_iff.1 first
        exact lone after ended
      have noName' : ((rest ++ behind).dropWhile inName).head? ≠ some ':' := by
        rw [List.dropWhile_append]
        split
        · exact fun first => colonless
            ((List.dropWhile_suffix inName).subset (List.mem_of_mem_head? first))
        · rename_i some
          cases left : rest.dropWhile inName with
          | nil => simp [left] at some
          | cons d others => rwa [left] at noName
      rw [List.cons_append, showPictures_lone noName', showPictures_lone noName, inductionHypothesis]
      rfl
  | case4 c rest noColon inductionHypothesis =>
      rw [List.cons_append, showPictures_char noColon, showPictures_char noColon,
        inductionHypothesis]
      rfl

theorem showText_slashes (text : List Char) (count : Nat) :
    showText (text ++ slashesOf count) = showText text ++ slashesOf count := by
  unfold showText
  rw [unescapeBrackets_slashes, showPictures_append _ (colonless_slashesOf count)]

/-- A character that is neither a colon nor a backslash changes nothing behind it. -/
theorem showText_cons {c : Char} (noColon : c ≠ ':') (noSlash : c ≠ '\\') (text : List Char) :
    showText (c :: text) = c :: showText text := by
  unfold showText
  rw [unescapeBrackets_cons fun slash => absurd slash noSlash, showPictures_char noColon]

/-- A colon in front of a blank begins no name. -/
theorem showText_colonBlank {c : Char} (blank : isBlank c = true) (text : List Char) :
    showText (':' :: c :: text) = ':' :: c :: showText text := by
  have noColon : c ≠ ':' := by
    rintro rfl
    revert blank
    decide
  have noSlash : c ≠ '\\' := by
    rintro rfl
    revert blank
    decide
  have stops : inName c = false := by
    unfold inName
    rw [blank, Bool.not_true, Bool.and_false]
  have lone : ((c :: unescapeBrackets text).dropWhile inName).head? ≠ some ':' := by
    rw [List.dropWhile_cons_of_neg (by simp [stops])]
    exact fun first => noColon (Option.some.inj first)
  have colon : unescapeBrackets (':' :: c :: text) = ':' :: c :: unescapeBrackets text := by
    rw [unescapeBrackets_cons fun slash => absurd slash (by decide),
      unescapeBrackets_cons fun slash => absurd slash noSlash]
  unfold showText
  rw [colon, showPictures_lone lone, showPictures_char noColon]

end ModuleGlue.Console
