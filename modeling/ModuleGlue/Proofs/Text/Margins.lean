import Mathlib.Data.List.TakeWhile
import ModuleGlue.Text.Margin

/-!
Contract: lines and their margin.

Main statements: `dropMargin_eq` (dropping the margin takes the same width off each line with
code), `splitLines_trimmed` (lines between others stay one by one), `trimmed_indented` (a margin in
front of lines without one is all that is lost).

Owns: lines of texts that are put together, and the width of the margin.
-/

namespace ModuleGlue.Text

/-! ## Lines -/

theorem splitLines_ne_nil (text : List Char) : splitLines text ≠ [] := by
  induction text with
  | nil => simp [splitLines]
  | cons c rest inductionHypothesis =>
      unfold splitLines
      cases lines : splitLines rest with
      | nil => exact absurd lines inductionHypothesis
      | cons first others =>
          by_cases feed : c = '\n'
          · simp [feed]
          · simp [feed]

theorem splitLines_feed (rest : List Char) : splitLines ('\n' :: rest) = [] :: splitLines rest := by
  conv =>
    lhs
    unfold splitLines
  cases lines : splitLines rest with
  | nil => exact absurd lines (splitLines_ne_nil rest)
  | cons first others => rfl

theorem splitLines_cons {c : Char} (noFeed : c ≠ '\n') {rest first : List Char}
    {others : List (List Char)} (lines : splitLines rest = first :: others) :
    splitLines (c :: rest) = (c :: first) :: others := by
  conv =>
    lhs
    unfold splitLines
  rw [lines]
  exact if_neg noFeed

/-- The lines of two texts with a line feed between them. -/
theorem splitLines_append (first second : List Char) :
    splitLines (first ++ '\n' :: second) = splitLines first ++ splitLines second := by
  induction first with
  | nil => exact splitLines_feed second
  | cons c rest inductionHypothesis =>
      by_cases feed : c = '\n'
      · rw [feed, List.cons_append, splitLines_feed, splitLines_feed, inductionHypothesis]
        rfl
      · cases lines : splitLines rest with
        | nil => exact absurd lines (splitLines_ne_nil rest)
        | cons line others =>
            rw [lines] at inductionHypothesis
            rw [List.cons_append, splitLines_cons feed inductionHypothesis,
              splitLines_cons feed lines]
            rfl

theorem splitLines_of_line {line : List Char} (noFeed : '\n' ∉ line) : splitLines line = [line] := by
  induction line with
  | nil => rfl
  | cons c rest inductionHypothesis =>
      have apart : c ≠ '\n' := fun same => noFeed (same ▸ List.mem_cons_self)
      exact splitLines_cons apart (inductionHypothesis fun member =>
        noFeed (List.mem_cons_of_mem _ member))

theorem joinLines_singleton (line : List Char) : joinLines [line] = line := by
  simp [joinLines]

theorem joinLines_append {first second : List (List Char)} (lines : first ≠ [])
    (others : second ≠ []) :
    joinLines (first ++ second) = joinLines first ++ '\n' :: joinLines second := by
  induction first with
  | nil => exact absurd rfl lines
  | cons line rest inductionHypothesis =>
      unfold joinLines at inductionHypothesis ⊢
      cases rest with
      | nil =>
          cases second with
          | nil => exact absurd rfl others
          | cons next more => simp
      | cons next more =>
          have joined := inductionHypothesis (List.cons_ne_nil next more)
          simp only [List.cons_append] at joined ⊢
          rw [List.intercalate_cons_cons, joined, List.intercalate_cons_cons]
          simp

theorem joinLines_cons {line : List Char} {others : List (List Char)} (more : others ≠ []) :
    joinLines (line :: others) = line ++ '\n' :: joinLines others := by
  have joined := joinLines_append (List.cons_ne_nil line []) more
  unfold joinLines at joined ⊢
  simpa using joined

/-- Lines with a line feed behind each. -/
theorem joinLines_feed {lines : List (List Char)} (some : lines ≠ []) :
    joinLines lines ++ ['\n'] = lines.flatMap (· ++ ['\n']) := by
  induction lines with
  | nil => exact absurd rfl some
  | cons line others inductionHypothesis =>
      by_cases more : others = []
      · subst more
        simp [joinLines]
      · rw [joinLines_cons more, List.append_assoc, List.cons_append, inductionHypothesis more,
          List.flatMap_cons]
        simp

/-- **Lines without line feeds are the lines of their text.** -/
theorem splitLines_joinLines {lines : List (List Char)} (some : lines ≠ [])
    (noFeeds : ∀ line ∈ lines, '\n' ∉ line) : splitLines (joinLines lines) = lines := by
  induction lines with
  | nil => exact absurd rfl some
  | cons line others inductionHypothesis =>
      have noFeed := noFeeds line List.mem_cons_self
      by_cases more : others = []
      · subst more
        rw [joinLines_singleton, splitLines_of_line noFeed]
      · rw [joinLines_cons more, splitLines_append, splitLines_of_line noFeed,
          inductionHypothesis more fun other member => noFeeds other (List.mem_cons_of_mem _ member)]
        rfl

/-- What stands in a line is no line feed, and all else stands in a line. -/
theorem mem_splitLines (text : List Char) :
    (∀ line ∈ splitLines text, '\n' ∉ line) ∧
      ∀ c ∈ text, c ≠ '\n' → ∃ line ∈ splitLines text, c ∈ line := by
  induction text with
  | nil => simp [splitLines]
  | cons d rest inductionHypothesis =>
      obtain ⟨noFeeds, members⟩ := inductionHypothesis
      by_cases feed : d = '\n'
      · subst feed
        rw [splitLines_feed]
        constructor
        · simpa using noFeeds
        · intro c member noFeed
          have behind : c ∈ rest := by simpa [noFeed] using member
          obtain ⟨line, isLine, stands⟩ := members c behind noFeed
          exact ⟨line, List.mem_cons_of_mem _ isLine, stands⟩
      · cases lines : splitLines rest with
        | nil => exact absurd lines (splitLines_ne_nil rest)
        | cons first others =>
            rw [lines] at noFeeds members
            rw [splitLines_cons feed lines]
            constructor
            · simpa [Ne.symm feed] using noFeeds
            · intro c member noFeed
              rcases List.mem_cons.1 member with rfl | behind
              · exact ⟨_, List.mem_cons_self, List.mem_cons_self⟩
              · obtain ⟨line, isLine, stands⟩ := members c behind noFeed
                rcases List.mem_cons.1 isLine with rfl | other
                · exact ⟨_, List.mem_cons_self, List.mem_cons_of_mem _ stands⟩
                · exact ⟨line, List.mem_cons_of_mem _ other, stands⟩

/-! ## The margin -/

/-- A line of nothing but spaces and tabs is emptied. -/
def emptied (line : List Char) : List Char := if line.all isIndentation then [] else line

def marginWidth (lines : List (List Char)) : Nat :=
  (commonPrefixOf (((lines.map emptied).filter (!·.isEmpty)).map
    fun line => line.takeWhile isIndentation)).length

/-- A line without so much of its indentation; a line of nothing else is emptied. -/
def undented (width : Nat) (line : List Char) : List Char :=
  if line.all isIndentation then [] else line.drop width

theorem commonPrefix_isPrefix (first second : List Char) :
    commonPrefix first second <+: first ∧ commonPrefix first second <+: second := by
  induction first generalizing second with
  | nil => simp [commonPrefix]
  | cons c rest inductionHypothesis =>
      cases second with
      | nil => simp [commonPrefix]
      | cons d others =>
          unfold commonPrefix
          by_cases same : c = d
          · obtain ⟨left, right⟩ := inductionHypothesis others
            rw [if_pos same, ← same]
            exact ⟨(List.prefix_cons_inj c).2 left, (List.prefix_cons_inj c).2 right⟩
          · simp [same]

theorem commonPrefixOf_isPrefix {texts : List (List Char)} {text : List Char}
    (member : text ∈ texts) : commonPrefixOf texts <+: text := by
  induction texts with
  | nil => cases member
  | cons first rest inductionHypothesis =>
      cases rest with
      | nil =>
          obtain rfl := List.mem_singleton.1 member
          exact List.prefix_refl _
      | cons next others =>
          obtain ⟨left, right⟩ := commonPrefix_isPrefix first (commonPrefixOf (next :: others))
          rcases List.mem_cons.1 member with rfl | behind
          · exact left
          · exact right.trans (inductionHypothesis behind)

theorem isPrefix_commonPrefix {margin first second : List Char} (left : margin <+: first)
    (right : margin <+: second) : margin <+: commonPrefix first second := by
  induction margin generalizing first second with
  | nil => exact List.nil_prefix
  | cons c rest inductionHypothesis =>
      obtain ⟨more, rfl⟩ := left
      obtain ⟨others, rfl⟩ := right
      simp only [List.cons_append, commonPrefix, if_true]
      exact (List.prefix_cons_inj c).2
        (inductionHypothesis (List.prefix_append _ _) (List.prefix_append _ _))

theorem isPrefix_commonPrefixOf {margin : List Char} {texts : List (List Char)} (some : texts ≠ [])
    (common : ∀ text ∈ texts, margin <+: text) : margin <+: commonPrefixOf texts := by
  induction texts with
  | nil => exact absurd rfl some
  | cons first rest inductionHypothesis =>
      cases rest with
      | nil => exact common first List.mem_cons_self
      | cons next others =>
          refine isPrefix_commonPrefix (common first List.mem_cons_self) ?_
          exact inductionHypothesis (List.cons_ne_nil _ _) fun text member =>
            common text (List.mem_cons_of_mem _ member)

/-- The lines that have a say in the margin. -/
theorem mem_codeLines {lines : List (List Char)} {line : List Char} :
    line ∈ (lines.map emptied).filter (!·.isEmpty) ↔
      line ∈ lines ∧ line.all isIndentation = false := by
  simp only [List.mem_filter, List.mem_map]
  constructor
  · rintro ⟨⟨other, member, rfl⟩, some⟩
    unfold emptied at some ⊢
    by_cases blank : other.all isIndentation = true
    · simp [blank] at some
    · rw [if_neg blank]
      exact ⟨member, by simpa using blank⟩
  · rintro ⟨member, code⟩
    refine ⟨⟨line, member, by simp [emptied, code]⟩, ?_⟩
    cases line with
    | nil => cases code
    | cons c rest => rfl

/-- The margin is no wider than the indentation of any line with code. -/
theorem marginWidth_le {lines : List (List Char)} {line : List Char} (member : line ∈ lines)
    (code : line.all isIndentation = false) :
    marginWidth lines ≤ (line.takeWhile isIndentation).length := by
  have isCode := mem_codeLines.2 ⟨member, code⟩
  exact (commonPrefixOf_isPrefix (List.mem_map_of_mem isCode)).length_le

/-- What all lines with code begin with is no wider than the margin. -/
theorem le_marginWidth {lines : List (List Char)} {line margin : List Char} (member : line ∈ lines)
    (code : line.all isIndentation = false)
    (common : ∀ line ∈ lines, line.all isIndentation = false →
      margin <+: line.takeWhile isIndentation) : margin.length ≤ marginWidth lines := by
  apply List.IsPrefix.length_le
  apply isPrefix_commonPrefixOf
  · have isCode := mem_codeLines.2 ⟨member, code⟩
    exact List.ne_nil_of_mem (List.mem_map_of_mem isCode)
  · intro text isIndentation
    obtain ⟨line, isCode, rfl⟩ := List.mem_map.1 isIndentation
    obtain ⟨isLine, code⟩ := mem_codeLines.1 isCode
    exact common line isLine code

/-- Dropping the margin takes the same width off each line with code. -/
theorem dropMargin_eq (text : List Char) :
    dropMargin text =
      joinLines ((splitLines text).map (undented (marginWidth (splitLines text)))) := by
  unfold dropMargin
  dsimp only
  rw [List.map_map]
  congr 1
  apply List.map_congr_left
  intro line _
  unfold undented
  simp only [Function.comp_apply]
  by_cases blank : line.all isIndentation = true
  · simp [blank]
  · have some : line.isEmpty = false := by
      cases line with
      | nil => exact absurd rfl blank
      | cons c rest => rfl
    simp only [blank, if_false, some, Bool.false_eq_true]
    rfl

/-- A character that is no indentation stays in its line. -/
theorem mem_undented {width : Nat} {line : List Char} {c : Char} (member : c ∈ line)
    (code : isIndentation c = false) (narrow : width ≤ (line.takeWhile isIndentation).length) :
    c ∈ undented width line := by
  have noBlank : ¬ line.all isIndentation = true := by
    intro all
    have indentation := List.all_eq_true.1 all c member
    simp [code] at indentation
  have behind : c ∈ line.dropWhile isIndentation := by
    rw [← List.takeWhile_append_dropWhile (p := isIndentation) (l := line)] at member
    rcases List.mem_append.1 member with inside | behind
    · have indentation := List.all_eq_true.1 List.all_takeWhile c inside
      simp [code] at indentation
    · exact behind
  unfold undented
  rw [if_neg noBlank, ← List.takeWhile_append_dropWhile (p := isIndentation) (l := line),
    List.drop_append_of_le_length narrow]
  exact List.mem_append_right _ behind

/-! ## Trimmed texts -/

/-- What stands between characters that are no blanks stays. -/
theorem trimBlanks_of_inner {first last : List Char} (middle : List Char) {c d : Char}
    (left : c ∈ first) (noBlank : isBlank c = false) (right : d ∈ last)
    (noBlank' : isBlank d = false) :
    ∃ left' right', trimBlanks (first ++ (middle ++ last)) = left' ++ (middle ++ right') := by
  have stays : (first.dropWhile isBlank).isEmpty = false := by
    rw [Bool.eq_false_iff]
    intro none
    have all := List.dropWhile_eq_nil_iff.1 (List.isEmpty_iff.1 none) c left
    simp [noBlank] at all
  have stays' : (last.reverse.dropWhile isBlank).isEmpty = false := by
    rw [Bool.eq_false_iff]
    intro none
    have all := List.dropWhile_eq_nil_iff.1 (List.isEmpty_iff.1 none) d (List.mem_reverse.2 right)
    simp [noBlank'] at all
  refine ⟨first.dropWhile isBlank, (last.reverse.dropWhile isBlank).reverse, ?_⟩
  unfold trimBlanks
  rw [List.dropWhile_append, stays]
  simp only [Bool.false_eq_true, if_false, List.reverse_append, List.append_assoc]
  rw [List.dropWhile_append, stays']
  simp

theorem isIndentation_eq_false {c : Char} (noBlank : isBlank c = false) :
    isIndentation c = false := by
  have apart : c ≠ ' ' ∧ c ≠ '\t' := by
    constructor
    · rintro rfl
      exact absurd noBlank (by decide)
    · rintro rfl
      exact absurd noBlank (by decide)
  simp [isIndentation, apart.1, apart.2]

theorem mem_joinLines {lines : List (List Char)} {line : List Char} {c : Char}
    (member : line ∈ lines) (stands : c ∈ line) : c ∈ joinLines lines := by
  induction lines with
  | nil => cases member
  | cons first others inductionHypothesis =>
      by_cases more : others = []
      · subst more
        obtain rfl := List.mem_singleton.1 member
        simpa [joinLines] using stands
      · rw [joinLines_cons more]
        rcases List.mem_cons.1 member with rfl | behind
        · exact List.mem_append_left _ stands
        · exact List.mem_append_right _ (List.mem_cons_of_mem _ (inductionHypothesis behind))

/-- A character that is no blank stays where the margin of some lines is dropped, if it stands in
one of them. -/
theorem mem_joinLines_undented {part : List Char} {lines : List (List Char)} {c : Char}
    (member : c ∈ part) (noBlank : isBlank c = false)
    (among : ∀ line ∈ splitLines part, line ∈ lines) :
    c ∈ joinLines ((splitLines part).map (undented (marginWidth lines))) := by
  have noFeed : c ≠ '\n' := by
    rintro rfl
    exact absurd noBlank (by decide)
  have code := isIndentation_eq_false noBlank
  obtain ⟨line, isLine, stands⟩ := (mem_splitLines part).2 c member noFeed
  have notAll : line.all isIndentation = false := by
    rw [Bool.eq_false_iff]
    intro all
    have indentation := List.all_eq_true.1 all c stands
    simp [code] at indentation
  have narrow := marginWidth_le (among line isLine) notAll
  exact mem_joinLines (List.mem_map_of_mem isLine) (mem_undented stands code narrow)

/-- **Lines between others stay one by one** where a text loses its margin and the blanks at its
ends: each loses a part of its indentation only. -/
theorem splitLines_trimmed {above below : List Char} {lines : List (List Char)} {c d : Char}
    (left : c ∈ above) (noBlank : isBlank c = false) (right : d ∈ below)
    (noBlank' : isBlank d = false) (some : lines ≠ []) (noFeeds : ∀ line ∈ lines, '\n' ∉ line) :
    ∃ width first last, (∀ line ∈ lines, line.all isIndentation = false →
        width ≤ (line.takeWhile isIndentation).length) ∧
      trimBlanks (dropMargin (above ++ '\n' :: (joinLines lines ++ '\n' :: below))) =
        first ++ '\n' :: (joinLines (lines.map (undented width)) ++ '\n' :: last) := by
  let whole := splitLines above ++ (lines ++ splitLines below)
  have split : splitLines (above ++ '\n' :: (joinLines lines ++ '\n' :: below)) = whole := by
    rw [splitLines_append, splitLines_append, splitLines_joinLines some noFeeds]
  let width := marginWidth whole
  have among : ∀ line ∈ lines, line ∈ whole := fun line member =>
    List.mem_append_right _ (List.mem_append_left _ member)
  have stays := mem_joinLines_undented left noBlank fun line member =>
    (List.mem_append_left _ member : line ∈ whole)
  have stays' := mem_joinLines_undented right noBlank' fun line member =>
    (List.mem_append_right _ (List.mem_append_right _ member) : line ∈ whole)
  have joined : dropMargin (above ++ '\n' :: (joinLines lines ++ '\n' :: below)) =
      joinLines ((splitLines above).map (undented width)) ++
        ('\n' :: (joinLines (lines.map (undented width)) ++ ['\n']) ++
          joinLines ((splitLines below).map (undented width))) := by
    rw [dropMargin_eq, split]
    have first : (splitLines above).map (undented width) ≠ [] := by
      simpa using splitLines_ne_nil above
    have last : (splitLines below).map (undented width) ≠ [] := by
      simpa using splitLines_ne_nil below
    have middle : lines.map (undented width) ≠ [] := by simpa using some
    simp only [whole, List.map_append]
    rw [joinLines_append first (by simp [some]), joinLines_append middle last]
    simp
  obtain ⟨first, last, trimmed⟩ := trimBlanks_of_inner
    ('\n' :: (joinLines (lines.map (undented width)) ++ ['\n'])) stays noBlank stays' noBlank'
  refine ⟨width, first, last, fun line member => marginWidth_le (among line member), ?_⟩
  rw [joined, trimmed]
  simp

theorem undented_nil (width : Nat) : undented width [] = [] := rfl

/-- A line loses the indentation in front of the rest of it. -/
theorem undented_append {margin line : List Char} (code : line.all isIndentation = false) :
    undented margin.length (margin ++ line) = line := by
  simp [undented, List.all_append, code]

/-- **A margin in front of lines of which the first has none is all that is lost**, blanks at the
ends aside. -/
theorem trimmed_indented {margin tail more before : List Char} {lines others : List (List Char)}
    {c d : Char} (isMargin : margin.all isIndentation = true)
    (isTail : tail.all isIndentation = true) (begins : lines = (c :: more) :: others)
    (noBlank : isBlank c = false) (ends : joinLines lines = before ++ [d])
    (noBlank' : isBlank d = false) (noFeeds : ∀ line ∈ lines, '\n' ∉ line)
    (code : ∀ line ∈ lines, line.all isIndentation = false) :
    trimBlanks (dropMargin ('\n' :: (joinLines (lines.map (margin ++ ·)) ++ '\n' :: tail))) =
      joinLines lines := by
  subst begins
  have apart : ∀ text : List Char, text.all isIndentation = true → '\n' ∉ text := by
    intro text all member
    exact absurd (List.all_eq_true.1 all _ member) (by decide)
  let lines := ((c :: more) :: others).map (margin ++ ·)
  let whole := [] :: (lines ++ [tail])
  have split : splitLines ('\n' :: (joinLines lines ++ '\n' :: tail)) = whole := by
    have feedless : ∀ line ∈ lines, '\n' ∉ line := by
      intro line member
      obtain ⟨other, isLine, rfl⟩ := List.mem_map.1 member
      simpa using ⟨apart margin isMargin, noFeeds other isLine⟩
    rw [splitLines_feed, splitLines_append, splitLines_joinLines (by simp [lines]) feedless,
      splitLines_of_line (apart tail isTail)]
  have indented : ∀ line, (margin ++ line).takeWhile isIndentation =
      margin ++ line.takeWhile isIndentation :=
    fun line => List.takeWhile_append_of_pos (List.all_eq_true.1 isMargin)
  have notIndentation := isIndentation_eq_false noBlank
  have first : margin ++ c :: more ∈ whole := by simp [whole, lines]
  have firstCode : (margin ++ c :: more).all isIndentation = false := by
    simp [List.all_append, notIndentation]
  have width : marginWidth whole = margin.length := by
    apply Nat.le_antisymm
    · have narrow := marginWidth_le first firstCode
      simpa [indented, notIndentation] using narrow
    · apply le_marginWidth first firstCode
      intro line member isCode
      have among : line = [] ∨ line ∈ lines ∨ line = tail := by simpa [whole] using member
      rcases among with rfl | isLine | rfl
      · cases isCode
      · obtain ⟨other, -, rfl⟩ := List.mem_map.1 isLine
        rw [indented]
        exact List.prefix_append _ _
      · rw [isTail] at isCode
        cases isCode
  have undone : lines.map (undented margin.length) = (c :: more) :: others := by
    rw [List.map_map]
    conv =>
      rhs
      rw [← List.map_id ((c :: more) :: others)]
    apply List.map_congr_left
    intro line member
    exact undented_append (code line member)
  have emptiedTail : undented margin.length tail = [] := by simp [undented, isTail]
  have joined : joinLines (whole.map (undented margin.length)) =
      '\n' :: (joinLines ((c :: more) :: others) ++ ['\n']) := by
    simp only [whole, List.map_cons, List.map_append, undone, emptiedTail, undented_nil,
      List.map_nil]
    rw [joinLines_cons (by simp), joinLines_append (by simp) (by simp)]
    rfl
  obtain ⟨text, front⟩ : ∃ text, joinLines ((c :: more) :: others) = c :: text := by
    by_cases single : others = []
    · subst single
      exact ⟨more, by simp [joinLines]⟩
    · exact ⟨_, joinLines_cons single⟩
  have feed : isBlank '\n' = true := by decide
  rw [dropMargin_eq, split, width, joined]
  unfold trimBlanks
  rw [List.dropWhile_cons_of_pos feed, front, List.cons_append, List.dropWhile_cons_of_neg
    (by simp [noBlank]), ← List.cons_append, ← front, ends]
  simp [feed, noBlank']

end ModuleGlue.Text
