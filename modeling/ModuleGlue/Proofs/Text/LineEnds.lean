import ModuleGlue.Span
import ModuleGlue.Text.Literal

/-!
Contract: the ways to write the end of a line.

Source text may end its lines with a line feed, with a carriage return, or with both. Literals are
read after all of these have become line feeds. Turning the line feeds of a text into pairs is
undone by that, and moves no place: the count of lines and columns looks at line feeds alone.

Main statements: `exists_front_of_unifyLineEnds` (where a character of unified text comes from),
`literalValue?_withReturns`, `advance_withReturns`.

Owns: unified line ends, and texts with pairs for line feeds.

Does not own: what the lexer makes of a line end.
-/

namespace ModuleGlue

namespace Text

/-! ## Unified line ends -/

theorem unifyLineEnds_char {c : Char} (noReturn : c ≠ '\r') (rest : List Char) :
    unifyLineEnds (c :: rest) = c :: unifyLineEnds rest := by
  rw [unifyLineEnds.eq_4]
  · intro others same
    exact absurd same noReturn
  · exact noReturn

theorem unifyLineEnds_chars {front : List Char} (noReturn : '\r' ∉ front) (rest : List Char) :
    unifyLineEnds (front ++ rest) = front ++ unifyLineEnds rest := by
  induction front with
  | nil => rfl
  | cons c others inductionHypothesis =>
      rw [List.mem_cons, not_or] at noReturn
      rw [List.cons_append, unifyLineEnds_char (Ne.symm noReturn.1),
        inductionHypothesis noReturn.2]
      rfl

theorem unifyLineEnds_return {rest : List Char} (noFeed : rest.head? ≠ some '\n') :
    unifyLineEnds ('\r' :: rest) = '\n' :: unifyLineEnds rest := by
  rw [unifyLineEnds.eq_3]
  rintro others rfl
  exact noFeed rfl

theorem unifyLineEnds_append (first : List Char) {second : List Char}
    (noFeed : second.head? ≠ some '\n') :
    unifyLineEnds (first ++ second) = unifyLineEnds first ++ unifyLineEnds second := by
  fun_induction unifyLineEnds first with
  | case1 => rfl
  | case2 rest inductionHypothesis =>
      rw [List.cons_append, List.cons_append, unifyLineEnds, inductionHypothesis]
      rfl
  | case3 rest notPair inductionHypothesis =>
      have alone : (rest ++ second).head? ≠ some '\n' := by
        cases rest with
        | nil => exact noFeed
        | cons c others =>
            intro same
            obtain rfl := Option.some.inj same
            exact notPair others rfl
      rw [List.cons_append, unifyLineEnds_return alone, inductionHypothesis]
      rfl
  | case4 c rest notPair noReturn inductionHypothesis =>
      rw [List.cons_append, unifyLineEnds_char noReturn, inductionHypothesis]
      rfl

theorem unifyLineEnds_eq_nil_iff {text : List Char} : unifyLineEnds text = [] ↔ text = [] := by
  fun_cases unifyLineEnds text <;> simp

/-- A character other than a line feed stands for itself or, as a line feed, for a line end. -/
theorem exists_front_of_unifyLineEnds {text rest : List Char} {c : Char}
    (unified : unifyLineEnds text = c :: rest) :
    ∃ front behind, text = front ++ behind ∧ unifyLineEnds behind = rest ∧
      (front = [c] ∧ c ≠ '\r' ∨ c = '\n' ∧ (front = ['\r'] ∨ front = ['\r', '\n'])) := by
  match text with
  | [] => cases unified
  | d :: others =>
      by_cases isReturn : d = '\r'
      · obtain rfl := isReturn
        by_cases pair : others.head? = some '\n'
        · obtain ⟨more, rfl⟩ := List.head?_eq_some_iff.1 pair
          rw [unifyLineEnds] at unified
          obtain ⟨rfl, same⟩ := List.cons.inj unified
          exact ⟨['\r', '\n'], more, rfl, same, Or.inr ⟨rfl, Or.inr rfl⟩⟩
        · rw [unifyLineEnds_return pair] at unified
          obtain ⟨rfl, same⟩ := List.cons.inj unified
          exact ⟨['\r'], others, rfl, same, Or.inr ⟨rfl, Or.inl rfl⟩⟩
      · rw [unifyLineEnds_char isReturn] at unified
        obtain ⟨rfl, same⟩ := List.cons.inj unified
        exact ⟨[d], others, rfl, same, Or.inl ⟨rfl, isReturn⟩⟩

/-! ## Pairs for line feeds -/

/-- The text with a carriage return in front of every line feed. -/
def withReturns : List Char → List Char
  | [] => []
  | c :: rest => if c = '\n' then '\r' :: '\n' :: withReturns rest else c :: withReturns rest

theorem withReturns_break (rest : List Char) :
    withReturns ('\n' :: rest) = '\r' :: '\n' :: withReturns rest := rfl

theorem withReturns_char {c : Char} (noBreak : c ≠ '\n') (rest : List Char) :
    withReturns (c :: rest) = c :: withReturns rest := by
  rw [withReturns, if_neg noBreak]

theorem withReturns_append (first second : List Char) :
    withReturns (first ++ second) = withReturns first ++ withReturns second := by
  induction first with
  | nil => rfl
  | cons c rest inductionHypothesis =>
      by_cases isBreak : c = '\n'
      · obtain rfl := isBreak
        rw [List.cons_append, withReturns_break, inductionHypothesis]
        rfl
      · rw [List.cons_append, withReturns_char isBreak, inductionHypothesis,
          withReturns_char isBreak]
        rfl

/-- A text on one line stays as it is. -/
theorem withReturns_of_onLine {text : List Char} (onLine : '\n' ∉ text) :
    withReturns text = text := by
  induction text with
  | nil => rfl
  | cons c rest inductionHypothesis =>
      rw [List.mem_cons, not_or] at onLine
      rw [withReturns_char (Ne.symm onLine.1), inductionHypothesis onLine.2]

/-- The plain text that the new text begins with is what the old one begins with. -/
theorem exists_rest_of_withReturns {word text more : List Char} (onLine : '\n' ∉ word)
    (noReturn : '\r' ∉ word) (whole : withReturns text = word ++ more) :
    ∃ rest, text = word ++ rest ∧ more = withReturns rest := by
  induction word generalizing text with
  | nil => exact ⟨text, rfl, whole.symm⟩
  | cons c others inductionHypothesis =>
      rw [List.mem_cons, not_or] at onLine noReturn
      cases text with
      | nil => cases whole
      | cons d behind =>
          by_cases isBreak : d = '\n'
          · obtain rfl := isBreak
            exact absurd (List.cons.inj whole).1 noReturn.1
          · rw [withReturns_char isBreak] at whole
            obtain ⟨rfl, behindFirst⟩ := List.cons.inj whole
            obtain ⟨rest, rfl, same⟩ := inductionHypothesis onLine.2 noReturn.2 behindFirst
            exact ⟨rest, rfl, same⟩

theorem unifyLineEnds_of_noReturn {text : List Char} (noReturn : '\r' ∉ text) :
    unifyLineEnds text = text := by
  have kept := unifyLineEnds_chars noReturn []
  rwa [List.append_nil, unifyLineEnds, List.append_nil] at kept

theorem unifyLineEnds_withReturns {text : List Char} (noReturn : '\r' ∉ text) :
    unifyLineEnds (withReturns text) = text := by
  induction text with
  | nil => rfl
  | cons c rest inductionHypothesis =>
      rw [List.mem_cons, not_or] at noReturn
      by_cases isBreak : c = '\n'
      · obtain rfl := isBreak
        rw [withReturns_break, unifyLineEnds, inductionHypothesis noReturn.2]
      · rw [withReturns_char isBreak, unifyLineEnds_char (Ne.symm noReturn.1),
          inductionHypothesis noReturn.2]

theorem mem_withReturns_iff {text : List Char} {c : Char} (noReturn : c ≠ '\r') :
    c ∈ withReturns text ↔ c ∈ text := by
  induction text with
  | nil => rfl
  | cons d rest inductionHypothesis =>
      by_cases isBreak : d = '\n'
      · obtain rfl := isBreak
        rw [withReturns_break]
        simp [noReturn, inductionHypothesis]
      · rw [withReturns_char isBreak]
        simp [inductionHypothesis]

/-- A run of characters that ends with the line is as long as before. -/
theorem takeWhile_withReturns {part : Char → Bool} (feed : part '\n' = false)
    (ends : part '\r' = false) (text : List Char) :
    (withReturns text).takeWhile part = text.takeWhile part ∧
      (withReturns text).dropWhile part = withReturns (text.dropWhile part) := by
  induction text with
  | nil => exact ⟨rfl, rfl⟩
  | cons c rest inductionHypothesis =>
      by_cases isBreak : c = '\n'
      · obtain rfl := isBreak
        rw [withReturns_break]
        simp [feed, ends, withReturns_break]
      · rw [withReturns_char isBreak]
        cases goesOn : part c with
        | true => simp [goesOn, inductionHypothesis]
        | false => simp [goesOn, withReturns_char isBreak]

/-- What a literal denotes does not depend on how its lines end. -/
theorem literalValue?_withReturns {text : List Char} (noReturn : '\r' ∉ text) :
    literalValue? (withReturns text) = literalValue? text := by
  have null : (withReturns text).contains '\x00' = text.contains '\x00' := by
    rw [Bool.eq_iff_iff, List.contains_iff_mem, List.contains_iff_mem,
      mem_withReturns_iff (by decide)]
  have blanks : (withReturns text).dropWhile (fun c => c == ' ' || c == '\t') =
      withReturns (text.dropWhile fun c => c == ' ' || c == '\t') :=
    (takeWhile_withReturns rfl rfl text).2
  have noReturn' : '\r' ∉ text.dropWhile fun c => c == ' ' || c == '\t' := fun member =>
    noReturn ((List.dropWhile_suffix _).subset member)
  unfold literalValue?
  rw [null, blanks, unifyLineEnds_withReturns noReturn', unifyLineEnds_of_noReturn noReturn']

end Text

open ModuleGlue.Text

/-- A carriage return in front of a line feed moves no place behind it. -/
theorem Position.advance_withReturns (position : Position) (text : List Char) :
    position.advance (withReturns text) = position.advance text := by
  induction text generalizing position with
  | nil => rfl
  | cons c rest inductionHypothesis =>
      by_cases isBreak : c = '\n'
      · obtain rfl := isBreak
        rw [withReturns_break]
        simp only [Position.advance_cons, inductionHypothesis]
        rfl
      · rw [withReturns_char isBreak]
        simp only [Position.advance_cons, inductionHypothesis]

end ModuleGlue
