import Mathlib.Data.List.Forall2
import ModuleGlue.Proofs.Text.LineEnds

/-!
Contract: what a single string literal is, and what it denotes.

A literal is a letter or none, a delimiter, a body, and the delimiter again. The grammar is that of
the language, for literals that denote text, after all line ends have become line feeds: a
backslash takes the character behind it along, whatever that is, and the body ends at the first
delimiter that is not protected. In a raw literal every character stands for itself; in any other a
backslash begins an escape.

Main statement: `literalValue?_literal` (a literal by the grammar has the value that the grammar
gives it).

Owns: the grammar of bodies and of escapes, and the value they have.

Does not own: literals that stand next to each other or in parentheses.
-/

namespace ModuleGlue.Text

/-! ## Bodies -/

def Opening.delimiter (opening : Opening) : List Char :=
  if opening.triple then [opening.quote, opening.quote, opening.quote] else [opening.quote]

/-- What may stand between the delimiters. -/
inductive Opening.Body (opening : Opening) : List Char → Prop where
  | nothing : Opening.Body opening []
  | char {c : Char} {rest : List Char} (notEscape : c ≠ '\\')
      (notClosed : ¬ opening.delimiter <+: c :: (rest ++ opening.delimiter))
      (onLine : opening.triple = true ∨ c ≠ '\n') (more : Opening.Body opening rest) :
      Opening.Body opening (c :: rest)
  | escape (c : Char) {rest : List Char} (more : Opening.Body opening rest) :
      Opening.Body opening ('\\' :: c :: rest)

/-! ## Escapes -/

/-- The characters that stand for one character behind a backslash. -/
def escapeLetters : List (Char × Char) :=
  [('\\', '\\'), ('\'', '\''), ('"', '"'), ('a', '\x07'), ('b', '\x08'), ('f', '\x0c'),
    ('n', '\n'), ('r', '\r'), ('t', '\t'), ('v', '\x0b')]

/-- The letters that are followed by hexadecimal digits, and how many. -/
def escapeWidths : List (Char × Nat) := [('x', 2), ('u', 4), ('U', 8)]

/-- The number that digits spell, the most significant one first. -/
def numeral (base start : Nat) (digits : List Nat) : Nat :=
  digits.foldl (fun value digit => value * base + digit) start

/-- What may stand behind a backslash, in front of some text, and what it denotes. -/
inductive Escape (after : List Char) : List Char → Points → Prop where
  | lineEnd : Escape after ['\n'] []
  | letter {c denoted : Char} (tabled : (c, denoted) ∈ escapeLetters) :
      Escape after [c] [.ofChar denoted]
  | octal {digits : List Char} {values : List Nat} {point : CodePoint}
      (spelled : List.Forall₂ (fun c value => octalValue? c = some value) digits values)
      (present : digits ≠ []) (few : digits.length ≤ 3)
      (longest : digits.length = 3 ∨ ∀ c ∈ after.head?, octalValue? c = none)
      (number : point.value = numeral 8 0 values) : Escape after digits [point]
  | hexadecimal {letter : Char} {digits : List Char} {values : List Nat} {point : CodePoint}
      (tabled : (letter, digits.length) ∈ escapeWidths)
      (spelled : List.Forall₂ (fun c value => hexValue? c = some value) digits values)
      (number : point.value = numeral 16 0 values) : Escape after (letter :: digits) [point]
  | named {name : List Char} {point : CodePoint} (inBraces : '\x7d' ∉ name)
      (known : characterNamed? name = some point.value) :
      Escape after ('N' :: '\x7b' :: (name ++ ['\x7d'])) [point]
  | other {c : Char} (noLetter : c ∉ escapeLetters.map Prod.fst)
      (noWidth : c ∉ escapeWidths.map Prod.fst) (noEnd : c ≠ '\n') (noName : c ≠ 'N')
      (noDigit : octalValue? c = none) : Escape after [c] [.ofChar '\\', .ofChar c]

/-- What a body denotes in which backslashes begin escapes. -/
inductive Unescaped : List Char → Points → Prop where
  | nothing : Unescaped [] []
  | char {c : Char} {rest : List Char} {value : Points} (notEscape : c ≠ '\\')
      (more : Unescaped rest value) : Unescaped (c :: rest) (.ofChar c :: value)
  | escape {escape rest : List Char} {points value : Points} (spelled : Escape rest escape points)
      (more : Unescaped rest value) : Unescaped ('\\' :: (escape ++ rest)) (points ++ value)

/-! ## Literals -/

structure Literal where
  letters : List Char
  opening : Opening
  body : List Char
deriving DecidableEq, Repr

namespace Literal

def text (literal : Literal) : List Char :=
  literal.letters ++
    (literal.opening.delimiter ++ (literal.body ++ literal.opening.delimiter))

/-- The literal is one by the grammar of the language. -/
structure Valid (literal : Literal) : Prop where
  quoted : literal.opening.quote = '"' ∨ literal.opening.quote = '\''
  letters : literal.letters ∈
    if literal.opening.raw then [['r'], ['R']] else [[], ['u'], ['U']]
  noNull : '\x00' ∉ literal.body
  body : literal.opening.Body (unifyLineEnds literal.body)

def Denotes (literal : Literal) (value : Points) : Prop :=
  if literal.opening.raw then value = .ofList (unifyLineEnds literal.body)
  else Unescaped (unifyLineEnds literal.body) value

end Literal

/-! ## Escapes are read by the grammar -/

/-- The digits that stand for a number in an octal escape. -/
theorem octalDigit_mem {c : Char} {value : Nat} (digit : octalValue? c = some value) :
    (c, value) ∈ [('0', 0), ('1', 1), ('2', 2), ('3', 3), ('4', 4), ('5', 5), ('6', 6),
      ('7', 7)] := by
  have tabled : ∀ point ∈ List.range' 48 8, (Char.ofNat point, point - 48) ∈
      [('0', 0), ('1', 1), ('2', 2), ('3', 3), ('4', 4), ('5', 5), ('6', 6), ('7', 7)] := by
    decide
  unfold octalValue? at digit
  split at digit
  · rename_i range
    obtain rfl := Option.some.inj digit
    have low : 48 ≤ c.toNat := UInt32.le_iff_toNat_le.1 range.1
    have high : c.toNat ≤ 55 := UInt32.le_iff_toNat_le.1 range.2
    have found := tabled c.toNat (by rw [List.mem_range'_1]; omega)
    rwa [Char.ofNat_toNat] at found
  · cases digit

theorem readOctal_digits {digits after : List Char} {values : List Nat}
    (spelled : List.Forall₂ (fun c value => octalValue? c = some value) digits values)
    {width : Nat} (few : digits.length ≤ width)
    (longest : digits.length = width ∨ ∀ c ∈ after.head?, octalValue? c = none) (start : Nat) :
    readOctal width start (digits ++ after) = (numeral 8 start values, after) := by
  induction spelled generalizing width start with
  | nil =>
      cases width with
      | zero => rfl
      | succ width =>
          cases after with
          | nil => rfl
          | cons c others =>
              have stops := (longest.resolve_left (by simp)) c rfl
              rw [List.nil_append, readOctal, stops]
              rfl
  | @cons c value digits values digit spelled inductionHypothesis =>
      cases width with
      | zero => simp at few
      | succ width =>
          rw [List.cons_append, readOctal, digit]
          simp only [List.length_cons, Nat.add_le_add_iff_right, Nat.add_right_cancel_iff]
            at few longest
          exact inductionHypothesis few longest _

theorem readHex_digits {digits : List Char} {values : List Nat}
    (spelled : List.Forall₂ (fun c value => hexValue? c = some value) digits values)
    (after : List Char) (start : Nat) :
    readHex digits.length start (digits ++ after) = some (numeral 16 start values, after) := by
  induction spelled generalizing start with
  | nil => cases after <;> rfl
  | @cons c value digits values digit spelled inductionHypothesis =>
      rw [List.length_cons, List.cons_append, readHex, digit]
      exact inductionHypothesis _

theorem ofNat?_value (point : CodePoint) : CodePoint.ofNat? point.value = some point := by
  rw [CodePoint.ofNat?, dif_pos point.inRange]

theorem readName_inBraces {name : List Char} (inBraces : '\x7d' ∉ name) (after : List Char) :
    readName ('\x7b' :: (name ++ '\x7d' :: after)) = some (name, after) := by
  have all : ∀ c ∈ name, (c != '\x7d') = true := by
    intro c member
    rw [bne_iff_ne]
    rintro rfl
    exact inBraces member
  rw [readName, List.takeWhile_append_of_pos all, List.dropWhile_append_of_pos all]
  simp

/-- An escape is read as the grammar says, and nothing behind it. -/
theorem readEscape_escape {escape after : List Char} {points : Points}
    (spelled : Escape after escape points) :
    readEscape (escape ++ after) = some (points, after) := by
  cases spelled with
  | lineEnd => rfl
  | @letter c denoted tabled =>
      simp only [escapeLetters, List.mem_cons, Prod.mk.injEq, List.not_mem_nil, or_false] at tabled
      rcases tabled with ⟨rfl, rfl⟩ | ⟨rfl, rfl⟩ | ⟨rfl, rfl⟩ | ⟨rfl, rfl⟩ | ⟨rfl, rfl⟩ |
        ⟨rfl, rfl⟩ | ⟨rfl, rfl⟩ | ⟨rfl, rfl⟩ | ⟨rfl, rfl⟩ | ⟨rfl, rfl⟩ <;> rfl
  | @octal digits values point spelled present few longest number =>
      cases spelled with
      | nil => exact absurd rfl present
      | @cons c value digits values digit spelled =>
          simp only [List.length_cons, Nat.reduceEqDiff] at few longest
          have read := readOctal_digits spelled (Nat.le_of_succ_le_succ few) longest value
          have point : CodePoint.ofNat? (numeral 8 value values) = some point := by
            have start : numeral 8 0 (value :: values) = numeral 8 value values := by
              simp [numeral]
            rw [← start, ← number, ofNat?_value]
          have denoted : readEscape (c :: (digits ++ after)) =
              (CodePoint.ofNat? (readOctal 2 value (digits ++ after)).1).map
                fun point => ([point], (readOctal 2 value (digits ++ after)).2) := by
            have tabled := octalDigit_mem digit
            simp only [List.mem_cons, Prod.mk.injEq, List.not_mem_nil, or_false] at tabled
            rcases tabled with ⟨rfl, rfl⟩ | ⟨rfl, rfl⟩ | ⟨rfl, rfl⟩ | ⟨rfl, rfl⟩ | ⟨rfl, rfl⟩ |
              ⟨rfl, rfl⟩ | ⟨rfl, rfl⟩ | ⟨rfl, rfl⟩ <;> rfl
          rw [List.cons_append, denoted, read]
          dsimp only
          rw [point]
          rfl
  | @hexadecimal letter digits values point tabled spelled number =>
      have numbered : readEscape.numbered digits.length (digits ++ after) =
          some ([point], after) := by
        rw [readEscape.numbered, readHex_digits spelled, ← number]
        simp [ofNat?_value]
      simp only [escapeWidths, List.mem_cons, Prod.mk.injEq, List.not_mem_nil, or_false] at tabled
      rcases tabled with ⟨rfl, wide⟩ | ⟨rfl, wide⟩ | ⟨rfl, wide⟩ <;>
      · rw [wide] at numbered
        exact numbered
  | @named name point inBraces known =>
      have read := readName_inBraces inBraces after
      have shape : 'N' :: '\x7b' :: (name ++ ['\x7d']) ++ after =
          'N' :: '\x7b' :: (name ++ '\x7d' :: after) := by simp
      rw [shape]
      change readEscape.named _ = _
      rw [readEscape.named, read]
      simp [known, ofNat?_value]
  | @other c noLetter noWidth noEnd noName noDigit =>
      simp only [escapeLetters, escapeWidths, List.map_cons, List.map_nil, List.mem_cons,
        List.not_mem_nil, or_false, not_or] at noLetter noWidth
      rw [List.singleton_append, readEscape.eq_17, noDigit]
      all_goals
        rintro rfl
        simp_all

/-- Text without escapes denotes itself. -/
theorem unescaped_of_plain {body : List Char} (plain : ∀ c ∈ body, c ≠ '\\') :
    Unescaped body (.ofList body) := by
  induction body with
  | nil => exact .nothing
  | cons c rest inductionHypothesis =>
      exact .char (plain c (List.mem_cons_self ..))
        (inductionHypothesis fun d member => plain d (List.mem_cons_of_mem _ member))

theorem unescapeWithin_unescaped {body : List Char} {value : Points}
    (denoted : Unescaped body value) {fuel : Nat} (enough : body.length ≤ fuel) :
    unescapeWithin fuel body = some value := by
  induction denoted generalizing fuel with
  | nothing => cases fuel <;> rfl
  | @char c rest value notEscape more inductionHypothesis =>
      cases fuel with
      | zero => simp at enough
      | succ fuel =>
          rw [List.length_cons] at enough
          rw [unescapeWithin.eq_4, inductionHypothesis (Nat.le_of_succ_le_succ enough)]
          · rfl
          · exact notEscape
  | @escape escape rest points value spelled more inductionHypothesis =>
      cases fuel with
      | zero => simp at enough
      | succ fuel =>
          rw [List.length_cons, List.length_append] at enough
          rw [unescapeWithin, readEscape_escape spelled, Option.bind_some]
          dsimp only
          rw [inductionHypothesis (by omega)]
          rfl

/-! ## Literals are read by the grammar -/

section
variable {opening : Opening}

theorem Opening.delimiter_of_single (single : opening.triple = false) :
    opening.delimiter = [opening.quote] := by
  rw [Opening.delimiter, single, if_neg Bool.false_ne_true]

theorem Opening.delimiter_of_triple (triple : opening.triple = true) :
    opening.delimiter = [opening.quote, opening.quote, opening.quote] := by
  rw [Opening.delimiter, if_pos triple]

/-- Text without escapes, quotes and line feeds can stand between single quotes. -/
theorem body_of_plain {body : List Char} (single : opening.triple = false)
    (plain : ∀ c ∈ body, c ≠ '\\' ∧ c ≠ opening.quote ∧ c ≠ '\n') : opening.Body body := by
  induction body with
  | nil => exact .nothing
  | cons c rest inductionHypothesis =>
      obtain ⟨notEscape, notQuote, notBreak⟩ := plain c (List.mem_cons_self ..)
      refine .char notEscape ?_ (Or.inr notBreak)
        (inductionHypothesis fun d member => plain d (List.mem_cons_of_mem _ member))
      rw [Opening.delimiter_of_single single]
      rintro ⟨behind, same⟩
      exact notQuote (List.cons.inj same).1.symm

theorem Opening.exists_delimiter (opening : Opening) :
    ∃ more, opening.delimiter = opening.quote :: more := by
  unfold Opening.delimiter
  split
  · exact ⟨_, rfl⟩
  · exact ⟨[], rfl⟩

theorem Opening.closes_iff {text : List Char} :
    opening.closes text = true ↔ opening.delimiter <+: text := by
  rw [Opening.closes, List.isPrefixOf_iff_prefix]
  rfl

/-- The body ends where the delimiter stands. -/
theorem Opening.splitBody_body {body : List Char} (grammar : opening.Body body)
    (quoted : opening.quote = '"' ∨ opening.quote = '\'') :
    opening.splitBody (body ++ opening.delimiter) = some (body, []) := by
  have notSlash : ∀ text : List Char, ¬ opening.delimiter <+: '\\' :: text := by
    rintro text ⟨rest, whole⟩
    unfold Opening.delimiter at whole
    rcases quoted with same | same <;> rw [same] at whole <;> split at whole <;>
      cases (List.cons.inj whole).1
  induction grammar with
  | nothing =>
      unfold Opening.delimiter
      split
      · rename_i triple
        rw [List.nil_append, Opening.splitBody, if_pos (by simp [Opening.closes, triple])]
        simp [triple]
      · rename_i single
        rw [List.nil_append, Opening.splitBody, if_pos (by simp [Opening.closes, single])]
        simp [single]
  | @char c rest notEscape notClosed onLine more inductionHypothesis =>
      have goesOn : ¬ (decide (c = '\n') && !opening.triple) = true := by
        rcases onLine with triple | noBreak <;> simp [*]
      rw [List.cons_append, Opening.splitBody.eq_def]
      dsimp only
      rw [if_neg fun closes => notClosed (Opening.closes_iff.1 closes), if_neg goesOn,
        if_neg notEscape, inductionHypothesis]
      rfl
  | @escape c rest more inductionHypothesis =>
      rw [List.cons_append, List.cons_append, Opening.splitBody.eq_def]
      dsimp only
      rw [if_neg fun closes => notSlash _ (Opening.closes_iff.1 closes), if_neg (by simp),
        if_pos rfl, inductionHypothesis]
      rfl

/-- A body between single quotes does not begin with a quote. -/
theorem Opening.Body.head?_ne {body : List Char} (grammar : opening.Body body)
    (single : opening.triple = false) (quoted : opening.quote = '"' ∨ opening.quote = '\'') :
    body.head? ≠ some opening.quote := by
  cases grammar with
  | nothing => simp
  | @char c rest notEscape notClosed onLine more =>
      intro same
      obtain rfl := Option.some.inj same
      refine notClosed ?_
      rw [Opening.delimiter_of_single single]
      exact ⟨rest ++ [opening.quote], rfl⟩
  | @escape c rest more =>
      intro same
      rw [← Option.some.inj same] at quoted
      simp at quoted

end

namespace Literal

variable {literal : Literal}

/-- The quotes are read as they were written. -/
theorem readQuotes_delimiter {body : List Char} (opening : Opening)
    (quoted : opening.quote = '"' ∨ opening.quote = '\'') (grammar : opening.Body body) :
    readQuotes opening.raw (opening.delimiter ++ (body ++ opening.delimiter)) =
      some (opening, body ++ opening.delimiter) := by
  have first := fun single => grammar.head?_ne single quoted
  obtain ⟨quote, triple, raw⟩ := opening
  dsimp only at quoted
  cases triple with
  | true => rcases quoted with rfl | rfl <;> rfl
  | false =>
      have first := first rfl
      unfold Opening.delimiter
      dsimp only at first ⊢
      rw [if_neg Bool.false_ne_true]
      cases body with
      | nil => rcases quoted with rfl | rfl <;> rfl
      | cons c rest =>
          have other : c ≠ quote := fun same => first (congrArg some same)
          rcases quoted with rfl | rfl
          · rw [List.singleton_append, List.cons_append, readQuotes.eq_3]
            rintro others same
            exact other (List.cons.inj same).1
          · rw [List.singleton_append, List.cons_append, readQuotes.eq_4]
            rintro others same
            exact other (List.cons.inj same).1

def IsMark (c : Char) : Prop := c ∈ ['"', '\'', 'r', 'R', 'u', 'U']

instance (c : Char) : Decidable (IsMark c) := inferInstanceAs (Decidable (c ∈ _))

/-- There is at most one letter. -/
theorem Valid.letters_cases (valid : literal.Valid) :
    literal.letters = [] ∨
      ∃ letter, literal.letters = [letter] ∧
        (letter = 'r' ∨ letter = 'R' ∨ letter = 'u' ∨ letter = 'U') := by
  have letters := valid.letters
  split at letters <;> simp only [List.mem_cons, List.not_mem_nil, or_false] at letters
  · rcases letters with same | same
    · exact Or.inr ⟨'r', same, by simp⟩
    · exact Or.inr ⟨'R', same, by simp⟩
  · rcases letters with same | same | same
    · exact Or.inl same
    · exact Or.inr ⟨'u', same, by simp⟩
    · exact Or.inr ⟨'U', same, by simp⟩

theorem isMark_of_mem_letters (valid : literal.Valid) {c : Char} (member : c ∈ literal.letters) :
    IsMark c := by
  rcases valid.letters_cases with none | ⟨letter, single, known⟩
  · rw [none] at member
    cases member
  · rw [single, List.mem_singleton] at member
    rw [member]
    rcases known with rfl | rfl | rfl | rfl <;> decide

theorem isMark_of_mem_delimiter (valid : literal.Valid) {c : Char}
    (member : c ∈ literal.opening.delimiter) : IsMark c := by
  have same : c = literal.opening.quote := by
    unfold Opening.delimiter at member
    split at member <;> simpa using member
  rw [same]
  rcases valid.quoted with quote | quote <;> rw [quote] <;> decide

theorem Valid.exists_cons (valid : literal.Valid) :
    ∃ first rest, literal.text = first :: rest ∧ IsMark first := by
  obtain ⟨more, delimiter⟩ := literal.opening.exists_delimiter
  have inLetters : ∀ c ∈ literal.letters, IsMark c := fun c => isMark_of_mem_letters valid
  have quote : IsMark literal.opening.quote :=
    isMark_of_mem_delimiter valid (by rw [delimiter]; exact List.mem_cons_self ..)
  unfold text
  rw [delimiter]
  cases spelled : literal.letters with
  | nil => exact ⟨literal.opening.quote, _, rfl, quote⟩
  | cons letter others => exact ⟨letter, _, rfl, inLetters letter (by simp [spelled])⟩

/-- The literal after all its line ends have become line feeds. -/
def unified (literal : Literal) : Literal := { literal with body := unifyLineEnds literal.body }

theorem unifyLineEnds_text (valid : literal.Valid) :
    unifyLineEnds literal.text = literal.unified.text := by
  have noReturn : '\r' ∉ literal.opening.delimiter := fun member =>
    absurd (isMark_of_mem_delimiter valid member) (by decide)
  have noReturn' : '\r' ∉ literal.letters := fun member =>
    absurd (isMark_of_mem_letters valid member) (by decide)
  have noFeed : literal.opening.delimiter.head? ≠ some '\n' := fun first =>
    absurd (isMark_of_mem_delimiter valid (List.mem_of_head? first)) (by decide)
  unfold text
  rw [unifyLineEnds_chars noReturn', unifyLineEnds_chars noReturn,
    unifyLineEnds_append _ noFeed, unifyLineEnds_of_noReturn noReturn]
  rfl

theorem null_notMem_text (valid : literal.Valid) : '\x00' ∉ literal.text := by
  have inDelimiter : '\x00' ∉ literal.opening.delimiter := fun member =>
    absurd (isMark_of_mem_delimiter valid member) (by decide)
  have inLetters : '\x00' ∉ literal.letters := fun member =>
    absurd (isMark_of_mem_letters valid member) (by decide)
  unfold text
  simp [inDelimiter, inLetters, valid.noNull]

theorem readOpening_letters {letters rest : List Char} {raw : Bool} {quote : Char}
    (spelled : letters ∈ if raw then [['r'], ['R']] else [[], ['u'], ['U']])
    (quoted : quote = '"' ∨ quote = '\'') :
    readOpening (letters ++ quote :: rest) = readQuotes raw (quote :: rest) := by
  cases raw with
  | true =>
      rw [if_pos rfl, List.mem_cons, List.mem_singleton] at spelled
      rcases spelled with rfl | rfl <;> rfl
  | false =>
      rw [if_neg Bool.false_ne_true] at spelled
      simp only [List.mem_cons, List.not_mem_nil, or_false] at spelled
      rcases spelled with rfl | rfl | rfl
      · rcases quoted with rfl | rfl <;> rfl
      · rfl
      · rfl

/-- A literal is read to its end, as the grammar says. -/
theorem readLiteral_text {value : Points} (valid : literal.Valid)
    (denoted : literal.Denotes value) :
    readLiteral literal.unified.text = some (value, []) := by
  have opened : readOpening literal.unified.text =
      some (literal.opening, unifyLineEnds literal.body ++ literal.opening.delimiter) := by
    have quotes := readQuotes_delimiter literal.opening valid.quoted valid.body
    obtain ⟨more, delimiter⟩ := literal.opening.exists_delimiter
    unfold text unified
    dsimp only
    rw [delimiter] at quotes ⊢
    rw [List.cons_append, readOpening_letters valid.letters valid.quoted]
    exact quotes
  unfold Denotes at denoted
  simp only [readLiteral, opened, Opening.splitBody_body valid.body valid.quoted,
    Option.bind_eq_bind, Option.bind_some]
  cases raw : literal.opening.raw with
  | true =>
      rw [raw, if_pos rfl] at denoted
      rw [if_pos rfl, denoted]
  | false =>
      rw [raw, if_neg Bool.false_ne_true] at denoted
      rw [if_neg Bool.false_ne_true, unescape, unescapeWithin_unescaped denoted (Nat.le_refl _)]
      rfl

/-- No layout is skipped in front of a literal. -/
theorem layout_of_isMark {first : Char} (mark : IsMark first) (rest : List Char) (fuel : Nat) :
    (first :: rest).dropWhile (fun c => c == ' ' || c == '\t') = first :: rest ∧
      skipLines (fuel + 1) (first :: rest) = some (first :: rest) ∧
      readParentheses (fuel + 1) (first :: rest) = some (0, first :: rest) := by
  unfold IsMark at mark
  simp only [List.mem_cons, List.not_mem_nil, or_false] at mark
  rcases mark with rfl | rfl | rfl | rfl | rfl | rfl <;> exact ⟨rfl, rfl, rfl⟩

/-- **A literal by the grammar has the value that the grammar gives it.** -/
theorem literalValue?_literal {value : Points} (valid : literal.Valid)
    (denoted : literal.Denotes value) : literalValue? literal.text = some value := by
  have read := readLiteral_text valid denoted
  have noNull : (!literal.text.contains '\x00') = true := by
    simpa using null_notMem_text valid
  have unified := unifyLineEnds_text valid
  obtain ⟨first, rest, whole, mark⟩ := valid.exists_cons
  have noReturn : first ≠ '\r' := by
    rintro rfl
    exact absurd mark (by decide)
  have unified' : literal.unified.text = first :: unifyLineEnds rest := by
    rw [← unified, whole, unifyLineEnds_char noReturn]
  obtain ⟨noBlank, -, -⟩ := layout_of_isMark mark rest 0
  obtain ⟨-, noLines, noParentheses⟩ :=
    layout_of_isMark mark (unifyLineEnds rest) literal.unified.text.length
  rw [← whole] at noBlank
  rw [← unified'] at noLines noParentheses
  have readAll : readLiterals false (literal.unified.text.length + 1) literal.unified.text =
      some (value, []) := by
    rw [readLiterals, read]
    rfl
  unfold literalValue?
  rw [noNull, noBlank, unified]
  refine Option.bind_eq_some_iff.2 ⟨(), rfl, ?_⟩
  refine Option.bind_eq_some_iff.2 ⟨_, noLines, ?_⟩
  refine Option.bind_eq_some_iff.2 ⟨_, noParentheses, ?_⟩
  exact Option.bind_eq_some_iff.2 ⟨_, readAll, rfl⟩

end Literal

end ModuleGlue.Text
