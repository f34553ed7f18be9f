import Mathlib.Data.List.Induction
import ModuleGlue.Proofs.Directive.TokenPlaces

/-!
Contract: how tokens and layout cover a text.

A text is layout and tokens in turn. Layout is blanks, comments up to the end of their line, and
backslashes that continue a line; everything else belongs to a token.

Main statement: `tokenize_covers`. In a file, the tokens of a piece of text stand one behind the
other with nothing but layout between them, and each span marks exactly the text of its token.

Owns: the region that a span marks, what layout is, and the division of a text.

Does not own: what the tokens mean.
-/

namespace ModuleGlue

/-! ## Regions -/

namespace Position

def Before (first second : Position) : Prop :=
  first.line < second.line ∨ first.line = second.line ∧ first.column < second.column

instance (first second : Position) : Decidable (first.Before second) :=
  inferInstanceAs (Decidable (_ ∨ _))

theorem not_before_self (position : Position) : ¬ position.Before position := by
  unfold Before
  omega

theorem Before.trans {first second third : Position} (before : first.Before second)
    (behind : second.Before third) : first.Before third := by
  unfold Before at *
  omega

theorem Before.asymm {first second : Position} (before : first.Before second) :
    ¬ second.Before first :=
  fun behind => not_before_self first (before.trans behind)

theorem before_step (position : Position) (c : Char) : position.Before (position.step c) := by
  unfold step
  split
  · left
    change position.line < position.line + 1
    omega
  · right
    refine ⟨rfl, ?_⟩
    change position.column < position.column + 1
    omega

/-- Text moves a position, unless it is empty. -/
theorem before_advance (position : Position) {text : List Char} (some : text ≠ []) :
    position.Before (position.advance text) := by
  induction text generalizing position with
  | nil => exact absurd rfl some
  | cons c rest inductionHypothesis =>
      rw [advance_cons]
      have here := position.before_step c
      by_cases last : rest = []
      · rw [last]
        exact here
      · exact here.trans (inductionHypothesis (position.step c) last)

/-- Text never moves a position back. -/
theorem not_advance_before (position : Position) (text : List Char) :
    ¬ (position.advance text).Before position := by
  by_cases empty : text = []
  · rw [empty]
    exact not_before_self position
  · exact (position.before_advance empty).asymm

/-- A step in a fragment is a step in the file. -/
theorem rebase_step {place : Position} (counted : 1 ≤ place.line) (base : Position) (c : Char) :
    (place.step c).rebase base = (place.rebase base).step c := by
  obtain ⟨line, column⟩ := place
  dsimp only at counted
  unfold step rebase
  by_cases ends : c = '\n'
  · have later : line + 1 ≠ 1 := by omega
    simp only [if_pos ends, if_neg later]
    split
    · rw [Position.mk.injEq]
      dsimp only
      omega
    · rw [Position.mk.injEq]
      dsimp only
      omega
  · simp only [if_neg ends]
    split
    · rw [Int.add_assoc]
    · rfl

/-- A place that is measured along a fragment is moved to the place along the file. -/
theorem rebase_advance (base : Position) (text : List Char) :
    (origin.advance text).rebase base = base.advance text := by
  induction text using List.reverseRecOn with
  | nil =>
      change (⟨base.line, base.column + 0⟩ : Position) = base
      rw [Int.add_zero]
  | append_singleton front c inductionHypothesis =>
      have counted : 1 ≤ (origin.advance front).line := by
        have forward := origin.not_advance_before front
        unfold Before at forward
        have first : origin.line = 1 := rfl
        omega
      rw [advance_append, advance_append, advance_cons, advance_cons, advance_nil, advance_nil,
        rebase_step counted, inductionHypothesis]

end Position

namespace Span

/-- Does a character at a position stand in the span? -/
def Marks (span : Span) (position : Position) : Prop :=
  ¬ position.Before span.start ∧ position.Before span.stop

instance (span : Span) (position : Position) : Decidable (span.Marks position) :=
  inferInstanceAs (Decidable (_ ∧ _))

/-- The characters in the span, of a text that begins at a position. -/
def regionFrom (span : Span) (position : Position) : List Char → List Char
  | [] => []
  | c :: rest =>
    if span.Marks position then c :: span.regionFrom (position.step c) rest
    else span.regionFrom (position.step c) rest

/-- The characters in the span, of the text of a file. -/
def region (span : Span) (text : List Char) : List Char := span.regionFrom .origin text

theorem regionFrom_append (span : Span) (position : Position) (first second : List Char) :
    span.regionFrom position (first ++ second) =
      span.regionFrom position first ++ span.regionFrom (position.advance first) second := by
  induction first generalizing position with
  | nil => rfl
  | cons c rest inductionHypothesis =>
      rw [List.cons_append, regionFrom, regionFrom, Position.advance_cons, inductionHypothesis]
      split <;> rfl

/-- Nothing in front of the span is in it. -/
theorem regionFrom_of_front {span : Span} {position : Position} {text : List Char}
    (front : ¬ span.start.Before (position.advance text)) : span.regionFrom position text = [] := by
  induction text generalizing position with
  | nil => rfl
  | cons c rest inductionHypothesis =>
      rw [Position.advance_cons] at front
      have outside : ¬ span.Marks position := by
        intro marks
        have later : position.Before ((position.step c).advance rest) :=
          position.before_advance (List.cons_ne_nil c rest)
        unfold Marks at marks
        unfold Position.Before at *
        omega
      rw [regionFrom, if_neg outside]
      exact inductionHypothesis front

/-- Nothing behind the span is in it. -/
theorem regionFrom_of_behind {span : Span} {position : Position} (text : List Char)
    (behind : ¬ position.Before span.stop) : span.regionFrom position text = [] := by
  induction text generalizing position with
  | nil => rfl
  | cons c rest inductionHypothesis =>
      rw [regionFrom, if_neg fun marks => behind marks.2]
      exact inductionHypothesis fun before => behind ((position.before_step c).trans before)

/-- Everything between the ends of the span is in it. -/
theorem regionFrom_of_inside {span : Span} {position : Position} {text : List Char}
    (begins : ¬ position.Before span.start) (ends : position.advance text = span.stop) :
    span.regionFrom position text = text := by
  induction text generalizing position with
  | nil => rfl
  | cons c rest inductionHypothesis =>
      have step := position.before_step c
      have marks : span.Marks position :=
        ⟨begins, ends ▸ position.before_advance (List.cons_ne_nil c rest)⟩
      rw [regionFrom, if_pos marks,
        inductionHypothesis (fun before => begins (step.trans before)) ends]

/-- **A span marks the text between its ends.** -/
theorem region_eq {span : Span} {before middle after : List Char}
    (start : span.start = Position.origin.advance before)
    (stop : span.stop = Position.origin.advance (before ++ middle)) :
    span.region (before ++ middle ++ after) = middle := by
  unfold region
  rw [regionFrom_append, regionFrom_append, ← stop]
  have front : span.regionFrom .origin before = [] :=
    regionFrom_of_front (start ▸ Position.not_before_self _)
  have inside : span.regionFrom (Position.origin.advance before) middle = middle := by
    refine regionFrom_of_inside (start ▸ Position.not_before_self _) ?_
    rw [stop, Position.advance_append]
  rw [front, inside, regionFrom_of_behind after (Position.not_before_self _), List.append_nil]
  rfl

end Span

namespace Directive

open ModuleGlue.Text

/-! ## Layout -/

/-- The text behind some layout is at the end of its line. -/
def EndsLine (text : List Char) : Prop := ∀ c, text.head? = some c → c = '\n'

/-- Some layout, and the text behind it: blanks, backslashes that continue a line, and comments,
each of which goes on to the end of its line. -/
inductive Layout : List Char → List Char → Prop where
  | none (after : List Char) : Layout [] after
  | blank {c : Char} {rest after : List Char} (white : isBlank c = true)
      (more : Layout rest after) : Layout (c :: rest) after
  | continuation {rest after : List Char} (more : Layout rest after) :
      Layout ('\\' :: '\n' :: rest) after
  | comment {words rest after : List Char} (line : '\n' ∉ words) (ends : EndsLine (rest ++ after))
      (more : Layout rest after) : Layout ('#' :: (words ++ rest)) after

/-- What is skipped inside a comment is the rest of the comment, and then more layout. -/
def CommentRest (layout after : List Char) : Prop :=
  ∃ words rest, layout = words ++ rest ∧ '\n' ∉ words ∧ EndsLine (rest ++ after) ∧
    Layout rest after

theorem splitLayoutWithin_layout (inComment : Bool) (text : List Char) :
    let found := splitLayoutWithin inComment text
    if inComment then CommentRest found.1 found.2 else Layout found.1 found.2 := by
  fun_induction splitLayoutWithin inComment text with
  | case1 inComment =>
      cases inComment with
      | false => exact .none []
      | true =>
          refine ⟨[], [], rfl, List.not_mem_nil, ?_, .none []⟩
          intro c first
          cases first
  | case2 c rest inductionHypothesis =>
      rw [if_pos rfl]
      by_cases break_ : c = '\n'
      · have ended : (c != '\n') = false := by rw [break_]; rfl
        rw [ended, if_neg Bool.false_ne_true] at inductionHypothesis
        rw [ended]
        refine ⟨[], _, rfl, List.not_mem_nil, ?_,
          .blank (by rw [break_]; decide) inductionHypothesis⟩
        intro first same
        rw [← Option.some.inj same, break_]
      · have goesOn : (c != '\n') = true := bne_iff_ne.2 break_
        rw [goesOn, if_pos rfl] at inductionHypothesis
        rw [goesOn]
        obtain ⟨words, others, split, line, ends, more⟩ := inductionHypothesis
        refine ⟨c :: words, others, congrArg (c :: ·) split, ?_, ends, more⟩
        intro member
        rcases List.mem_cons.1 member with same | inside
        · exact break_ same.symm
        · exact line inside
  | case3 rest inductionHypothesis => exact .continuation inductionHypothesis
  | case4 c rest notContinued blank inductionHypothesis => exact .blank blank inductionHypothesis
  | case5 rest notContinued notBlank inductionHypothesis =>
      obtain ⟨words, others, split, line, ends, more⟩ := inductionHypothesis
      rw [if_neg Bool.false_ne_true]
      dsimp only [splitLayoutWithin.consLayout]
      rw [split]
      exact .comment line ends more
  | case6 c rest notContinued notBlank notComment => exact .none _

/-- What is skipped before a token is layout. -/
theorem splitLayout_layout (text : List Char) :
    Layout (splitLayout text).1 (splitLayout text).2 :=
  splitLayoutWithin_layout false text

/-! ## Division -/

/-- A text that begins at a position, divided into tokens with layout before each of them and at
the end. The spans are measured along the text. -/
inductive Divided : Position → List Char → List Token → Prop where
  | layout {position : Position} {text : List Char} (skipped : Layout text []) :
      Divided position text []
  | token {position : Position} {layout after : List Char} {token : Token} {others : List Token}
      (skipped : Layout layout (token.text.toList ++ after))
      (nonempty : token.text.toList ≠ [])
      (start : token.span.start = position.advance layout)
      (stop : token.span.stop = position.advance (layout ++ token.text.toList))
      (more : Divided token.span.stop after others) :
      Divided position (layout ++ (token.text.toList ++ after)) (token :: others)

/-- The lexer divides every text. -/
theorem tokensFrom_divided (position : Position) (text : List Char) :
    Divided position text (tokensFrom position text) := by
  fun_induction tokensFrom position text with
  | case1 position text layout division =>
      have whole := splitLayout_append text
      have skipped := splitLayout_layout text
      rw [division] at whole skipped
      dsimp only at whole skipped
      rw [List.append_nil] at whole
      exact .layout (whole ▸ skipped)
  | case2 position text layout first rest division start found stop inductionHypothesis =>
      have whole := splitLayout_append text
      have skipped := splitLayout_layout text
      rw [division, ← lexeme_append first rest] at whole skipped
      let token : Token := ⟨found.1, String.ofList found.2.1, ⟨start, stop⟩⟩
      have spelled : token.text.toList = found.2.1 := String.toList_ofList
      have split : layout ++ (token.text.toList ++ found.2.2) = text := spelled ▸ whole
      rw [← split]
      refine @Divided.token position layout found.2.2 token _ (spelled ▸ skipped) ?_ rfl ?_
        inductionHypothesis
      · rw [spelled]
        exact lexeme_ne_nil first rest
      · rw [spelled, Position.advance_append]

/-- The token at its place in a file, in which the text begins at `base`. -/
def Token.rebase (token : Token) (base : Position) : Token :=
  { token with span := ⟨token.span.start.rebase base, token.span.stop.rebase base⟩ }

/-- In the file, a text is divided as it is by itself. -/
theorem Divided.rebase {front text : List Char} {tokens : List Token}
    (divided : Divided (Position.origin.advance front) text tokens) (base : Position) :
    Divided (base.advance front) text (tokens.map fun token => token.rebase base) := by
  generalize reached : Position.origin.advance front = position at divided
  induction divided generalizing front with
  | layout skipped => exact .layout skipped
  | @token position layout after token others skipped nonempty start stop more
      inductionHypothesis =>
      rw [List.map_cons]
      have along : ∀ text : List Char,
          (position.advance text).rebase base = (base.advance front).advance text := by
        intro text
        rw [← reached, ← Position.advance_append, ← Position.advance_append,
          Position.rebase_advance]
      refine @Divided.token _ layout after (token.rebase base) _ skipped nonempty ?_ ?_ ?_
      · exact (congrArg (·.rebase base) start).trans (along layout)
      · exact (congrArg (·.rebase base) stop).trans (along (layout ++ token.text.toList))
      · have behind := @inductionHypothesis (front ++ (layout ++ token.text.toList)) (by
          rw [stop, ← reached, Position.advance_append])
        have stopped : (token.rebase base).span.stop =
            base.advance (front ++ (layout ++ token.text.toList)) := by
          rw [Position.advance_append]
          exact (congrArg (·.rebase base) stop).trans (along (layout ++ token.text.toList))
        rw [stopped]
        exact behind

section
variable {position : Position} {text : List Char} {tokens : List Token}

/-- A token of a divided text stands in it. -/
theorem Divided.exists_stands (divided : Divided position text tokens) :
    ∀ token ∈ tokens, ∃ before after, token.Stands position text before after := by
  induction divided with
  | layout skipped => exact fun token member => nomatch member
  | @token position layout after token others skipped nonempty start stop more
      inductionHypothesis =>
      intro other member
      rcases List.mem_cons.1 member with rfl | later
      · exact ⟨layout, after, rfl, nonempty, start, stop⟩
      · obtain ⟨before, rest, stands⟩ := inductionHypothesis other later
        rw [stop] at stands
        rw [← List.append_assoc]
        exact ⟨_, rest, stands.behind (layout ++ token.text.toList)⟩

/-- The tokens of a divided text stand one behind the other. -/
theorem Divided.pairwise (divided : Divided position text tokens) :
    tokens.Pairwise fun first second => ¬ second.span.start.Before first.span.stop := by
  induction divided with
  | layout skipped => exact .nil
  | @token position layout after token others skipped nonempty start stop more
      inductionHypothesis =>
      refine .cons (fun other member => ?_) inductionHypothesis
      obtain ⟨before, rest, stands⟩ := more.exists_stands other member
      rw [stands.start]
      exact Position.not_advance_before _ before

end

/-- **Tokens and layout cover a text, and spans are exact.** Let a text stand in a file, and let its
tokens be placed from where it begins there. Then the text is layout and tokens in turn; the tokens
are not empty and stand one behind the other; and in the file, the span of a token marks the text of
that token and nothing else. -/
theorem tokenize_covers (before text after : String) {origin : Span}
    (begins : origin.start = Position.origin.advance before.toList) :
    Divided origin.start text.toList (tokenize text (some origin)) ∧
      ((tokenize text (some origin)).Pairwise fun first second =>
        ¬ second.span.start.Before first.span.stop) ∧
      ∀ token ∈ tokenize text (some origin), token.text ≠ "" ∧
        token.span.start.Before token.span.stop ∧
        token.span.region (before ++ text ++ after).toList = token.text.toList := by
  have divided : Divided origin.start text.toList (tokenize text (some origin)) :=
    (tokensFrom_divided (Position.origin.advance []) text.toList).rebase origin.start
  refine ⟨divided, divided.pairwise, fun token member => ?_⟩
  obtain ⟨front, rest, stands⟩ := divided.exists_stands token member
  refine ⟨?_, ?_, ?_⟩
  · intro empty
    exact stands.nonempty (by rw [empty]; rfl)
  · rw [stands.start, stands.stop, Position.advance_append]
    exact Position.before_advance _ stands.nonempty
  · have whole : (before ++ text ++ after).toList =
        (before.toList ++ front) ++ token.text.toList ++ (rest ++ after.toList) := by
      rw [String.toList_append, String.toList_append, stands.text_eq]
      simp only [List.append_assoc]
    rw [whole]
    refine Span.region_eq ?_ ?_
    · rw [stands.start, begins, Position.advance_append]
    · rw [stands.stop, begins, List.append_assoc, ← Position.advance_append]

/-- A comment, a string of two lines, a backslash that continues nothing, and a quote that is never
closed. -/
def unclosedArguments : String := "m, # all\n \"\"\"a\nb\"\"\" \\ 'c"

/-- Where they stand in a file, behind an opening parenthesis. -/
def unclosedOrigin : Span := ⟨⟨2, 2⟩, ⟨2, 3⟩⟩

theorem tokenize_covers_unclosedArguments :
    unclosedOrigin.start = Position.origin.advance "@f\n (".toList ∧
      (tokenize unclosedArguments (some unclosedOrigin)).map
          (fun token => (token.text, token.span)) =
        [("m", ⟨⟨2, 2⟩, ⟨2, 3⟩⟩), (",", ⟨⟨2, 3⟩, ⟨2, 4⟩⟩),
          ("\"\"\"a\nb\"\"\"", ⟨⟨3, 1⟩, ⟨4, 4⟩⟩), ("\\", ⟨⟨4, 5⟩, ⟨4, 6⟩⟩),
          ("'", ⟨⟨4, 7⟩, ⟨4, 8⟩⟩), ("c", ⟨⟨4, 8⟩, ⟨4, 9⟩⟩)] ∧
      Divided unclosedOrigin.start unclosedArguments.toList
        (tokenize unclosedArguments (some unclosedOrigin)) ∧
      ∀ token ∈ tokenize unclosedArguments (some unclosedOrigin),
        token.span.region ("@f\n (" ++ unclosedArguments ++ ")\n").toList = token.text.toList := by
  have begins : unclosedOrigin.start = Position.origin.advance "@f\n (".toList := by decide
  obtain ⟨divided, -, each⟩ := tokenize_covers "@f\n (" unclosedArguments ")\n" begins
  refine ⟨begins, ?_, divided, fun token member => (each token member).2.2⟩
  decide +kernel

end Directive

end ModuleGlue
