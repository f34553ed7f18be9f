import Mathlib.Data.List.Chain
import Mathlib.Data.List.Induction
import ModuleGlue.Source.Token
import ModuleGlue.Proofs.Source.Glyphs

/-!
Contract: places in a file, and places in a fragment of it that was written alone.

A fragment loses the margin of its block, and only line feeds count as breaks in it. A place that
was measured in the fragment and moved to where the fragment begins is the true place in the file
exactly if nothing was lost up to there.

Main statements: `advanceLines_append` (places along a file), `Agrees.step` and `agrees_along` (the
two measures, side by side), and `rebase_eq_iff`.

Owns: the two measures and what the fragment omits.

Does not own: which fragments are measured.
-/

namespace ModuleGlue.Source

/-! ## Places in a file -/

/-- A place in a file; `afterReturn` tells whether a carriage return stands before it, to which a
line feed would still belong. -/
structure Reached where
  position : Position
  afterReturn : Bool

namespace Reached

def step (reached : Reached) (c : Char) : Reached :=
  if c = '\r' then ⟨⟨reached.position.line + 1, 0⟩, true⟩
  else if c = '\n' then
    if reached.afterReturn then ⟨reached.position, false⟩
    else ⟨⟨reached.position.line + 1, 0⟩, false⟩
  else ⟨⟨reached.position.line, reached.position.column + 1⟩, false⟩

def walk (reached : Reached) (text : List Char) : Reached := text.foldl step reached

@[simp] theorem walk_nil (reached : Reached) : reached.walk [] = reached := rfl

@[simp] theorem walk_cons (reached : Reached) (c : Char) (text : List Char) :
    reached.walk (c :: text) = (reached.step c).walk text := rfl

theorem walk_append (reached : Reached) (first second : List Char) :
    reached.walk (first ++ second) = (reached.walk first).walk second := List.foldl_append

/-- Only a line feed tells whether a carriage return stands before it. -/
theorem walk_position_of_head (reached : Reached) {text : List Char}
    (head : text.head? ≠ some '\n') :
    (reached.walk text).position = (Reached.walk ⟨reached.position, false⟩ text).position := by
  cases text with
  | nil => rfl
  | cons c rest =>
      have notFeed : c ≠ '\n' := fun same => head (congrArg some same)
      rw [walk_cons, walk_cons]
      unfold step
      rw [if_neg notFeed, if_neg notFeed]

/-- A character that is no break only moves the column. -/
theorem step_of_plain (reached : Reached) {c : Char} (plain : isBreak c = false) :
    reached.step c = ⟨⟨reached.position.line, reached.position.column + 1⟩, false⟩ := by
  have notReturn : c ≠ '\r' := by
    rintro rfl
    exact Bool.noConfusion plain
  have notFeed : c ≠ '\n' := by
    rintro rfl
    exact Bool.noConfusion plain
  unfold step
  rw [if_neg notReturn, if_neg notFeed]

theorem walk_of_plain (reached : Reached) {text : List Char} (nonempty : text ≠ [])
    (plain : ∀ c ∈ text, isBreak c = false) :
    reached.walk text =
      ⟨⟨reached.position.line, reached.position.column + text.length⟩, false⟩ := by
  induction text generalizing reached with
  | nil => exact absurd rfl nonempty
  | cons c rest inductionHypothesis =>
      rw [walk_cons, step_of_plain reached (plain c (List.mem_cons_self ..))]
      cases rest with
      | nil => rfl
      | cons d more =>
          rw [inductionHypothesis _ (List.cons_ne_nil d more) fun other member =>
            plain other (List.mem_cons_of_mem c member)]
          simp only [List.length_cons, Reached.mk.injEq, Position.mk.injEq, and_true, true_and]
          omega

end Reached

/-- Walking is counting lines. -/
theorem advanceLines_eq_walk (position : Position) (text : List Char) :
    advanceLines position text = (Reached.walk ⟨position, false⟩ text).position := by
  fun_induction advanceLines position text with
  | case1 position => rfl
  | case2 position rest inductionHypothesis =>
      rw [inductionHypothesis]
      rfl
  | case3 position c rest notBoth break' inductionHypothesis =>
      rw [inductionHypothesis, Reached.walk_cons]
      unfold Reached.step
      by_cases isReturn : c = '\r'
      · rw [if_pos isReturn]
        have head : rest.head? ≠ some '\n' := by
          intro feed
          cases rest with
          | nil => cases feed
          | cons d more =>
              obtain rfl := Option.some.inj feed
              exact notBoth more isReturn rfl
        exact (Reached.walk_position_of_head ⟨_, true⟩ head).symm
      · have isFeed : c = '\n' := by simpa [isBreak, isReturn] using break'
        rw [if_neg isReturn, if_pos isFeed]
        rfl
  | case4 position c rest notBoth notBreak inductionHypothesis =>
      rw [inductionHypothesis, Reached.walk_cons,
        Reached.step_of_plain _ (Bool.eq_false_iff.2 notBreak)]

/-- Counting goes on from a place, unless a break is cut in two there. -/
theorem advanceLines_append (position : Position) (first : List Char) {second : List Char}
    (head : second.head? ≠ some '\n') :
    advanceLines position (first ++ second) =
      advanceLines (advanceLines position first) second := by
  rw [advanceLines_eq_walk, Reached.walk_append, Reached.walk_position_of_head _ head,
    advanceLines_eq_walk _ second, advanceLines_eq_walk position first]

/-! ## What a fragment omits -/

/-- What a fragment lost up to a place: how many breaks of the file are none in the fragment, being
carriage returns that no line feed follows; and how many margins on the current line. `afterReturn`
tells whether a carriage return stands before the place. -/
structure Omission where
  returns : Nat
  margins : Nat
  afterReturn : Bool
deriving DecidableEq, Repr

namespace Omission

/-- What is lost after one more glyph. A line feed makes good for the carriage return before it. -/
def step (omission : Omission) : Glyph → Omission
  | .written c =>
    if c = '\r' then ⟨omission.returns + 1, omission.margins, true⟩
    else if c = '\n' then
      ⟨if omission.afterReturn then omission.returns - 1 else omission.returns, 0, false⟩
    else ⟨omission.returns, omission.margins, false⟩
  | .usualBreak => ⟨omission.returns, 0, false⟩
  | .margin => ⟨omission.returns, omission.margins + 1, false⟩

def along (glyphs : List Glyph) : Omission := glyphs.foldl step ⟨0, 0, false⟩

theorem along_concat (glyphs : List Glyph) (glyph : Glyph) :
    along (glyphs ++ [glyph]) = (along glyphs).step glyph := List.foldl_append

/-- Nothing is lost that matters for the place reached. -/
def IsNone (omission : Omission) : Prop := omission.returns = 0 ∧ omission.margins = 0

end Omission

/-! ## Both measures side by side -/

/-- Two glyphs do not make up one break, unless both are the code's own characters. -/
def Glyph.Apart (style : Style) (margin : String) (first second : Glyph) : Prop :=
  (first.render style margin).getLast? = some '\r' →
    (second.render style margin).head? = some '\n' →
      first = .written '\r' ∧ second = .written '\n'

instance (style : Style) (margin : String) (first second : Glyph) :
    Decidable (Glyph.Apart style margin first second) := by
  unfold Glyph.Apart
  infer_instance

/-- Glyphs as they are read from a file: the usual break is one, a margin holds none, and no break
is cut in two. -/
structure Settled (style : Style) (margin : String) (glyphs : List Glyph) : Prop where
  newline : style.newline = "\n" ∨ style.newline = "\r\n" ∨ style.newline = "\r"
  margin_plain : ∀ c ∈ margin.toList, isBreak c = false
  apart : glyphs.IsChain (Glyph.Apart style margin)
  head : (Glyph.renderAll style margin glyphs).head? ≠ some '\n'

/-- The place in the file, the place in the fragment, and what was omitted, after a row of glyphs
that begins at `start` and ends with `last`. -/
structure Agrees (style : Style) (margin : String) (start : Position) (reached : Reached)
    (alone : Position) (omission : Omission) (last : Option Glyph) : Prop where
  line_pos : 1 ≤ alone.line
  line : reached.position.line = start.line + (alone.line - 1) + omission.returns
  column : omission.returns = 0 → reached.position.column =
    (if alone.line = 1 then start.column else 0) + alone.column +
      margin.toList.length * omission.margins
  returned : reached.afterReturn = true → reached.position.column = 0 ∧
    ∃ glyph, last = some glyph ∧ (glyph.render style margin).getLast? = some '\r'
  written : omission.afterReturn = true → reached.afterReturn = true
  last_written : last = some (.written '\r') → omission.afterReturn = true ∧ 0 < omission.returns

variable {style : Style} {margin : String} {start alone : Position} {reached : Reached}
  {omission : Omission} {last : Option Glyph}

/-- Where a line feed may follow, a carriage return is the code's own if there is one. -/
theorem Agrees.own_return (agrees : Agrees style margin start reached alone omission last)
    {glyph : Glyph} (apart : ∀ before ∈ last, Glyph.Apart style margin before glyph)
    (feed : (glyph.render style margin).head? = some '\n') (returned : reached.afterReturn = true) :
    last = some (.written '\r') ∧ glyph = .written '\n' := by
  obtain ⟨-, before, rfl, ends⟩ := agrees.returned returned
  obtain ⟨rfl, rfl⟩ := apart before rfl ends feed
  exact ⟨rfl, rfl⟩

/-- A carriage return of the code's own begins a line in the file only. -/
theorem Agrees.step_return (agrees : Agrees style margin start reached alone omission last) :
    Agrees style margin start (reached.walk ['\r']) (alone.advance ['\r'])
      (omission.step (.written '\r')) (some (.written '\r')) where
  line_pos := agrees.line_pos
  line := by
    have line := agrees.line
    show reached.position.line + 1 =
      start.line + (alone.line - 1) + ((omission.returns + 1 : Nat) : Int)
    omega
  column impossible := absurd impossible (Nat.succ_ne_zero omission.returns)
  returned _ := ⟨rfl, .written '\r', rfl, rfl⟩
  written _ := rfl
  last_written _ := ⟨rfl, Nat.succ_pos omission.returns⟩

/-- A line feed begins a line in the fragment. In the file it does too, unless it ends a break,
which then is no longer omitted. -/
theorem Agrees.step_feed (agrees : Agrees style margin start reached alone omission last)
    (apart : ∀ before ∈ last, Glyph.Apart style margin before (.written '\n')) :
    Agrees style margin start (reached.walk ['\n']) (alone.advance ['\n'])
      (omission.step (.written '\n')) (some (.written '\n')) := by
  have linePos := agrees.line_pos
  have line := agrees.line
  show Agrees style margin start (reached.step '\n') ⟨alone.line + 1, 0⟩
    ⟨if omission.afterReturn then omission.returns - 1 else omission.returns, 0, false⟩ _
  have stepped : reached.step '\n' = if reached.afterReturn then ⟨reached.position, false⟩
    else ⟨⟨reached.position.line + 1, 0⟩, false⟩ := rfl
  rw [stepped]
  by_cases returned : reached.afterReturn = true
  · obtain ⟨own, -⟩ := agrees.own_return apart rfl returned
    obtain ⟨after, positive⟩ := agrees.last_written own
    obtain ⟨zero, -⟩ := agrees.returned returned
    rw [if_pos returned, if_pos after]
    refine ⟨?_, ?_, fun _ => ?_, by simp, by simp, by simp⟩
    · show 1 ≤ alone.line + 1
      omega
    · show reached.position.line =
        start.line + (alone.line + 1 - 1) + ((omission.returns - 1 : Nat) : Int)
      omega
    · show reached.position.column =
        (if alone.line + 1 = 1 then start.column else 0) + 0 + _ * (0 : Nat)
      rw [if_neg (by omega), zero]
      simp
  · have notAfter : ¬ omission.afterReturn = true := fun after => returned (agrees.written after)
    rw [if_neg returned, if_neg notAfter]
    refine ⟨?_, ?_, fun _ => ?_, by simp, by simp, by simp⟩
    · show 1 ≤ alone.line + 1
      omega
    · show reached.position.line + 1 = start.line + (alone.line + 1 - 1) + (omission.returns : Int)
      omega
    · show (0 : Int) = (if alone.line + 1 = 1 then start.column else 0) + 0 + _ * (0 : Nat)
      rw [if_neg (by omega)]
      simp

/-- Any other character moves the column in both. -/
theorem Agrees.step_plain (agrees : Agrees style margin start reached alone omission last)
    {c : Char} (notReturn : c ≠ '\r') (notFeed : c ≠ '\n') :
    Agrees style margin start (reached.walk [c]) (alone.advance [c])
      (omission.step (.written c)) (some (.written c)) := by
  have column := agrees.column
  show Agrees style margin start (reached.step c) (alone.step c) _ _
  unfold Reached.step Position.step Omission.step
  simp only [if_neg notReturn, if_neg notFeed]
  refine ⟨agrees.line_pos, agrees.line, fun none => ?_, by simp, by simp, fun same => ?_⟩
  · simp only [column none]
    omega
  · exact absurd (Glyph.written.inj (Option.some.inj same)) notReturn

/-- The usual break begins a line in the file; behind it a carriage return stands only if it is
one. -/
theorem Agrees.walk_usualBreak (agrees : Agrees style margin start reached alone omission last)
    (newline : style.newline = "\n" ∨ style.newline = "\r\n" ∨ style.newline = "\r")
    (apart : ∀ before ∈ last, Glyph.Apart style margin before .usualBreak) :
    ∃ afterReturn, reached.walk style.newline.toList =
        ⟨⟨reached.position.line + 1, 0⟩, afterReturn⟩ ∧
      (afterReturn = true → style.newline = "\r") := by
  rcases newline with feed | both | returns
  · have notReturned : ¬ reached.afterReturn = true := by
      intro returned
      obtain ⟨-, impossible⟩ := agrees.own_return apart (by simp [Glyph.render, feed]) returned
      cases impossible
    refine ⟨false, ?_, fun impossible => Bool.noConfusion impossible⟩
    rw [feed]
    show reached.step '\n' = _
    unfold Reached.step
    rw [if_neg (by decide), if_pos rfl, if_neg notReturned]
  · refine ⟨false, ?_, fun impossible => Bool.noConfusion impossible⟩
    rw [both]
    rfl
  · refine ⟨true, ?_, fun _ => returns⟩
    rw [returns]
    rfl

/-- The usual break begins a line in both. -/
theorem Agrees.step_usualBreak (agrees : Agrees style margin start reached alone omission last)
    (newline : style.newline = "\n" ∨ style.newline = "\r\n" ∨ style.newline = "\r")
    (apart : ∀ before ∈ last, Glyph.Apart style margin before .usualBreak) :
    Agrees style margin start (reached.walk style.newline.toList)
      (alone.advance ['\n']) (omission.step .usualBreak) (some .usualBreak) := by
  have linePos := agrees.line_pos
  have line := agrees.line
  obtain ⟨afterReturn, landed, ends⟩ := agrees.walk_usualBreak newline apart
  rw [landed]
  refine ⟨?_, ?_, fun _ => ?_, fun returned => ?_, by simp [Omission.step], by simp⟩
  · show 1 ≤ alone.line + 1
    omega
  · show reached.position.line + 1 = start.line + (alone.line + 1 - 1) + (omission.returns : Int)
    omega
  · show (0 : Int) = (if alone.line + 1 = 1 then start.column else 0) + 0 + _ * (0 : Nat)
    rw [if_neg (by omega)]
    simp
  · refine ⟨rfl, .usualBreak, rfl, ?_⟩
    unfold Glyph.render
    rw [ends returned]
    rfl

/-- A margin moves the column in the file alone. -/
theorem Agrees.step_margin (agrees : Agrees style margin start reached alone omission last)
    (plain : ∀ c ∈ margin.toList, isBreak c = false) (shown : margin ≠ "") :
    Agrees style margin start (reached.walk margin.toList) alone
      (omission.step .margin) (some .margin) := by
  obtain ⟨linePos, line, column, -, -, -⟩ := agrees
  have walked : reached.walk margin.toList =
      ⟨⟨reached.position.line, reached.position.column + margin.toList.length⟩, false⟩ :=
    reached.walk_of_plain (by simpa using shown) plain
  rw [walked]
  refine ⟨linePos, line, fun none => ?_, by simp, by simp [Omission.step], by simp⟩
  simp only [column none, Omission.step]
  push_cast
  rw [Int.mul_add, Int.mul_one, Int.add_assoc]

/-- **Each glyph keeps the two measures in step.** -/
theorem Agrees.step (agrees : Agrees style margin start reached alone omission last) (glyph : Glyph)
    (newline : style.newline = "\n" ∨ style.newline = "\r\n" ∨ style.newline = "\r")
    (plain : ∀ c ∈ margin.toList, isBreak c = false) (shown : glyph = .margin → margin ≠ "")
    (apart : ∀ before ∈ last, Glyph.Apart style margin before glyph) :
    Agrees style margin start (reached.walk (glyph.render style margin))
      (alone.advance (glyph.render .standard "")) (omission.step glyph) (some glyph) := by
  cases glyph with
  | written c =>
      by_cases isReturn : c = '\r'
      · subst isReturn
        exact agrees.step_return
      · by_cases isFeed : c = '\n'
        · subst isFeed
          exact agrees.step_feed apart
        · exact agrees.step_plain isReturn isFeed
  | usualBreak => exact agrees.step_usualBreak newline apart
  | margin => exact agrees.step_margin plain (shown rfl)

theorem Agrees.origin (style : Style) (margin : String) (start : Position) :
    Agrees style margin start ⟨start, false⟩ .origin (.along []) none where
  line_pos := Int.le_refl 1
  line := by simp [Position.origin, Omission.along]
  column _ := by simp [Position.origin, Omission.along]
  returned impossible := Bool.noConfusion impossible
  written impossible := Bool.noConfusion impossible
  last_written impossible := nomatch impossible

/-- A row of which more follows is settled if the whole is. -/
theorem Settled.front {first second : List Glyph}
    (settled : Settled style margin (first ++ second)) :
    Settled style margin first where
  newline := settled.newline
  margin_plain := settled.margin_plain
  apart := settled.apart.left_of_append
  head feed := settled.head (by
    rw [Glyph.renderAll_append, List.head?_append, feed]
    rfl)

/-- **The two measures stay in step along every row.** -/
theorem agrees_along (start : Position) {glyphs : List Glyph}
    (settled : Settled style margin glyphs) (shown : .margin ∈ glyphs → margin ≠ "") :
    Agrees style margin start
      (Reached.walk ⟨start, false⟩ (Glyph.renderAll style margin glyphs))
      (Position.origin.advance (Glyph.alone glyphs)) (.along glyphs) glyphs.getLast? := by
  -- A place is reached from the left, so the row grows at its end.
  induction glyphs using List.reverseRecOn with
  | nil => exact .origin style margin start
  | append_singleton glyphs glyph inductionHypothesis =>
      have agrees := inductionHypothesis settled.front fun member =>
        shown (List.mem_append_left [glyph] member)
      have next := agrees.step glyph settled.newline settled.margin_plain
        (fun same => shown (by simp [same]))
        (fun before member => (List.isChain_append.1 settled.apart).2.2 before member glyph rfl)
      rw [Omission.along_concat, List.getLast?_concat, Glyph.alone_append, Position.advance_append,
        Glyph.renderAll_append, Reached.walk_append]
      simpa [Glyph.alone] using next

/-- A margin is omitted only if there is one. -/
theorem Omission.mem_of_margins {glyphs : List Glyph}
    (omitted : (Omission.along glyphs).margins ≠ 0) : .margin ∈ glyphs := by
  induction glyphs using List.reverseRecOn with
  | nil => exact absurd rfl omitted
  | append_singleton glyphs glyph inductionHypothesis =>
      rw [Omission.along_concat] at omitted
      rw [List.mem_append, List.mem_singleton]
      cases glyph with
      | written c =>
          refine Or.inl (inductionHypothesis fun none => omitted ?_)
          unfold Omission.step
          dsimp only
          split
          · exact none
          · split
            · rfl
            · exact none
      | usualBreak => exact absurd rfl omitted
      | margin => exact Or.inr rfl

/-- The columns that the omitted margins take up. -/
theorem columns_eq_zero_iff {glyphs : List Glyph} (shown : .margin ∈ glyphs → margin ≠ "") :
    (margin.toList.length : Int) * (Omission.along glyphs).margins = 0 ↔
      (Omission.along glyphs).margins = 0 := by
  constructor
  · intro zero
    by_contra omitted
    have long : margin.toList.length ≠ 0 := by simpa using shown (Omission.mem_of_margins omitted)
    rcases Int.mul_eq_zero.1 zero with short | none
    · omega
    · omega
  · intro none
    rw [none]
    simp

/-! ## Moving a place -/

/-- A place that lies `missed` lines and, if these are none, `lost` columns before the true one is
moved to the true one exactly if both are nothing. -/
theorem rebase_eq_iff_of_offset {place start reached : Position} {missed : Nat} {lost : Int}
    (line : reached.line = start.line + (place.line - 1) + missed)
    (column : missed = 0 →
      reached.column = (if place.line = 1 then start.column else 0) + place.column + lost) :
    place.rebase start = reached ↔ missed = 0 ∧ lost = 0 := by
  obtain ⟨reachedLine, reachedColumn⟩ := reached
  dsimp only at line column
  unfold Position.rebase
  -- On the first line the fragment shares its line with other text, and the column moves.
  by_cases first : place.line = 1
  · simp only [if_pos first] at column ⊢
    rw [Position.mk.injEq]
    constructor
    · rintro ⟨lines, columns⟩
      have none : missed = 0 := by omega
      have moved := column none
      exact ⟨none, by omega⟩
    · rintro ⟨none, nothing⟩
      have moved := column none
      omega
  · simp only [if_neg first] at column ⊢
    rw [Position.mk.injEq]
    constructor
    · rintro ⟨lines, columns⟩
      have none : missed = 0 := by omega
      have moved := column none
      exact ⟨none, by omega⟩
    · rintro ⟨none, nothing⟩
      have moved := column none
      omega

/-- **A place that was measured in the fragment is the true place exactly if nothing was lost up to
there.** -/
theorem rebase_eq_iff (start : Position) {glyphs : List Glyph}
    (settled : Settled style margin glyphs) (shown : .margin ∈ glyphs → margin ≠ "") :
    (Position.origin.advance (Glyph.alone glyphs)).rebase start =
        advanceLines start (Glyph.renderAll style margin glyphs) ↔
      (Omission.along glyphs).IsNone := by
  have agrees := agrees_along start settled shown
  rw [advanceLines_eq_walk, rebase_eq_iff_of_offset agrees.line agrees.column,
    columns_eq_zero_iff shown]
  rfl

end ModuleGlue.Source
