/-!
Contract: code points, sets of them, and text that may hold lone surrogates.

An escape inside a string literal can denote any code point, also one that is no character.
The value of a literal is therefore a list of code points, and ordinary text is the part of it
without surrogates.

Owns: code points, the embedding of characters and its partial inverse; and membership in a list of
closed intervals. The lists of this library are sorted and disjoint, but membership does not rely on
it.

Main statement: `toString?_eq_some_iff` (points spell a text exactly if they are its code points).
-/

namespace ModuleGlue.Text

structure CodePoint where
  value : Nat
  inRange : value < 0x110000
deriving DecidableEq, Repr

abbrev Points := List CodePoint

def CodePoint.ofChar (c : Char) : CodePoint where
  value := c.toNat
  inRange := by
    have valid := c.valid
    simp only [Char.toNat, UInt32.isValidChar, Nat.isValidChar] at *
    omega

/-- The character at a code point, unless that is a surrogate. -/
def CodePoint.toChar? (point : CodePoint) : Option Char :=
  if valid : point.value.isValidChar then some (Char.ofNatAux point.value valid) else none

def CodePoint.ofNat? (value : Nat) : Option CodePoint :=
  if inRange : value < 0x110000 then some ⟨value, inRange⟩ else none

def Points.ofList (text : List Char) : Points := text.map CodePoint.ofChar

def Points.ofString (text : String) : Points := Points.ofList text.toList

/-- The text that the code points spell, unless one of them is a surrogate. -/
def Points.toString? (points : Points) : Option String :=
  (points.mapM CodePoint.toChar?).map String.ofList

/-! ## The embedding and its inverse -/

theorem CodePoint.toChar?_ofChar (c : Char) : (CodePoint.ofChar c).toChar? = some c := by
  unfold CodePoint.toChar? CodePoint.ofChar
  rw [dif_pos (show c.toNat.isValidChar from c.valid)]
  rfl

theorem CodePoint.toChar?_eq_some_iff {point : CodePoint} {c : Char} :
    point.toChar? = some c ↔ point = .ofChar c := by
  constructor
  · intro found
    unfold CodePoint.toChar? at found
    by_cases valid : point.value.isValidChar
    · rw [dif_pos valid] at found
      rw [← Option.some.inj found]
      rfl
    · rw [dif_neg valid] at found
      cases found
  · rintro rfl
    exact CodePoint.toChar?_ofChar c

theorem Points.mapM_toChar?_eq_some_iff {points : Points} {characters : List Char} :
    points.mapM CodePoint.toChar? = some characters ↔ points = .ofList characters := by
  induction points generalizing characters with
  | nil => cases characters <;> simp [Points.ofList]
  | cons point rest inductionHypothesis =>
      simp only [List.mapM_cons, Option.bind_eq_bind, Option.bind_eq_some_iff,
        CodePoint.toChar?_eq_some_iff, inductionHypothesis, Points.ofList]
      constructor
      · rintro ⟨c, rfl, others, rfl, same⟩
        obtain rfl := Option.some.inj same
        rfl
      · intro same
        cases characters with
        | nil => cases same
        | cons c others =>
            obtain ⟨rfl, rfl⟩ := List.cons.inj same
            exact ⟨c, rfl, others, rfl, rfl⟩

/-- Points spell a text exactly if they are the code points of it. -/
theorem Points.toString?_eq_some_iff {points : Points} {text : String} :
    points.toString? = some text ↔ points = .ofString text := by
  unfold Points.toString? Points.ofString
  rw [Option.map_eq_some_iff]
  constructor
  · rintro ⟨characters, found, rfl⟩
    rw [String.toList_ofList]
    exact Points.mapM_toChar?_eq_some_iff.1 found
  · intro same
    exact ⟨text.toList, Points.mapM_toChar?_eq_some_iff.2 same, String.ofList_toList⟩

/-! ## Sets of code points -/

/-- A set of code points: the union of closed intervals, each given by its ends. -/
abbrev Ranges := List (Nat × Nat)

def Ranges.contains (ranges : Ranges) (point : Nat) : Bool :=
  ranges.any fun interval => interval.1 ≤ point && point ≤ interval.2

theorem Ranges.contains_iff {ranges : Ranges} {point : Nat} :
    ranges.contains point = true ↔
      ∃ interval ∈ ranges, interval.1 ≤ point ∧ point ≤ interval.2 := by
  simp [Ranges.contains]

end ModuleGlue.Text
