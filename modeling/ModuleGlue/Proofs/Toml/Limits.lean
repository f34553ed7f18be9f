import ModuleGlue.Toml.Document

/-!
Contract: what limits do to reading.

Reading within limits agrees with the format by itself, or gives up at something that exceeds them;
and the format by itself gives up nowhere.

Main statement: `restricts_parse`.

Owns: agreement up to giving up, and that every reader keeps it.

Does not own: which documents are in order.
-/

namespace ModuleGlue.Toml

open ModuleGlue.Settings (Table Value)

/-- What the limits refuse. -/
inductive Limits.Exceeds (limits : Limits) : Excess → Prop
  | digits {whole : List Char} {fraction : Option (List Char)}
      (refused : limits.number whole fraction = false) : Exceeds limits (.digits whole fraction)
  | nesting {around : List Bracket} {text : List Char}
      (refused : limits.nesting around text = false) : Exceeds limits .nesting

/-- What is read within limits is what is read without them, or reading gives up at something that
exceeds them. -/
structure Restricts (limits : Limits) {α : Type} (within free : Except Fault α) : Prop where
  never : ∀ excess, free ≠ .error (.tooMuch excess)
  agrees : within = free ∨ ∃ excess, limits.Exceeds excess ∧ within = .error (.tooMuch excess)

namespace Restricts

section
variable {limits : Limits} {α β : Type} {within free : Except Fault α}

theorem ok (value : α) : Restricts limits (.ok value) (.ok value) := ⟨nofun, Or.inl rfl⟩

theorem malformed : Restricts limits (.error .malformed : Except Fault α) (.error .malformed) :=
  ⟨nofun, Or.inl rfl⟩

theorem required (found : Option α) : Restricts limits (required found) (required found) := by
  cases found with
  | none => exact malformed
  | some value => exact ok value

/-- A limit may be asked for at any time. -/
theorem guarded {allowed : Bool} {excess : Excess}
    (exceeds : allowed = false → limits.Exceeds excess) (restricts : Restricts limits within free) :
    Restricts limits (if allowed then within else .error (.tooMuch excess)) free := by
  cases allowed with
  | true => exact restricts
  | false => exact ⟨restricts.never, Or.inr ⟨excess, exceeds rfl, rfl⟩⟩

/-- Agreement is kept along a reading. -/
theorem bind {next next' : α → Except Fault β} (first : Restricts limits within free)
    (second : ∀ value, Restricts limits (next value) (next' value)) :
    Restricts limits (within >>= next) (free >>= next') := by
  cases free with
  | error fault =>
      refine ⟨fun excess same => first.never excess (congrArg Except.error (Except.error.inj same)),
        ?_⟩
      rcases first.agrees with rfl | ⟨excess, exceeds, rfl⟩
      · exact Or.inl rfl
      · exact Or.inr ⟨excess, exceeds, rfl⟩
  | ok value =>
      refine ⟨(second value).never, ?_⟩
      rcases first.agrees with rfl | ⟨excess, exceeds, rfl⟩
      · exact (second value).agrees
      · exact Or.inr ⟨excess, exceeds, rfl⟩

end

end Restricts

/-! ## Values -/

section
variable (limits : Limits)

theorem restricts_readNumber (text : List Char) :
    Restricts limits (readNumber limits text) (readNumber .unlimited text) := by
  unfold readNumber
  split
  · exact .ok _
  · split
    · rename_i decimal rest _
      exact (Restricts.guarded .digits (.ok decimal.value)).bind fun value => .ok (value, rest)
    · exact .required _

theorem restricts_readScalar (text : List Char) :
    Restricts limits (readScalar limits text) (readScalar .unlimited text) := by
  unfold readScalar
  split
  · dsimp only
    split
    · exact .ok _
    · exact .malformed
  · split
    · exact .ok _
    · exact restricts_readNumber limits text

/-- Reading values, items and entries with this fuel agrees up to giving up. -/
structure RestrictsValues (fuel : Nat) : Prop where
  value : ∀ around text, Restricts limits (readValue limits fuel around text)
    (readValue .unlimited fuel around text)
  items : ∀ around text, Restricts limits (readItems limits fuel around text)
    (readItems .unlimited fuel around text)
  entries : ∀ around sealedKeys table text,
    Restricts limits (readEntries limits fuel around sealedKeys table text)
      (readEntries .unlimited fuel around sealedKeys table text)

variable {limits} {fuel : Nat}

theorem RestrictsValues.value_succ (within : RestrictsValues limits fuel) (around : List Bracket)
    (text : List Char) : Restricts limits (readValue limits (fuel + 1) around text)
      (readValue .unlimited (fuel + 1) around text) := by
  unfold readValue
  refine .guarded .nesting ?_
  rw [if_pos (by rfl)]
  split
  · exact .required _
  · exact .required _
  · exact .ok _
  · exact .ok _
  · exact (within.items _ _).bind fun _ => .ok _
  · split
    · exact .ok _
    · exact within.entries _ _ _ _
  · exact restricts_readScalar limits text

theorem RestrictsValues.items_succ (within : RestrictsValues limits fuel) (around : List Bracket)
    (text : List Char) : Restricts limits (readItems limits (fuel + 1) around text)
      (readItems .unlimited (fuel + 1) around text) := by
  unfold readItems
  refine (Restricts.required _).bind fun start => ?_
  split
  · exact .ok _
  · refine (within.value _ _).bind fun (first, rest) => (Restricts.required _).bind fun behind => ?_
    split
    · exact .ok _
    · exact (within.items _ _).bind fun _ => .ok _
    · exact .malformed

theorem RestrictsValues.entries_succ (within : RestrictsValues limits fuel) (around : List Bracket)
    (sealedKeys : List Key) (table : Table) (text : List Char) :
    Restricts limits (readEntries limits (fuel + 1) around sealedKeys table text)
      (readEntries .unlimited (fuel + 1) around sealedKeys table text) := by
  unfold readEntries
  refine (Restricts.required _).bind fun found => ?_
  split
  · refine (within.value _ _).bind fun (value, afterValue) =>
      (Restricts.required _).bind fun changed => ?_
    split
    · exact .ok _
    · exact within.entries _ _ _ _
    · exact .malformed
  · exact .malformed

variable (limits)

/-- Values are read alike up to giving up: by induction on the fuel, for all readers at once. -/
theorem restrictsValues (fuel : Nat) : RestrictsValues limits fuel := by
  induction fuel with
  | zero =>
      constructor
      · exact fun _ _ => .malformed
      · exact fun _ _ => .malformed
      · exact fun _ _ _ _ => .malformed
  | succ fuel within => exact ⟨within.value_succ, within.items_succ, within.entries_succ⟩

/-! ## Lines -/

theorem restricts_readLine (progress : Progress) (text : List Char) :
    Restricts limits (readLine limits progress text) (readLine .unlimited progress text) := by
  unfold readLine
  split
  · exact (Restricts.required _).bind fun (key, after) => (Restricts.required _).bind fun _ => .ok _
  · exact (Restricts.required _).bind fun (key, after) => (Restricts.required _).bind fun _ => .ok _
  · exact .ok _
  · refine (Restricts.required _).bind fun found => ?_
    split
    · exact ((restrictsValues limits _).value _ _).bind fun (value, after) =>
        (Restricts.required _).bind fun _ => .ok _
    · exact .malformed

theorem restricts_readLines (fuel : Nat) (progress : Progress) (text : List Char) :
    Restricts limits (readLines limits fuel progress text)
      (readLines .unlimited fuel progress text) := by
  induction fuel generalizing progress text with
  | zero => exact .malformed
  | succ fuel inductionHypothesis =>
      unfold readLines
      split
      · exact .ok _
      · exact inductionHypothesis _ _
      · refine (restricts_readLine limits progress _).bind fun (progress, rest) =>
          (Restricts.required _).bind fun behind => ?_
        split
        · exact .ok _
        · exact inductionHypothesis _ _
        · exact .malformed

/-- **A document that is read within limits is read as the format has it**, and reading it gives up
only at something that exceeds the limits. -/
theorem restricts_parse (text : String) :
    Restricts limits (parse limits text) (parse .unlimited text) :=
  (restricts_readLines limits _ _ _).bind fun progress => .ok progress.table

end

end ModuleGlue.Toml
