import ModuleGlue.Settings.Validation

/-!
Contract: which value counts for a key.

A value that the caller gives counts, whatever a settings file says; a null gives none. Otherwise
the entry of the file's table counts, if there is one. Each key is decided by itself.

Main statement: `chosen_iff` (the value found in a table with values that take precedence is the one
that is chosen).

Owns: the choice among values for one key.

Does not own: whether the value that is chosen is valid.
-/

namespace ModuleGlue.Settings

/-! ## Looking up -/

/-- Keys that are kept are looked up as before, and no other key is found. -/
theorem lookup_filter {α β : Type} [BEq α] [LawfulBEq α] (keep : α → Bool) (key : α)
    (entries : List (α × β)) :
    (entries.filter fun entry => keep entry.1).lookup key =
      if keep key then entries.lookup key else none := by
  induction entries with
  | nil => simp
  | cons entry rest inductionHypothesis =>
      obtain ⟨other, value⟩ := entry
      rw [List.filter_cons, List.lookup_cons]
      cases same : key == other with
      | true =>
          obtain rfl := eq_of_beq same
          cases kept : keep key with
          | true => simp
          | false =>
              rw [kept] at inductionHypothesis
              exact inductionHypothesis
      | false =>
          cases keep other with
          | true => simpa only [if_true, List.lookup_cons, same] using inductionHypothesis
          | false => exact inductionHypothesis

/-- A value that is given comes first; otherwise that of the table counts. -/
theorem Table.lookup_override (overrides values : Table) (word : String) :
    (overrides.override values).lookup word =
      (overrides.given? word).or (values.lookup word) := by
  unfold Table.override
  rw [List.lookup_append, lookup_filter fun word => (overrides.given? word).isSome]
  unfold Table.given?
  cases overrides.lookup word with
  | none => rfl
  | some value => cases value <;> rfl

/-! ## The choice -/

/-- The caller leaves the word open: nothing is given for it, or a null. -/
def Table.LeavesOpen (overrides : Table) (word : String) : Prop :=
  overrides.lookup word = none ∨ overrides.lookup word = some .null

/-- The value that counts for a key, if there is one, among those of the caller and the entries of a
table. -/
inductive Chosen (overrides entries : Table) (key : Key) : Option Value → Prop
  | override {value : Value} (given : overrides.lookup key.word = some value)
      (something : value ≠ .null) : Chosen overrides entries key (some value)
  | entry {value : Value} (leftOpen : overrides.LeavesOpen key.word)
      (found : entries.lookup key.word = some value) : Chosen overrides entries key (some value)
  | default (leftOpen : overrides.LeavesOpen key.word)
      (missing : entries.lookup key.word = none) : Chosen overrides entries key none

section
variable {overrides entries : Table} {word : String}

theorem Table.given?_eq_some_iff {value : Value} :
    overrides.given? word = some value ↔ overrides.lookup word = some value ∧ value ≠ .null := by
  unfold Table.given?
  split
  · rename_i found
    rw [found]
    constructor
    · intro none
      cases none
    · rintro ⟨same, something⟩
      exact absurd (Option.some.inj same).symm something
  · rename_i notNull
    constructor
    · intro found
      refine ⟨found, ?_⟩
      rintro rfl
      exact notNull found
    · exact fun found => found.1

theorem Table.given?_eq_none_iff :
    overrides.given? word = none ↔ overrides.LeavesOpen word := by
  unfold Table.LeavesOpen Table.given?
  cases overrides.lookup word with
  | none => simp
  | some value => cases value <;> simp

/-- **The value that counts is found under its key.** -/
theorem chosen_iff {key : Key} {value : Option Value} :
    Chosen overrides entries key value ↔ (overrides.override entries).get? key = value := by
  unfold Table.get?
  rw [Table.lookup_override]
  constructor
  · intro chosen
    cases chosen with
    | override given something =>
        rw [Table.given?_eq_some_iff.2 ⟨given, something⟩]
        rfl
    | entry leftOpen found =>
        rw [Table.given?_eq_none_iff.2 leftOpen]
        exact found
    | default leftOpen missing =>
        rw [Table.given?_eq_none_iff.2 leftOpen]
        exact missing
  · rintro rfl
    cases given : overrides.given? key.word with
    | some value =>
        obtain ⟨found, something⟩ := Table.given?_eq_some_iff.1 given
        exact .override found something
    | none =>
        have leftOpen := Table.given?_eq_none_iff.1 given
        cases found : entries.lookup key.word with
        | some value => exact .entry leftOpen found
        | none => exact .default leftOpen found

end

end ModuleGlue.Settings
