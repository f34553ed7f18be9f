/-!
Contract: steps that can fail, one after another.

Owns: when a chain of steps gives a value, and when it fails; chains that end alike.
-/

namespace ModuleGlue

variable {ε α β : Type}

/-- A chain of two steps gives a value exactly if both steps do. -/
theorem bind_eq_ok_iff {first : Except ε α} {next : α → Except ε β} {value : β} :
    (first >>= next) = .ok value ↔ ∃ middle, first = .ok middle ∧ next middle = .ok value := by
  cases first with
  | error reason =>
      constructor
      · intro found
        cases found
      · rintro ⟨middle, found, -⟩
        cases found
  | ok middle =>
      constructor
      · intro found
        exact ⟨middle, rfl, found⟩
      · rintro ⟨other, same, found⟩
        rw [Except.ok.inj same]
        exact found

/-- A chain of two steps fails exactly if one of them does. -/
theorem bind_eq_error_iff {first : Except ε α} {next : α → Except ε β} {reason : ε} :
    (first >>= next) = .error reason ↔
      first = .error reason ∨ ∃ middle, first = .ok middle ∧ next middle = .error reason := by
  cases first with
  | error other =>
      constructor
      · intro failed
        exact Or.inl (congrArg Except.error (Except.error.inj failed))
      · rintro (same | ⟨middle, found, -⟩)
        · rw [Except.error.inj same]
          rfl
        · cases found
  | ok middle =>
      constructor
      · intro failed
        exact Or.inr ⟨middle, rfl, failed⟩
      · rintro (impossible | ⟨other, same, failed⟩)
        · cases impossible
        · rw [Except.ok.inj same]
          exact failed

/-- Other reasons make no difference to a value. -/
theorem mapError_eq_ok_iff {ε' : Type} {result : Except ε α} {reason : ε → ε'} {value : α} :
    result.mapError reason = .ok value ↔ result = .ok value := by
  cases result with
  | error cause => exact ⟨nofun, nofun⟩
  | ok found =>
      constructor
      all_goals
        intro same
        exact congrArg Except.ok (Except.ok.inj same)

theorem mapError_eq_error_iff {ε' : Type} {result : Except ε α} {reason : ε → ε'} {other : ε'} :
    result.mapError reason = .error other ↔ ∃ cause, result = .error cause ∧ reason cause = other := by
  cases result with
  | error cause =>
      constructor
      · intro same
        exact ⟨cause, rfl, Except.error.inj same⟩
      · rintro ⟨_, found, rfl⟩
        obtain rfl := Except.error.inj found
        rfl
  | ok found => exact ⟨nofun, fun ⟨_, same, _⟩ => nomatch same⟩

/-! ## Two steps compared -/

/-- Two steps end alike: both give values that are alike, or both fail for reasons that are. -/
inductive EndsAlike {ε ε' α α' : Type} (reasons : ε → ε' → Prop) (values : α → α' → Prop) :
    Except ε α → Except ε' α' → Prop where
  | ok {first : α} {second : α'} (alike : values first second) :
      EndsAlike reasons values (.ok first) (.ok second)
  | error {first : ε} {second : ε'} (alike : reasons first second) :
      EndsAlike reasons values (.error first) (.error second)

/-- Chains end alike if their first steps do, and their second steps from values that are alike. -/
theorem EndsAlike.bind {ε ε' α α' β β' : Type} {reasons : ε → ε' → Prop}
    {values : α → α' → Prop} {results : β → β' → Prop} {first : Except ε α}
    {second : Except ε' α'} {next : α → Except ε β} {next' : α' → Except ε' β'}
    (alike : EndsAlike reasons values first second)
    (more : ∀ value value', values value value' →
      EndsAlike reasons results (next value) (next' value')) :
    EndsAlike reasons results (first >>= next) (second >>= next') := by
  cases alike with
  | ok same => exact more _ _ same
  | error same => exact .error same

/-- Steps that end alike do so also in a wider sense of the word for values. -/
theorem EndsAlike.imp {ε ε' α α' : Type} {reasons : ε → ε' → Prop}
    {values values' : α → α' → Prop} {first : Except ε α} {second : Except ε' α'}
    (alike : EndsAlike reasons values first second)
    (wider : ∀ value value', values value value' → values' value value') :
    EndsAlike reasons values' first second := by
  cases alike with
  | ok same => exact .ok (wider _ _ same)
  | error same => exact .error same

/-- Steps end alike if each gives a value that goes with a value of the other. -/
theorem endsAlike_of_values {ε ε' α α' : Type} {values : α → α' → Prop} {first : Except ε α}
    {second : Except ε' α'}
    (forth : ∀ value, first = .ok value → ∃ value', second = .ok value' ∧ values value value')
    (back : ∀ value', second = .ok value' → ∃ value, first = .ok value) :
    EndsAlike (fun _ _ => True) values first second := by
  cases first with
  | ok value =>
      obtain ⟨value', rfl, alike⟩ := forth value rfl
      exact .ok alike
  | error reason =>
      cases second with
      | ok value' =>
          obtain ⟨value, impossible⟩ := back value' rfl
          cases impossible
      | error reason' => exact .error trivial

/-! ## Tests -/

/-- Does a step succeed, with a value that passes a test? -/
def succeedsWith (result : Except ε α) (test : α → Bool) : Bool := result.toOption.any test

theorem exists_of_succeedsWith {result : Except ε α} {test : α → Bool}
    (passed : succeedsWith result test = true) :
    ∃ value, result = .ok value ∧ test value = true := by
  cases result with
  | error reason => cases passed
  | ok value => exact ⟨value, rfl, passed⟩

/-- Does a step fail, for a reason that passes a test? -/
def failsWith (result : Except ε α) (test : ε → Bool) : Bool :=
  match result with
  | .ok _ => false
  | .error reason => test reason

theorem exists_of_failsWith {result : Except ε α} {test : ε → Bool}
    (passed : failsWith result test = true) :
    ∃ reason, result = .error reason ∧ test reason = true := by
  cases result with
  | error reason => exact ⟨reason, rfl, passed⟩
  | ok value => cases passed

end ModuleGlue
