import ModuleGlue.Proofs.Expansion.Course

/-!
Contract: ending an expansion at the first error, and collecting all errors.

Main statement: `run_firstError`. Both modes succeed on the same code and with the same outcome;
otherwise the first error is the first of those collected, and the records are those that had been
collected by then.

Owns: the part of a course up to its first error, and the comparison of the two modes.

Does not own: which errors there are.
-/

namespace ModuleGlue.Expansion

open ModuleGlue.Source (Module)

/-! ## Up to the first error -/

/-- The steps up to the first in which something is wrong, that one included. -/
def untilError : List Step → List Step
  | [] => []
  | step :: rest => if step.errors.isEmpty then step :: untilError rest else [step]

theorem errors_of_split {steps before after : List Step} {diagnostic : Diagnostic}
    {others : List Diagnostic} {deprecations : List Deprecation} {modules : List String}
    (split : steps = before ++ .noted (diagnostic :: others) deprecations modules :: after) :
    steps.flatMap Step.errors ≠ [] := by
  intro none
  rw [split, List.flatMap_append, List.flatMap_cons, List.append_eq_nil_iff] at none
  exact List.append_ne_nil_of_left_ne_nil (List.cons_ne_nil _ _) _ none.2

theorem untilError_of_errors {before after : List Step} {step : Step}
    (fine : before.flatMap Step.errors = []) (wrong : step.errors ≠ []) :
    untilError (before ++ step :: after) = before ++ [step] := by
  induction before with
  | nil =>
      rw [List.nil_append, untilError, if_neg (by simpa using wrong)]
      rfl
  | cons first others inductionHypothesis =>
      rw [List.flatMap_cons, List.append_eq_nil_iff] at fine
      rw [List.cons_append, untilError, if_pos (by simpa using fine.1),
        inductionHypothesis fine.2]
      rfl

/-! ## Files -/

/-- The problem of a text that cannot be read as a file. -/
def readingProblems (code : String) : List Problem :=
  match Module.ofText code with
  | .ok _ => []
  | .error _ => [.malformed]

/-- The steps of a text; one that cannot be read has none. -/
def courseOf (settings : Settings) (code : String) : List Step :=
  match Module.ofText code with
  | .ok file => course settings file.body
  | .error _ => []

/-- How the outcome of an expansion that stops at the first error compares with that of one that
collects them, for code with the given steps and problems of reading. -/
structure StopsAtFirst (code : String) (unread : List Problem) (steps : List Step)
    (stopped collected : Outcome) : Prop where
  /-- Everything that is wrong has been collected, -/
  problems : collected.problems = unread ++ (steps.flatMap Step.errors).map .broken
  /-- and everything recorded. -/
  deprecations : collected.deprecations = steps.flatMap Step.deprecations
  /-- Both succeed, or none of them. -/
  succeeded : stopped.succeeded = true ↔ collected.succeeded = true
  same : collected.succeeded = true → stopped = collected
  unchanged : collected.succeeded = false → stopped.code = code ∧ collected.code = code
  /-- The only error of the one is the first error of the other. -/
  error : collected.succeeded = false → ∃ first others,
    collected.errors = first :: others ∧ stopped.errors = [first]
  /-- The warnings are those up to the step with that error. -/
  warnings : collected.succeeded = false →
    stopped.warnings = ((untilError steps).flatMap Step.deprecations).map Deprecation.render

/-- An outcome without problems is the same in both modes. -/
theorem StopsAtFirst.of_succeeded {code : String} {steps : List Step} {outcome : Outcome}
    (fine : steps.flatMap Step.errors = []) (none : outcome.problems = [])
    (deprecations : outcome.deprecations = steps.flatMap Step.deprecations) :
    StopsAtFirst code [] steps outcome outcome where
  problems := by rw [none, fine]; rfl
  deprecations := deprecations
  succeeded := Iff.rfl
  same _ := rfl
  unchanged failed := by simp [Outcome.succeeded, none] at failed
  error failed := by simp [Outcome.succeeded, none] at failed
  warnings failed := by simp [Outcome.succeeded, none] at failed

/-- Code that cannot be read has one problem in both modes. -/
theorem StopsAtFirst.of_malformed (code : String) :
    StopsAtFirst code [.malformed] [] ⟨code, [.malformed], [], []⟩
      ⟨code, [.malformed], [], []⟩ where
  problems := rfl
  deprecations := rfl
  succeeded := Iff.rfl
  same _ := rfl
  unchanged _ := ⟨rfl, rfl⟩
  error _ := ⟨Problem.malformed.render, [], rfl, rfl⟩
  warnings _ := rfl

/-- An expansion that stops at the first of some errors. -/
theorem StopsAtFirst.of_split {code : String} {before after : List Step} {diagnostic : Diagnostic}
    {others : List Diagnostic} {deprecations : List Deprecation} {modules : List String}
    (fine : before.flatMap Step.errors = []) (found : List String)
    (kept : Option (List Deprecation)) {steps : List Step}
    (split : steps = before ++ .noted (diagnostic :: others) deprecations modules :: after) :
    StopsAtFirst code [] steps
      ⟨code, [.broken { diagnostic with deprecations := kept }],
        before.flatMap Step.deprecations ++ deprecations, []⟩
      ⟨code, (steps.flatMap Step.errors).map .broken, steps.flatMap Step.deprecations, found⟩ := by
  have errors : steps.flatMap Step.errors =
      diagnostic :: (others ++ after.flatMap Step.errors) := by
    rw [split, List.flatMap_append, fine, List.flatMap_cons]
    rfl
  have first : untilError steps =
      before ++ [.noted (diagnostic :: others) deprecations modules] := by
    rw [split]
    exact untilError_of_errors fine (List.cons_ne_nil _ _)
  exact
    { problems := rfl
      deprecations := rfl
      succeeded := by simp [Outcome.succeeded, errors]
      same := by simp [Outcome.succeeded, errors]
      unchanged := fun _ => ⟨rfl, rfl⟩
      error := fun _ => by
        refine ⟨diagnostic.render, (others ++ after.flatMap Step.errors).map Diagnostic.render,
          ?_, rfl⟩
        simp only [Outcome.errors, errors, List.map_map, List.map_cons]
        rfl
      warnings := fun _ => by
        rw [first, List.flatMap_append, List.flatMap_singleton]
        rfl }

theorem expandFile_firstError (settings : Settings) (code : String) (file : Module)
    {collected : Outcome}
    (returns : expandFile { settings with failFast := false } code file = .ok collected) :
    ∃ stopped, expandFile { settings with failFast := true } code file = .ok stopped ∧
      StopsAtFirst code [] (course settings file.body) stopped collected := by
  have slow := expandFile_ends { settings with failFast := false } code file
  have quick := expandFile_ends { settings with failFast := true } code file
  rw [returns] at slow
  -- Collecting all errors, the expansion went through all steps; only an error can end it earlier.
  have passes : Passes false (course settings file.body) := by
    cases slow with
    | expanded passes fine written same => exact passes
    | collected passes wrong => exact passes
    | stopped split passes fast => cases fast
  generalize expandFile { settings with failFast := true } code file = outcome at quick ⊢
  cases quick with
  | stuck split passes' =>
      have impossible := passes _ (split ▸ List.mem_append_right _ List.mem_cons_self)
      cases impossible
  | collected passes' wrong => exact absurd (errors_of_passes passes') wrong
  | @expanded tree passes' fine written same =>
      refine ⟨_, rfl, ?_⟩
      cases slow with
      | stopped split passes fast => cases fast
      | collected passes wrong => exact absurd fine wrong
      | @expanded tree' passes fine' written' same' =>
          rw [show tree = tree' from same.trans same'.symm]
          exact .of_succeeded fine rfl rfl
  | stopped split passes' fast =>
      have fine := errors_of_passes passes'
      refine ⟨_, rfl, ?_⟩
      cases slow with
      | stopped split passes fast => cases fast
      | collected passes wrong => exact .of_split fine _ _ split
      | expanded passes none written same => exact absurd none (errors_of_split split)

/-- **Stopping at the first error is the beginning of collecting all errors.** For any code and
settings with which an expansion that collects errors returns, one that stops at the first error
returns as well. Both succeed or fail together; if they succeed, with the same outcome. If they
fail, the code is unchanged in both, the one error is the first of the others, and the warnings are
those up to the step with that error: the statement, or the module's function, that it is about. -/
theorem run_firstError (settings : Settings) (code : String) {collected : Outcome}
    (returns : run { settings with failFast := false } code = .ok collected) :
    ∃ stopped, run { settings with failFast := true } code = .ok stopped ∧
      StopsAtFirst code (readingProblems code) (courseOf settings code) stopped collected := by
  unfold run at returns ⊢
  unfold readingProblems courseOf
  cases read : Module.ofText code with
  | ok file =>
      rw [read] at returns
      exact expandFile_firstError settings code file returns
  | error error =>
      rw [read] at returns
      cases error with
      | malformed =>
          obtain rfl := Except.ok.inj returns
          exact ⟨_, rfl, .of_malformed code⟩
      | mixedLiterals => cases returns
      | illFormedLiteral => cases returns

/-- Two exports in one module: the first has a legacy name that is none, the second a good one. -/
def twoLegacyNames : String :=
  "@pymodule\ndef a(m):\n @pyfn(m,\"1\")\n def f():0\n @pyfn(m,\"x\")\n def g():0\n"

theorem run_firstError_twoLegacyNames :
    ∃ collected, run { Settings.default with failFast := false } twoLegacyNames = .ok collected ∧
      ∃ stopped, run { Settings.default with failFast := true } twoLegacyNames = .ok stopped ∧
        StopsAtFirst twoLegacyNames (readingProblems twoLegacyNames)
          (courseOf Settings.default twoLegacyNames) stopped collected := by
  have evaluated : succeedsWith (run { Settings.default with failFast := false } twoLegacyNames)
      (fun _ => true) = true := by
    decide +kernel
  obtain ⟨collected, returns, -⟩ := exists_of_succeedsWith evaluated
  exact ⟨collected, returns, run_firstError Settings.default twoLegacyNames returns⟩

end ModuleGlue.Expansion
