import ModuleGlue.Proofs.Expansion.Replacement

/-!
Contract: the steps of an expansion.

Each statement in the body of a module is a step; so are decorators of a module's function that
break a rule, a module that is found, and documentation without a value. The steps do not depend on
whether errors are collected: that only decides which step ends the expansion.

Main statements: `collectStatements_of_passes`, `collectStatements_of_ends`,
`expandUntilError_of_passes` and `expandUntilError_of_ends` (what the statements of a body come to,
in terms of their steps).

Owns: the steps, which of them end an expansion, and the body of one module.

Does not own: the order in which an expansion comes to the modules of a tree.
-/

namespace ModuleGlue.Expansion

open ModuleGlue.Source (Function SourceError Statement Suite)

/-! ## Steps -/

inductive Step where
  /-- Something is added to the record. -/
  | noted (errors : List Diagnostic) (deprecations : List Deprecation) (modules : List String)
  /-- Code cannot be read, or a literal has no value. -/
  | stuck (error : SourceError)

namespace Step

def errors : Step → List Diagnostic
  | .noted errors _ _ => errors
  | .stuck _ => []

def deprecations : Step → List Deprecation
  | .noted _ deprecations _ => deprecations
  | .stuck _ => []

def modules : Step → List String
  | .noted _ _ modules => modules
  | .stuck _ => []

/-- Does an expansion end with this step? With `failFast` every error ends it. -/
def ends (failFast : Bool) : Step → Bool
  | .noted errors _ _ => failFast && !errors.isEmpty
  | .stuck _ => true

end Step

def Record.after (record : Record) (steps : List Step) : Record :=
  ⟨record.errors ++ steps.flatMap Step.errors,
    record.deprecations ++ steps.flatMap Step.deprecations,
    record.modules ++ steps.flatMap Step.modules⟩

theorem Record.after_nil (record : Record) : record.after [] = record := by
  simp [Record.after]

theorem Record.after_append (record : Record) (first second : List Step) :
    record.after (first ++ second) = (record.after first).after second := by
  simp [Record.after, List.flatMap_append, List.append_assoc]

def Passes (failFast : Bool) (steps : List Step) : Prop :=
  ∀ step ∈ steps, step.ends failFast = false

theorem passes_nil (failFast : Bool) : Passes failFast [] :=
  fun _ member => nomatch member

theorem passes_singleton {failFast : Bool} {step : Step} (goesOn : step.ends failFast = false) :
    Passes failFast [step] := by
  intro other member
  rw [List.mem_singleton.1 member]
  exact goesOn

theorem Passes.append {failFast : Bool} {first second : List Step}
    (passes : Passes failFast first) (others : Passes failFast second) :
    Passes failFast (first ++ second) := by
  intro step member
  rcases List.mem_append.1 member with found | found
  · exact passes step found
  · exact others step found

/-- What does not end an expansion up to the first error does not end one that collects errors. -/
theorem Passes.collecting {failFast : Bool} {steps : List Step} (passes : Passes failFast steps) :
    Passes false steps := by
  intro step member
  have goesOn := passes step member
  cases step with
  | noted errors deprecations modules => rfl
  | stuck error => cases goesOn

/-- Steps that pass where the first error ends an expansion have no errors. -/
theorem errors_of_passes {steps : List Step} (passes : Passes true steps) :
    steps.flatMap Step.errors = [] := by
  rw [List.flatMap_eq_nil_iff]
  intro step member
  have goesOn := passes step member
  cases step with
  | noted errors deprecations modules =>
      rw [Step.errors]
      simpa [Step.ends] using goesOn
  | stuck error => cases goesOn

/-- An expansion up to the first error goes through all steps if one that collects errors does, and
none is wrong. -/
theorem passes_of_fine {failFast : Bool} {steps : List Step} (passes : Passes failFast steps)
    (fine : steps.flatMap Step.errors = []) : Passes true steps := by
  intro step member
  have goesOn := passes step member
  cases step with
  | noted errors deprecations modules =>
      have none : errors = [] := List.flatMap_eq_nil_iff.1 fine _ member
      rw [none]
      rfl
  | stuck error => cases goesOn

/-- Either an expansion goes through all steps, or there is a first one that ends it. -/
theorem passes_or_ends (failFast : Bool) (steps : List Step) :
    Passes failFast steps ∨ ∃ before step after, steps = before ++ step :: after ∧
      Passes failFast before ∧ step.ends failFast = true := by
  induction steps with
  | nil => exact Or.inl fun step member => nomatch member
  | cons step rest inductionHypothesis =>
      cases here : step.ends failFast with
      | true => exact Or.inr ⟨[], step, rest, rfl, passes_nil failFast, here⟩
      | false =>
          have first := passes_singleton here
          rcases inductionHypothesis with passes | ⟨before, last, after, rfl, passes, ends⟩
          · exact Or.inl (first.append passes)
          · exact Or.inr ⟨step :: before, last, after, rfl, first.append passes, ends⟩

/-! ## The steps of a tree -/

def Failure.step : Failure → Step
  | .broken diagnostic => .noted [diagnostic] diagnostic.recorded []
  | .source error => .stuck error

/-- The step that a statement in the body of a module is. -/
def statementStep (build : WrapperBuilder) (statement : Statement) : Step :=
  match expandStatement build statement with
  | .ok progress => .noted progress.errors progress.deprecations []
  | .error failure => failure.step

def bodySteps (build : WrapperBuilder) : Suite → List Step
  | .inline _ _ => []
  | .block _ _ body _ => body.map (statementStep build)

def entrySteps (settings : Settings) (function : Function) : List Step :=
  if settings.entryPoints then
    match function.body.documentation with
    | .ok _ => []
    | .error error => [.stuck error]
  else []

def moduleSteps (settings : Settings) (function : Function) : List Step :=
  match readModule function with
  | .error diagnostic => [.noted [diagnostic] [] []]
  | .ok _ =>
    bodySteps (Wrapper.build settings.runtimeAlias) function.body ++
      .noted [] [] [externalName function] :: entrySteps settings function

/-- The steps of some functions: those of the functions of modules among them. -/
def stepsOf (settings : Settings) (functions : List Function) : List Step :=
  (functions.filter isModuleFunction).flatMap (moduleSteps settings)

def course (settings : Settings) (statements : List Statement) : List Step :=
  stepsOf settings (Statement.allFunctions statements)

theorem stepsOf_append (settings : Settings) (first second : List Function) :
    stepsOf settings (first ++ second) = stepsOf settings first ++ stepsOf settings second := by
  unfold stepsOf
  rw [List.filter_append, List.flatMap_append]

/-! ## Bodies -/

section
variable {build : WrapperBuilder} {statement : Statement} {statements : List Statement}

/-- A statement that breaks a rule is collected. -/
theorem expandStatement_ne_broken (diagnostic : Diagnostic) :
    expandStatement build statement ≠ .error (.broken diagnostic) := by
  intro broken
  unfold expandStatement at broken
  split at broken
  · unfold expandFunction at broken
    dsimp only at broken
    split at broken
    · cases broken
    · rename_i notBroken
      exact notBroken diagnostic broken
  · cases broken

theorem statementStep_of_ok {progress : Progress}
    (expanded : expandStatement build statement = .ok progress) :
    statementStep build statement = .noted progress.errors progress.deprecations [] := by
  unfold statementStep
  rw [expanded]

theorem statementStep_of_error {failure : Failure}
    (failed : expandStatement build statement = .error failure) :
    ∃ error, failure = .source error ∧ statementStep build statement = .stuck error := by
  cases failure with
  | broken diagnostic => exact absurd failed (expandStatement_ne_broken diagnostic)
  | source error =>
      refine ⟨error, rfl, ?_⟩
      unfold statementStep
      rw [failed]
      rfl

/-- No module is found in the body of another one. -/
theorem modules_of_statementSteps :
    (statements.map (statementStep build)).flatMap Step.modules = [] := by
  rw [List.flatMap_eq_nil_iff]
  intro step member
  obtain ⟨statement, -, rfl⟩ := List.mem_map.1 member
  cases expanded : expandStatement build statement with
  | ok progress =>
      rw [statementStep_of_ok expanded]
      rfl
  | error failure =>
      obtain ⟨error, -, stuck⟩ := statementStep_of_error expanded
      rw [stuck]
      rfl

/-- In the steps of a module's function one module is found, if the decorators can be read. -/
theorem modules_of_moduleSteps (settings : Settings) {function : Function}
    {reading : ModuleReading} (read : readModule function = .ok reading) :
    (moduleSteps settings function).flatMap Step.modules = [externalName function] := by
  have body : (bodySteps (Wrapper.build settings.runtimeAlias) function.body).flatMap
      Step.modules = [] := by
    cases function.body with
    | inline parts ending => rfl
    | block header indent statements footer => exact modules_of_statementSteps
  have entry : (entrySteps settings function).flatMap Step.modules = [] := by
    unfold entrySteps
    split
    · split <;> rfl
    · rfl
  unfold moduleSteps
  rw [read]
  dsimp only
  rw [List.flatMap_append, List.flatMap_cons, body, entry]
  rfl

/-- Without a statement that is stuck, what is collected is what the steps add. -/
theorem collectStatements_of_passes (passes : Passes false (statements.map (statementStep build))) :
    ∃ progress, collectStatements build statements = .ok progress ∧
      progress.errors = (statements.map (statementStep build)).flatMap Step.errors ∧
      progress.deprecations = (statements.map (statementStep build)).flatMap Step.deprecations := by
  induction statements with
  | nil => exact ⟨.empty, rfl, rfl, rfl⟩
  | cons statement rest inductionHypothesis =>
      rw [List.map_cons] at passes
      obtain ⟨others, collected, errors, deprecations⟩ :=
        inductionHypothesis fun step member => passes step (List.mem_cons_of_mem _ member)
      have here := passes _ List.mem_cons_self
      unfold collectStatements
      cases expanded : expandStatement build statement with
      | error failure =>
          obtain ⟨error, -, step⟩ := statementStep_of_error expanded
          rw [step] at here
          cases here
      | ok first =>
          refine ⟨first.append others, ?_, ?_, ?_⟩
          · rw [collected]
            rfl
          · rw [List.map_cons, List.flatMap_cons, statementStep_of_ok expanded, ← errors]
            rfl
          · rw [List.map_cons, List.flatMap_cons, statementStep_of_ok expanded, ← deprecations]
            rfl

/-- A statement that is stuck ends the expansion of the body. -/
theorem collectStatements_of_ends {before after : List Step} {step : Step}
    (split : statements.map (statementStep build) = before ++ step :: after)
    (passes : Passes false before) (ends : step.ends false = true) :
    ∃ error, step = .stuck error ∧ collectStatements build statements = .error (.source error) := by
  induction statements generalizing before with
  | nil => exact absurd split (List.append_ne_nil_of_right_ne_nil _ (List.cons_ne_nil _ _)).symm
  | cons statement rest inductionHypothesis =>
      rw [List.map_cons] at split
      unfold collectStatements
      cases before with
      | nil =>
          obtain ⟨rfl, -⟩ := List.cons.inj split
          cases expanded : expandStatement build statement with
          | ok progress =>
              rw [statementStep_of_ok expanded] at ends
              cases ends
          | error failure =>
              obtain ⟨error, rfl, stuck⟩ := statementStep_of_error expanded
              exact ⟨error, stuck, rfl⟩
      | cons first others =>
          obtain ⟨rfl, follow⟩ := List.cons.inj split
          have here := passes _ List.mem_cons_self
          cases expanded : expandStatement build statement with
          | error failure =>
              obtain ⟨error, -, stuck⟩ := statementStep_of_error expanded
              rw [stuck] at here
              cases here
          | ok progress =>
              obtain ⟨error, stuck, failed⟩ := inductionHypothesis follow
                fun step member => passes step (List.mem_cons_of_mem _ member)
              refine ⟨error, stuck, ?_⟩
              rw [failed]
              rfl

/-- Without an error, it makes no difference whether the first one would end the expansion. -/
theorem expandUntilError_of_passes {recorded : List Deprecation}
    (passes : Passes true (statements.map (statementStep build))) :
    expandUntilError build recorded statements = collectStatements build statements := by
  induction statements generalizing recorded with
  | nil => rfl
  | cons statement rest inductionHypothesis =>
      have here := passes _ List.mem_cons_self
      unfold expandUntilError collectStatements
      cases expanded : expandStatement build statement with
      | error failure => rfl
      | ok progress =>
          rw [statementStep_of_ok expanded] at here
          have fine : progress.errors = [] := by
            simpa [Step.ends] using here
          dsimp only [bind, Except.bind]
          rw [fine, inductionHypothesis fun step member =>
            passes step (List.mem_cons_of_mem _ member)]

/-- The first statement that is stuck or wrong ends the expansion of the body; if it is wrong, its
error carries all records up to it. -/
theorem expandUntilError_of_ends (recorded : List Deprecation) {before after : List Step}
    {step : Step} (split : statements.map (statementStep build) = before ++ step :: after)
    (passes : Passes true before) (ends : step.ends true = true) :
    (∃ error, step = .stuck error ∧
      expandUntilError build recorded statements = .error (.source error)) ∨
    ∃ diagnostic others deprecations modules,
      step = .noted (diagnostic :: others) deprecations modules ∧
      expandUntilError build recorded statements = .error (.broken { diagnostic with
        deprecations := some (recorded ++ before.flatMap Step.deprecations ++ deprecations) }) := by
  induction statements generalizing before recorded with
  | nil => exact absurd split (List.append_ne_nil_of_right_ne_nil _ (List.cons_ne_nil _ _)).symm
  | cons statement rest inductionHypothesis =>
      rw [List.map_cons] at split
      unfold expandUntilError
      cases before with
      | nil =>
          obtain ⟨rfl, -⟩ := List.cons.inj split
          cases expanded : expandStatement build statement with
          | error failure =>
              obtain ⟨error, rfl, stuck⟩ := statementStep_of_error expanded
              exact Or.inl ⟨error, stuck, rfl⟩
          | ok progress =>
              obtain ⟨blocks, errors, deprecations⟩ := progress
              rw [statementStep_of_ok expanded] at ends ⊢
              cases errors with
              | nil => cases ends
              | cons diagnostic others =>
                  refine Or.inr ⟨diagnostic, others, deprecations, [], rfl, ?_⟩
                  rw [List.flatMap_nil, List.append_nil]
                  rfl
      | cons first others =>
          obtain ⟨rfl, follow⟩ := List.cons.inj split
          have here := passes _ List.mem_cons_self
          cases expanded : expandStatement build statement with
          | error failure =>
              obtain ⟨error, -, stuck⟩ := statementStep_of_error expanded
              rw [stuck] at here
              cases here
          | ok progress =>
              rw [statementStep_of_ok expanded] at here
              have fine : progress.errors = [] := by
                simpa [Step.ends] using here
              dsimp only [bind, Except.bind]
              rw [fine]
              rcases inductionHypothesis (recorded ++ progress.deprecations) follow
                  fun step member => passes step (List.mem_cons_of_mem _ member) with
                ⟨error, stuck, failed⟩ | ⟨diagnostic, others', deprecations, modules, wrong, failed⟩
              · refine Or.inl ⟨error, stuck, ?_⟩
                rw [failed]
              · refine Or.inr ⟨diagnostic, others', deprecations, modules, wrong, ?_⟩
                rw [failed, List.flatMap_cons, statementStep_of_ok expanded]
                simp only [Step.deprecations, List.append_assoc]

end

end ModuleGlue.Expansion
