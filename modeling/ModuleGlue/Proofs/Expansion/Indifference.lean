import ModuleGlue.Proofs.Expansion.Escapes
import ModuleGlue.Proofs.Expansion.FirstError

/-!
Contract: what an expansion finds does not depend on what it writes.

What is found — the errors, the deprecations and the modules — is a function of the steps that add
to the record. The name for the runtime, the module that it is imported from and the entry points
have no part in these steps.

Main statement: `run_report_eq` (two expansions of the same code, under settings that agree on when
to end, find the same).

Owns: what is found in some steps, and the comparison of two settings.

Does not own: which expansions give an outcome.
-/

namespace ModuleGlue.Expansion

open ModuleGlue.Text (isIdentifier)
open ModuleGlue.Directive (Options)
open ModuleGlue.Source (AllNamed Function Module Statement Suite)

/-! ## What is found -/

/-- What the outcome of an expansion says, its code apart. -/
structure Report where
  errors : List String
  warnings : List String
  modules : List String
deriving DecidableEq

def Outcome.report (outcome : Outcome) : Report :=
  ⟨outcome.errors, outcome.warnings, outcome.modules⟩

/-- Success can be seen in the report. -/
theorem Outcome.succeeded_eq (outcome : Outcome) :
    outcome.succeeded = outcome.report.errors.isEmpty := by
  unfold Outcome.succeeded Outcome.report Outcome.errors
  cases outcome.problems <;> rfl

/-- What is found in some steps. With `failFast`, what comes after the first error does not count,
and no module does. -/
def reportOf (failFast : Bool) (steps : List Step) : Report :=
  match failFast, steps.flatMap Step.errors with
  | true, first :: _ =>
    ⟨[first.render], ((untilError steps).flatMap Step.deprecations).map Deprecation.render, []⟩
  | _, errors =>
    ⟨errors.map Diagnostic.render, (steps.flatMap Step.deprecations).map Deprecation.render,
      steps.flatMap Step.modules⟩

theorem reportOf_of_fine {failFast : Bool} {steps : List Step}
    (fine : steps.flatMap Step.errors = []) :
    reportOf failFast steps =
      ⟨[], (steps.flatMap Step.deprecations).map Deprecation.render,
        steps.flatMap Step.modules⟩ := by
  unfold reportOf
  rw [fine]
  cases failFast <;> rfl

theorem reportOf_collecting (steps : List Step) :
    reportOf false steps =
      ⟨(steps.flatMap Step.errors).map Diagnostic.render,
        (steps.flatMap Step.deprecations).map Deprecation.render,
        steps.flatMap Step.modules⟩ := rfl

theorem reportOf_of_split {before after : List Step} {diagnostic : Diagnostic}
    {others : List Diagnostic} {deprecations : List Deprecation} {modules : List String}
    (fine : before.flatMap Step.errors = []) :
    reportOf true (before ++ .noted (diagnostic :: others) deprecations modules :: after) =
      ⟨[diagnostic.render],
        (before.flatMap Step.deprecations ++ deprecations).map Deprecation.render, []⟩ := by
  have wrong : (Step.noted (diagnostic :: others) deprecations modules).errors ≠ [] :=
    List.cons_ne_nil diagnostic others
  unfold reportOf
  rw [untilError_of_errors fine wrong, List.flatMap_append, fine, List.nil_append,
    List.flatMap_append, List.flatMap_singleton]
  rfl

/-- **What an expansion reports is what is found in its steps.** -/
theorem report_of_expandFile {settings : Settings} {code : String} {file : Module}
    {outcome : Outcome} (returns : expandFile settings code file = .ok outcome) :
    outcome.report = reportOf settings.failFast (course settings file.body) := by
  have ends := expandFile_ends settings code file
  rw [returns] at ends
  cases ends with
  | expanded passes fine written same =>
      rw [reportOf_of_fine fine]
      rfl
  | collected passes wrong =>
      have collecting : settings.failFast = false := by
        by_contra fast
        rw [Bool.not_eq_false] at fast
        rw [fast] at passes
        exact wrong (errors_of_passes passes)
      rw [collecting, reportOf_collecting]
      unfold Outcome.report Outcome.errors Outcome.warnings
      rw [List.map_map]
      rfl
  | stopped split passes fast =>
      rw [fast] at passes ⊢
      rw [split, reportOf_of_split (errors_of_passes passes)]
      rfl

/-! ## Steps that are told -/

def told (steps : List Step) : List Step :=
  steps.filter fun
    | .noted _ _ _ => true
    | .stuck _ => false

theorem told_append (first second : List Step) :
    told (first ++ second) = told first ++ told second :=
  List.filter_append ..

theorem told_flatMap {α : Type} (stepsFor : α → List Step) (items : List α) :
    told (items.flatMap stepsFor) = items.flatMap fun item => told (stepsFor item) :=
  List.filter_flatMap

/-- Of a step that is stuck, nothing can be told. -/
theorem flatMap_told {α : Type} (read : Step → List α) (nothing : ∀ error, read (.stuck error) = [])
    (steps : List Step) : (told steps).flatMap read = steps.flatMap read := by
  induction steps with
  | nil => rfl
  | cons step rest inductionHypothesis =>
      cases step with
      | noted errors deprecations modules =>
          exact congrArg (read (.noted errors deprecations modules) ++ ·) inductionHypothesis
      | stuck error =>
          rw [List.flatMap_cons, nothing, List.nil_append]
          exact inductionHypothesis

theorem untilError_told (steps : List Step) :
    untilError (told steps) = told (untilError steps) := by
  induction steps with
  | nil => rfl
  | cons step rest inductionHypothesis =>
      cases step with
      | noted errors deprecations modules =>
          cases errors with
          | nil => exact congrArg (Step.noted [] deprecations modules :: ·) inductionHypothesis
          | cons first others => rfl
      | stuck error => exact inductionHypothesis

/-- What is found is found in the steps that are told. -/
theorem reportOf_told (failFast : Bool) (steps : List Step) :
    reportOf failFast (told steps) = reportOf failFast steps := by
  unfold reportOf
  rw [flatMap_told _ (fun _ => rfl), flatMap_told _ (fun _ => rfl), flatMap_told _ (fun _ => rfl),
    untilError_told, flatMap_told _ (fun _ => rfl)]

/-! ## Two settings -/

section
variable {runtime runtime' : String}

/-- Two builders that differ in the name for the runtime refuse the same functions, for the same
reason. -/
theorem build_agrees (function : Function) (options : Options)
    (isRuntime : isIdentifier runtime = true) (isRuntime' : isIdentifier runtime' = true)
    (isFunction : isIdentifier function.signature.name = true) :
    (∃ wrapper wrapper', Wrapper.build runtime function options = .ok wrapper ∧
      Wrapper.build runtime' function options = .ok wrapper') ∨
    ∃ failure, Wrapper.build runtime function options = .error failure ∧
      Wrapper.build runtime' function options = .error failure := by
  by_cases refused : (options.passModule && !function.signature.takesPositional) = true
  · right
    exact ⟨_, if_pos refused, if_pos refused⟩
  · -- Without that rule, a builder has no reason of its own to refuse.
    have builds : ∀ {name : String}, isIdentifier name = true →
        ∃ wrapper, Wrapper.build name function options = .ok wrapper := by
      intro name isName
      refine (build_of_identifiers options isName isFunction).resolve_right fun broken => ?_
      unfold Wrapper.build at broken
      rw [if_neg refused, bind_eq_error_iff] at broken
      rcases broken with unread | ⟨code, -, impossible⟩
      · unfold ofSource Except.mapError at unread
        split at unread <;> cases unread
      · cases impossible
    obtain ⟨wrapper, built⟩ := builds isRuntime
    obtain ⟨wrapper', built'⟩ := builds isRuntime'
    exact Or.inl ⟨wrapper, wrapper', built, built'⟩

theorem statementStep_agrees {statement : Statement} (isRuntime : isIdentifier runtime = true)
    (isRuntime' : isIdentifier runtime' = true) (named : AllNamed statement.functions) :
    statementStep (Wrapper.build runtime) statement =
      statementStep (Wrapper.build runtime') statement := by
  unfold statementStep
  cases is : statement.function? with
  | none =>
      unfold expandStatement
      rw [is]
  | some function =>
      rw [expandStatement_of_function is, expandStatement_of_function is]
      cases read : readExport function with
      | error reason =>
          have refuses := readExport_eq_error_iff.1 read
          rw [expandFunction_of_refuses refuses, expandFunction_of_refuses refuses]
      | ok found =>
          cases found with
          | none =>
              have unmarked := readExport_eq_none_iff.1 read
              rw [expandFunction_of_none unmarked, expandFunction_of_none unmarked]
          | some found =>
              obtain ⟨mark, exports⟩ := readExport_eq_some_iff.1 read
              have isFunction : isIdentifier found.function.signature.name = true := by
                rw [exports.function_eq]
                rw [Source.Statement.eq_toStatement is] at named
                exact named.right function List.mem_cons_self
              unfold expandFunction exportedBlock
              rw [read]
              dsimp only [ofRule, Except.mapError, bind, Except.bind, pure, Except.pure]
              rcases build_agrees found.function found.descriptor.options isRuntime isRuntime'
                  isFunction with ⟨wrapper, wrapper', built, built'⟩ | ⟨failure, failed, failed'⟩
              · rw [built, built']
              · rw [failed, failed']

theorem bodySteps_agree {body : Suite} (isRuntime : isIdentifier runtime = true)
    (isRuntime' : isIdentifier runtime' = true) (named : AllNamed body.functions) :
    bodySteps (Wrapper.build runtime) body = bodySteps (Wrapper.build runtime') body := by
  cases body with
  | inline parts ending => rfl
  | block header indent statements footer =>
      refine List.map_congr_left fun statement inside => ?_
      refine statementStep_agrees isRuntime isRuntime' fun function found => named function ?_
      rw [Source.Suite.functions, Source.Statement.allFunctions_eq_flatMap]
      exact List.mem_flatMap.2 ⟨statement, inside, found⟩

end

section
variable {settings settings' : Settings}

/-- Of the steps behind a body, none is told. -/
theorem told_entrySteps (settings : Settings) (function : Function) :
    told (entrySteps settings function) = [] := by
  unfold entrySteps
  split
  · split <;> rfl
  · rfl

theorem told_moduleSteps_agree {function : Function}
    (isRuntime : isIdentifier settings.runtimeAlias = true)
    (isRuntime' : isIdentifier settings'.runtimeAlias = true)
    (named : AllNamed function.body.functions) :
    told (moduleSteps settings function) = told (moduleSteps settings' function) := by
  unfold moduleSteps
  cases readModule function with
  | error diagnostic => rfl
  | ok reading =>
      dsimp only
      rw [← List.singleton_append, ← List.singleton_append (l := entrySteps settings' function),
        told_append, told_append, told_append, told_append, told_entrySteps, told_entrySteps,
        bodySteps_agree isRuntime isRuntime' named]

theorem told_course_agree {statements : List Statement}
    (isRuntime : isIdentifier settings.runtimeAlias = true)
    (isRuntime' : isIdentifier settings'.runtimeAlias = true)
    (named : AllNamed (Statement.allFunctions statements)) :
    told (course settings statements) = told (course settings' statements) := by
  unfold course stepsOf
  rw [told_flatMap, told_flatMap]
  refine List.flatMap_congr fun function member => told_moduleSteps_agree isRuntime isRuntime' ?_
  exact fun inner found =>
    named inner (Source.Statement.allInner_subset statements (List.mem_filter.1 member).1 found)

/-- **What is found does not depend on what is written.** Two expansions of the same code that give
an outcome report the same errors, the same warnings in the same order, and the same modules, if
they agree on whether the first error ends them. -/
theorem run_report_eq {code : String} {outcome outcome' : Outcome}
    (isRuntime : isIdentifier settings.runtimeAlias = true)
    (isRuntime' : isIdentifier settings'.runtimeAlias = true)
    (agree : settings.failFast = settings'.failFast)
    (returns : run settings code = .ok outcome) (returns' : run settings' code = .ok outcome') :
    outcome.report = outcome'.report := by
  unfold run at returns returns'
  cases read : Module.ofText code with
  | ok file =>
      rw [read] at returns returns'
      rw [report_of_expandFile returns, report_of_expandFile returns', agree, ← reportOf_told,
        ← reportOf_told settings'.failFast (course settings' file.body),
        told_course_agree isRuntime isRuntime' (Source.isIdentifier_of_read read)]
  | error error =>
      rw [read] at returns returns'
      cases error with
      | malformed =>
          rw [← Except.ok.inj returns, ← Except.ok.inj returns']
      | mixedLiterals => cases returns
      | illFormedLiteral => cases returns

end

end ModuleGlue.Expansion
