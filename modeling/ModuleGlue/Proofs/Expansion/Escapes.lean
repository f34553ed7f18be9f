import ModuleGlue.Conversion
import ModuleGlue.Proofs.Source.FunctionNames
import ModuleGlue.Proofs.Source.Refusals
import ModuleGlue.Proofs.Expansion.WrapperCall
import ModuleGlue.Proofs.Expansion.Written

/-!
Contract: the literals that an expansion does not survive.

With valid settings, there are two ways in which an expansion gives no outcome: the code joins a
literal of text with one of bytes, or the documentation of a module that gets an entry point is a
literal without a value. Anything else that is wrong with the code is in the outcome.

Main statement: `run_escapes_iff` (it fails in these two ways only, and an outcome that is no
success has errors and the code as it was).

Owns: when an expansion fails, and what an outcome says of it.

Does not own: which literals have a value.
-/

namespace ModuleGlue.Expansion

open ModuleGlue.Text
open ModuleGlue.Source (AllNamed Function Module SourceError Statement Suite)

/-! ## Bodies -/

/-- No statement is stuck where all functions have names. -/
theorem exists_expandStatement_eq {runtime : String} {statement : Statement}
    (isRuntime : isIdentifier runtime = true) (named : AllNamed statement.functions) :
    ∃ progress, expandStatement (Wrapper.build runtime) statement = .ok progress := by
  cases is : statement.function? with
  | none =>
      unfold expandStatement
      rw [is]
      exact ⟨_, rfl⟩
  | some function =>
      rw [expandStatement_of_function is]
      cases read : readExport function with
      | error reason =>
          rw [expandFunction_of_refuses (readExport_eq_error_iff.1 read)]
          exact ⟨_, rfl⟩
      | ok found =>
          cases found with
          | none =>
              rw [expandFunction_of_none (readExport_eq_none_iff.1 read)]
              exact ⟨_, rfl⟩
          | some found =>
              obtain ⟨mark, exports⟩ := readExport_eq_some_iff.1 read
              have isFunction : isIdentifier found.function.signature.name = true := by
                rw [exports.function_eq]
                rw [Source.Statement.eq_toStatement is] at named
                exact named.right function List.mem_cons_self
              unfold expandFunction exportedBlock
              rw [read]
              dsimp only [ofRule, Except.mapError, bind, Except.bind, pure, Except.pure]
              rcases build_of_identifiers found.descriptor.options isRuntime isFunction with
                ⟨wrapper, built⟩ | refused
              · rw [built]
                exact ⟨_, rfl⟩
              · rw [refused]
                exact ⟨_, rfl⟩

theorem stuck_not_mem_bodySteps {runtime : String} {body : Suite} {error : SourceError}
    (isRuntime : isIdentifier runtime = true) (named : AllNamed body.functions) :
    .stuck error ∉ bodySteps (Wrapper.build runtime) body := by
  intro member
  cases body with
  | inline parts ending => cases member
  | block header indent statements footer =>
      obtain ⟨statement, inside, same⟩ := List.mem_map.1 member
      have here : AllNamed statement.functions := by
        intro function found
        refine named function ?_
        rw [Source.Suite.functions, Source.Statement.allFunctions_eq_flatMap]
        exact List.mem_flatMap.2 ⟨statement, inside, found⟩
      obtain ⟨progress, expanded⟩ := exists_expandStatement_eq isRuntime here
      rw [statementStep_of_ok expanded] at same
      cases same

/-! ## Joined lists -/

/-- A member of joined lists stands in one of them, behind all others. -/
theorem exists_of_flatMap_eq {α β : Type} {expand : α → List β} {items : List α}
    {before after : List β} {found : β} (split : items.flatMap expand = before ++ found :: after) :
    ∃ front item back inner outer, items = front ++ item :: back ∧
      expand item = inner ++ found :: outer ∧ before = front.flatMap expand ++ inner := by
  induction items generalizing before with
  | nil => cases (List.append_eq_nil_iff.1 split.symm).2
  | cons item rest inductionHypothesis =>
      rw [List.flatMap_cons] at split
      rcases List.append_eq_append_iff.1 split with ⟨behind, rfl, others⟩ | ⟨inside, here, others⟩
      · obtain ⟨front, item', back, inner, outer, rfl, expanded, rfl⟩ :=
          inductionHypothesis others
        refine ⟨item :: front, item', back, inner, outer, rfl, expanded, ?_⟩
        rw [List.flatMap_cons, List.append_assoc]
      · cases inside with
        | nil =>
            have others : rest.flatMap expand = [] ++ found :: after := others.symm
            obtain ⟨front, item', back, inner, outer, rfl, expanded, none⟩ :=
              inductionHypothesis others
            refine ⟨item :: front, item', back, inner, outer, rfl, expanded, ?_⟩
            rw [List.flatMap_cons, List.append_assoc, ← none, here, List.append_nil,
              List.append_nil]
        | cons first inside =>
            obtain ⟨rfl, -⟩ := List.cons.inj others
            exact ⟨[], item, rest, before, inside, rfl, here, rfl⟩

/-! ## Modules -/

/-- A module that an expansion comes to the documentation of, which is ill-formed: the decorators
break no rule, and nothing in the body ends the expansion. -/
structure IllDocumented (settings : Settings) (function : Function) : Prop where
  entries : settings.entryPoints = true
  read : ∃ reading, readModule function = .ok reading
  body : Passes settings.failFast
    (bodySteps (Wrapper.build settings.runtimeAlias) function.body)
  illFormed : function.body.documentation = .error .illFormedLiteral

/-- Some steps get stuck: they have one that is stuck, and nothing before it ends an expansion. -/
def GetsStuck (failFast : Bool) (steps : List Step) (error : SourceError) : Prop :=
  ∃ before after, steps = before ++ .stuck error :: after ∧ Passes failFast before

theorem IllDocumented.getsStuck {settings : Settings} {function : Function}
    (ill : IllDocumented settings function) :
    GetsStuck settings.failFast (moduleSteps settings function) .illFormedLiteral := by
  obtain ⟨entries, ⟨reading, read⟩, body, illFormed⟩ := ill
  refine ⟨bodySteps (Wrapper.build settings.runtimeAlias) function.body ++
    [.noted [] [] [externalName function]], [], ?_, body.append (passes_singleton ?_)⟩
  · unfold moduleSteps entrySteps
    rw [read, if_pos entries, illFormed, List.append_assoc]
    rfl
  · simp [Step.ends]

theorem documentation_of_stuck {settings : Settings} {function : Function} {error : SourceError}
    (stuck : .stuck error ∈ entrySteps settings function) :
    settings.entryPoints = true ∧ function.body.documentation = .error error := by
  unfold entrySteps at stuck
  split at stuck
  · rename_i entries
    split at stuck
    · cases stuck
    · rename_i reason documented
      obtain rfl := Step.stuck.inj (List.mem_singleton.1 stuck)
      exact ⟨entries, documented⟩
  · cases stuck

/-- What a module gets stuck with is its documentation. -/
theorem illDocumented_of_getsStuck {settings : Settings} {function : Function}
    {error : SourceError} (isRuntime : isIdentifier settings.runtimeAlias = true)
    (named : AllNamed function.body.functions)
    (stuck : GetsStuck settings.failFast (moduleSteps settings function) error) :
    error = .illFormedLiteral ∧ IllDocumented settings function := by
  obtain ⟨before, after, split, passes⟩ := stuck
  have member : Step.stuck error ∈ before ++ .stuck error :: after :=
    List.mem_append_right before List.mem_cons_self
  unfold moduleSteps at split
  cases read : readModule function with
  | error diagnostic =>
      rw [read] at split
      rw [← split] at member
      cases List.mem_singleton.1 member
  | ok reading =>
      rw [read] at split
      have free : Step.stuck error ∉ bodySteps (Wrapper.build settings.runtimeAlias)
          function.body := stuck_not_mem_bodySteps isRuntime named
      rcases List.append_eq_append_iff.1 split with
        ⟨behind, rfl, others⟩ | ⟨inside, body, others⟩
      · cases behind with
        | nil => cases (List.cons.inj others).1
        | cons found behind =>
            obtain ⟨rfl, entry⟩ := List.cons.inj others
            have last : Step.stuck error ∈ entrySteps settings function :=
              entry ▸ List.mem_append_right behind List.mem_cons_self
            obtain ⟨entries, documented⟩ := documentation_of_stuck last
            obtain rfl := Source.Suite.reason_of_documentation documented
            exact ⟨rfl, entries, ⟨reading, read⟩,
              fun step member => passes step (List.mem_append_left _ member), documented⟩
      · cases inside with
        | nil => cases (List.cons.inj others).1
        | cons found inside =>
            obtain ⟨rfl, -⟩ := List.cons.inj others
            exact absurd (body ▸ List.mem_append_right before List.mem_cons_self) free

/-! ## Files -/

/-- Among some functions of modules there is one whose documentation is ill-formed, and nothing in
those before it ends an expansion. -/
def ReachesIllDocumented (settings : Settings) (functions : List Function) : Prop :=
  ∃ before function after, functions = before ++ function :: after ∧
    (∀ other ∈ before, Passes settings.failFast (moduleSteps settings other)) ∧
    IllDocumented settings function

theorem getsStuck_course_iff {settings : Settings} {statements : List Statement}
    {error : SourceError} (isRuntime : isIdentifier settings.runtimeAlias = true)
    (named : AllNamed (Statement.allFunctions statements)) :
    GetsStuck settings.failFast (course settings statements) error ↔
      error = .illFormedLiteral ∧ ReachesIllDocumented settings (moduleFunctions statements) := by
  have course_eq : course settings statements =
      (moduleFunctions statements).flatMap (moduleSteps settings) := rfl
  rw [course_eq]
  constructor
  · rintro ⟨before, after, split, passes⟩
    obtain ⟨front, function, back, inner, outer, functions, steps, rfl⟩ :=
      exists_of_flatMap_eq split
    have member : function ∈ moduleFunctions statements :=
      functions ▸ List.mem_append_right front List.mem_cons_self
    have inside : AllNamed function.body.functions := fun other found =>
      named other (Source.Statement.allInner_subset statements (List.mem_filter.1 member).1 found)
    obtain ⟨rfl, ill⟩ := illDocumented_of_getsStuck isRuntime inside
      ⟨inner, outer, steps, fun step found => passes step (List.mem_append_right _ found)⟩
    refine ⟨rfl, front, function, back, functions, fun other found step here => ?_, ill⟩
    exact passes step (List.mem_append_left _ (List.mem_flatMap.2 ⟨other, found, here⟩))
  · rintro ⟨rfl, front, function, back, functions, passes, ill⟩
    obtain ⟨inner, outer, steps, others⟩ := ill.getsStuck
    refine ⟨front.flatMap (moduleSteps settings) ++ inner,
      outer ++ back.flatMap (moduleSteps settings), ?_, Passes.append ?_ others⟩
    · rw [functions, List.flatMap_append, List.flatMap_cons, steps]
      simp only [List.append_assoc, List.cons_append]
    · intro step found
      obtain ⟨other, member, here⟩ := List.mem_flatMap.1 found
      exact passes other member step here

/-- The first step that ends an expansion. -/
theorem find_ends_of_split {failFast : Bool} {before after : List Step} {step : Step}
    (passes : Passes failFast before) (ends : step.ends failFast = true) :
    (before ++ step :: after).find? (Step.ends failFast) = some step := by
  rw [List.find?_append, List.find?_eq_none.2 fun other member => by simp [passes other member],
    List.find?_cons_of_pos ends]
  rfl

/-- The expansion of a file fails exactly if its steps get stuck. -/
theorem expandFile_eq_error_iff {settings : Settings} {code : String} {file : Module}
    {error : SourceError} :
    expandFile settings code file = .error error ↔
      GetsStuck settings.failFast (course settings file.body) error := by
  have ends := expandFile_ends settings code file
  constructor
  · intro failed
    rw [failed] at ends
    cases ends with
    | stuck split passes => exact ⟨_, _, split, passes⟩
  · rintro ⟨before, after, split, passes⟩
    have first : (course settings file.body).find? (Step.ends settings.failFast) =
        some (.stuck error) := split ▸ find_ends_of_split passes rfl
    have member : .stuck error ∈ course settings file.body :=
      split ▸ List.mem_append_right before List.mem_cons_self
    generalize expandFile settings code file = outcome at ends ⊢
    cases ends with
    | expanded passes fine written same => cases passes _ member
    | collected passes wrong => cases passes _ member
    | stopped split' passes' fast =>
        rw [split', find_ends_of_split passes' (by simp [Step.ends, fast])] at first
        cases Option.some.inj first
    | stuck split' passes' =>
        rw [split', find_ends_of_split passes' rfl] at first
        rw [Step.stuck.inj (Option.some.inj first)]

/-! ## Settings -/

/-- The name for the runtime in valid settings is an identifier. -/
theorem isIdentifier_of_validate {values : Settings.Table} {settings : Settings}
    (valid : values.validate = .ok settings) : isIdentifier settings.runtimeAlias = true := by
  unfold Settings.Table.validate at valid
  dsimp only at valid
  split at valid
  · rename_i name module failFast entryPoints given _ _ _
    obtain rfl := Except.ok.inj valid
    dsimp only
    unfold Settings.Table.setting at given
    split at given
    · obtain rfl := Except.ok.inj given
      decide
    · rename_i value _
      cases value with
      | text written =>
          unfold Settings.Value.readName at given
          dsimp only at given
          split at given
          · rename_i is
            obtain rfl := Except.ok.inj given
            exact is
          · cases given
      | _ => cases given
  · cases valid

/-! ## Texts -/

/-- The ways in which an expansion gives no outcome. -/
inductive Escapes (settings : Settings) (code : String) : SourceError → Prop
  /-- A literal of text is joined with one of bytes. -/
  | mixedLiterals (read : Module.ofText code = .error .mixedLiterals) :
      Escapes settings code .mixedLiterals
  /-- The documentation of a module is ill-formed. -/
  | illFormedLiteral {file : Module} (read : Module.ofText code = .ok file)
      (reaches : ReachesIllDocumented settings (moduleFunctions file.body)) :
      Escapes settings code .illFormedLiteral

theorem run_eq_error_iff {settings : Settings} {code : String} {error : SourceError}
    (isRuntime : isIdentifier settings.runtimeAlias = true) :
    run settings code = .error error ↔ Escapes settings code error := by
  unfold run
  cases read : Module.ofText code with
  | ok file =>
      have named := Source.isIdentifier_of_read read
      refine (expandFile_eq_error_iff.trans (getsStuck_course_iff isRuntime named)).trans ?_
      constructor
      · rintro ⟨rfl, reaches⟩
        exact .illFormedLiteral read reaches
      · rintro (refused | ⟨same, reaches⟩)
        · cases read.symm.trans refused
        · obtain rfl := Except.ok.inj (read.symm.trans same)
          exact ⟨rfl, reaches⟩
  | error reason =>
      rcases Source.Module.reason_of_error read with rfl | rfl
      · constructor
        · intro failed
          cases failed
        · rintro (refused | ⟨same, -⟩)
          · cases read.symm.trans refused
          · cases read.symm.trans same
      · constructor
        · intro failed
          obtain rfl := Except.error.inj failed
          exact .mixedLiterals read
        · rintro (refused | ⟨same, -⟩)
          · rfl
          · cases read.symm.trans same

/-- What an outcome says of the code that it is for. -/
structure Reports (settings : Settings) (code : String) (outcome : Outcome) : Prop where
  /-- It is a success only if the code can be read and no step of its expansion is wrong. -/
  succeeded_iff : outcome.succeeded = true ↔
    ∃ file, Module.ofText code = .ok file ∧ Passes true (course settings file.body)
  /-- Otherwise it has the code as it was, -/
  unchanged : outcome.succeeded = false → outcome.code = code
  /-- and says what is wrong. -/
  errors : outcome.succeeded = false → outcome.errors ≠ []

theorem reports_of_run {settings : Settings} {code : String} {outcome : Outcome}
    (returns : run settings code = .ok outcome) : Reports settings code outcome := by
  have errors : outcome.succeeded = false → outcome.errors ≠ [] := by
    intro failed none
    rw [Outcome.errors, List.map_eq_nil_iff] at none
    rw [Outcome.succeeded, none] at failed
    cases failed
  unfold run at returns
  cases read : Module.ofText code with
  | error reason =>
      rw [read] at returns
      cases reason with
      | malformed =>
          obtain rfl := Except.ok.inj returns
          refine ⟨⟨?_, ?_⟩, fun _ => rfl, errors⟩
          · intro impossible
            cases impossible
          · rintro ⟨file, same, -⟩
            cases read.symm.trans same
      | mixedLiterals => cases returns
      | illFormedLiteral => cases returns
  | ok file =>
      rw [read] at returns
      have returns : expandFile settings code file = .ok outcome := returns
      refine ⟨⟨fun succeeded => ⟨file, read, passes_of_succeeded code returns succeeded⟩, ?_⟩,
        fun failed => ?_, errors⟩
      · rintro ⟨other, same, passes⟩
        obtain rfl := Except.ok.inj (read.symm.trans same)
        rw [Except.ok.inj (returns.symm.trans (expandFile_of_passes code passes).1)]
        rfl
      · have ends := expandFile_ends settings code file
        rw [returns] at ends
        cases ends with
        | expanded passes fine written same => cases failed
        | collected passes wrong => rfl
        | stopped split passes fast => rfl

/-- What a conversion comes to, for code with an outcome. -/
theorem convert_of_run {values : Settings.Table} {settings : Settings} {code : String}
    {outcome : Outcome} (valid : values.validate = .ok settings)
    (returns : run settings code = .ok outcome) :
    convert code values =
      if outcome.succeeded then .ok outcome.code else .error (.failed outcome.problems) := by
  unfold convert
  rw [valid]
  dsimp only
  rw [returns]

theorem convert_of_failed {values : Settings.Table} {settings : Settings} {code : String}
    {error : SourceError} (valid : values.validate = .ok settings)
    (failed : run settings code = .error error) : convert code values = .error (.source error) := by
  unfold convert
  rw [valid]
  dsimp only
  rw [failed]

/-- A literal of text that is joined with one of bytes. -/
def mixedLiterals : String := "x = \"a\" b\"b\"\n"

/-- A module whose documentation ends in an escape without its digits. -/
def illDocumented : String := "@pymodule\ndef m():\n    '\\x1'\n"

theorem escapes_mixedLiterals : Escapes Settings.default mixedLiterals .mixedLiterals := by
  have evaluated : failsWith (Module.ofText mixedLiterals)
      (fun reason => decide (reason = .mixedLiterals)) = true := by
    decide +kernel
  obtain ⟨reason, read, passed⟩ := exists_of_failsWith evaluated
  obtain rfl := of_decide_eq_true passed
  exact .mixedLiterals read

theorem escapes_illDocumented : Escapes Settings.default illDocumented .illFormedLiteral := by
  have evaluated : succeedsWith (Module.ofText illDocumented) (fun file =>
      (moduleFunctions file.body).length == 1 && (moduleFunctions file.body).all fun function =>
        succeedsWith (readModule function) (fun _ => true) &&
        (bodySteps (Wrapper.build Settings.default.runtimeAlias) function.body).all
          (fun step => !step.ends false) &&
        decide (function.body.firstSmall?.map Source.Small.form =
          some (.literals [⟨"'\\x1'", false⟩]))) = true := by
    decide +kernel
  obtain ⟨file, read, passed⟩ := exists_of_succeedsWith evaluated
  obtain ⟨single, passed⟩ := Bool.and_eq_true_iff.1 passed
  obtain ⟨function, functions⟩ := List.length_eq_one_iff.1 (beq_iff_eq.1 single)
  rw [functions, List.all_cons, List.all_nil, Bool.and_true, Bool.and_eq_true,
    Bool.and_eq_true] at passed
  obtain ⟨⟨reads, passes⟩, literals⟩ := passed
  obtain ⟨reading, reads, -⟩ := exists_of_succeedsWith reads
  have passes : Passes false
      (bodySteps (Wrapper.build Settings.default.runtimeAlias) function.body) := by
    intro step member
    have goesOn : (!step.ends false) = true := List.all_eq_true.1 passes step member
    rwa [Bool.not_eq_true'] at goesOn
  have illFormed : function.body.documentation = .error .illFormedLiteral := by
    -- The value of a run is computed by the literals of the run, one by one.
    unfold Source.Suite.documentation
    rw [of_decide_eq_true literals]
    simp only [Source.runValue]
    decide +kernel
  exact .illFormedLiteral read ⟨[], function, [], functions, List.forall_mem_nil _, rfl,
    ⟨reading, reads⟩, passes, illFormed⟩

end ModuleGlue.Expansion
