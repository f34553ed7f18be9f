import ModuleGlue.Expansion.Run
import ModuleGlue.Proofs.Expansion.Statementwise
import ModuleGlue.Proofs.Expansion.Steps

/-!
Contract: the course of an expansion.

An expansion goes through the steps of its tree in order, up to the first that ends it, and its
record is what these steps add.

Main statements: `expandAll_follows` (for a tree; if no step is wrong, it gives the tree with the
outermost functions of modules replaced) and `expandFile_ends` (the four ways in which the expansion
of a file can end).

Owns: what it is to follow steps, and the outcome for a file.

Does not own: the steps.
-/

namespace ModuleGlue.Expansion

open ModuleGlue.Source (Clause Function Module SourceError Statement Suite)

/-! ## Following the steps -/

/-- A result, with the record at its end, is what the steps come to from a record on; without errors
it is the given value. An expansion can go through all steps, or get stuck, or end with the first
error. In the latter case all records up to it are kept, some of them with the error. -/
inductive Follows {α : Type} (failFast : Bool) (record : Record) (steps : List Step) (value : α) :
    Except Failure α × Record → Prop
  | through {result : α} (passes : Passes failFast steps)
      (fine : steps.flatMap Step.errors = [] → result = value) :
      Follows failFast record steps value (.ok result, record.after steps)
  | stuck {before after : List Step} {error : SourceError} {record' : Record}
      (split : steps = before ++ .stuck error :: after) (passes : Passes failFast before) :
      Follows failFast record steps value (.error (.source error), record')
  | broken {before after : List Step} {diagnostic : Diagnostic} {others : List Diagnostic}
      {deprecations : List Deprecation} {modules : List String}
      {kept : Option (List Deprecation)} {record' : Record}
      (split : steps = before ++ .noted (diagnostic :: others) deprecations modules :: after)
      (passes : Passes failFast before) (fast : failFast = true)
      (recorded : record'.deprecations ++ kept.getD [] =
        (record.after before).deprecations ++ deprecations) :
      Follows failFast record steps value
        (.error (.broken { diagnostic with deprecations := kept }), record')

section
variable {α β : Type} {failFast : Bool} {record : Record} {first second : List Step}

/-- What ends the first steps ends them whatever follows. -/
theorem Follows.of_error {value : α} {value' : β} {failure : Failure} {record' : Record}
    (follows : Follows failFast record first value (.error failure, record')) :
    Follows failFast record (first ++ second) value' (.error failure, record') := by
  cases follows with
  | stuck split passes =>
      rw [split, List.append_assoc, List.cons_append]
      exact .stuck rfl passes
  | broken split passes fast recorded =>
      rw [split, List.append_assoc, List.cons_append]
      exact .broken rfl passes fast recorded

/-- Behind steps that an expansion goes through, it follows the others. -/
theorem Follows.behind {value : α} {outcome : Except Failure α × Record}
    (passes : Passes failFast first)
    (follows : Follows failFast (record.after first) second value outcome) :
    Follows failFast record (first ++ second) value outcome := by
  cases follows with
  | @through result others fine =>
      rw [← Record.after_append]
      refine .through (passes.append others) fun none => fine ?_
      rw [List.flatMap_append, List.append_eq_nil_iff] at none
      exact none.2
  | stuck split others =>
      rw [split, ← List.append_assoc]
      exact .stuck rfl (passes.append others)
  | broken split others fast recorded =>
      rw [split, ← List.append_assoc]
      refine .broken rfl (passes.append others) fast ?_
      rw [recorded, Record.after_append]

/-- What comes after a result: the next expansion, from the record that the result came with. -/
def proceed (next : α → Expander β) : Except Failure α × Record → Except Failure β × Record
  | (.ok value, record) => (next value).run record
  | (.error failure, record) => (.error failure, record)

theorem run_bind (expander : Expander α) (next : α → Expander β) (record : Record) :
    (expander >>= next).run record = proceed next (expander.run record) := by
  rw [ExceptT.run_bind]
  simp only [bind, StateT.bind]
  generalize expander.run record = outcome
  obtain ⟨_ | _, _⟩ := outcome <;> rfl

theorem run_note (errors : List Diagnostic) (deprecations : List Deprecation)
    (modules : List String) (record : Record) :
    (note errors deprecations modules).run record =
      (.ok (), ⟨record.errors ++ errors, record.deprecations ++ deprecations,
        record.modules ++ modules⟩) := rfl

/-- One expansion after another follows the steps of both. -/
theorem Follows.andThen {outcome : Except Failure α × Record} {next : α → Expander β} {value : α}
    (value' : α → β) (follows : Follows failFast record first value outcome)
    (others : ∀ result, Follows failFast (record.after first) second (value' result)
      ((next result).run (record.after first))) :
    Follows failFast record (first ++ second) (value' value) (proceed next outcome) := by
  obtain ⟨result | result, record'⟩ := outcome
  · exact follows.of_error
  · cases follows with
    | through passes fine =>
        have rest := (others result).behind passes
        change Follows failFast record (first ++ second) (value' value)
          ((next result).run (record.after first))
        generalize (next result).run (record.after first) = outcome at rest ⊢
        cases rest with
        | through passes fine' =>
            refine .through passes fun none => ?_
            rw [fine' none, fine]
            rw [List.flatMap_append, List.append_eq_nil_iff] at none
            exact none.1
        | stuck split passes => exact .stuck split passes
        | broken split passes fast recorded => exact .broken split passes fast recorded

/-- A value that takes no step. -/
theorem follows_pure (value : α) :
    Follows failFast record [] value ((pure value : Expander α).run record) := by
  have run : (pure value : Expander α).run record = (.ok value, record.after []) := by
    rw [Record.after_nil]
    rfl
  rw [run]
  exact .through (passes_nil failFast) fun _ => rfl

/-- A value made from what an expansion gives. -/
theorem Follows.map {outcome : Except Failure α × Record} {value : α} (make : α → β)
    (follows : Follows failFast record first value outcome) :
    Follows failFast record first (make value)
      (proceed (fun result => pure (make result)) outcome) := by
  have whole : Follows failFast record (first ++ []) (make value)
      (proceed (fun result => pure (make result)) outcome) :=
    follows.andThen make fun result => follows_pure (make result)
  rwa [List.append_nil] at whole

end

/-! ## A module's function -/

/-- Decorators of a module's function that break a rule leave no record. -/
theorem recorded_of_unread {function : Function} {diagnostic : Diagnostic}
    (refused : readModule function = .error diagnostic) : diagnostic.recorded = [] := by
  unfold readModule at refused
  dsimp only at refused
  split at refused
  · rw [← Except.error.inj refused]
    rfl
  · split at refused
    · rename_i failed
      rw [← Except.error.inj refused]
      exact recorded_of_unfolded failed
    · split at refused
      · rw [← Except.error.inj refused]
        rfl
      · cases refused

/-- What is known at the end of a module's body. What is found there goes to the record once all of
it is expanded. -/
def bodyOutcome (record : Record) :
    Except Failure ExpandedBody → Except Failure Function × Record
  | .ok expansion => (.ok expansion.function,
      ⟨record.errors ++ expansion.progress.errors,
        record.deprecations ++ expansion.progress.deprecations, record.modules⟩)
  | .error failure => (.error failure, record)

def expandStatements (build : WrapperBuilder) (failFast : Bool) (statements : List Statement) :
    Except Failure Progress :=
  if failFast then expandUntilError build [] statements else collectStatements build statements

theorem expandBody_of_block (build : WrapperBuilder) (failFast : Bool) (frame : Frame)
    (statements : List Statement) :
    expandBody build failFast (frame.around statements) =
      (expandStatements build failFast statements).map fun progress =>
        ⟨frame.around (progress.blocks.flatMap Block.statements), progress⟩ := by
  unfold expandBody expandStatements Frame.around
  dsimp only
  cases failFast with
  | true =>
      rw [if_pos rfl, if_pos rfl]
      cases expandUntilError build [] statements <;> rfl
  | false =>
      rw [if_neg Bool.false_ne_true, if_neg Bool.false_ne_true]
      cases collectStatements build statements <;> rfl

/-- What the statements of a body come to: they are expanded as if all errors were collected, or
their failure is what their steps come to. -/
theorem expandStatements_follows (build : WrapperBuilder) (failFast : Bool)
    (statements : List Statement) (record : Record) :
    (∃ progress, Passes failFast (statements.map (statementStep build)) ∧
      (∀ mode, mode = failFast ∨ mode = false →
        expandStatements build mode statements = .ok progress) ∧
      record.after (statements.map (statementStep build)) =
        ⟨record.errors ++ progress.errors, record.deprecations ++ progress.deprecations,
          record.modules⟩) ∨
    ∃ failure, expandStatements build failFast statements = .error failure ∧
      ∀ value : Function, Follows failFast record (statements.map (statementStep build)) value
        (.error failure, record) := by
  rcases passes_or_ends failFast (statements.map (statementStep build)) with
    passes | ⟨before, step, after, split, passes, ends⟩
  · obtain ⟨progress, collected, errors, deprecations⟩ :=
      collectStatements_of_passes passes.collecting
    refine Or.inl ⟨progress, passes, ?_, ?_⟩
    · rintro mode (rfl | rfl)
      · cases mode with
        | false => exact collected
        | true => exact (expandUntilError_of_passes passes).trans collected
      · exact collected
    · unfold Record.after
      rw [errors, deprecations, modules_of_statementSteps, List.append_nil]
  · right
    cases failFast with
    | false =>
        obtain ⟨error, rfl, failed⟩ := collectStatements_of_ends split passes ends
        exact ⟨_, failed, fun value => .stuck split passes⟩
    | true =>
        rcases expandUntilError_of_ends [] split passes ends with
          ⟨error, rfl, failed⟩ | ⟨diagnostic, others, deprecations, modules, rfl, failed⟩
        · exact ⟨_, failed, fun value => .stuck split passes⟩
        · refine ⟨_, failed, fun value => .broken split passes rfl ?_⟩
          simp only [Record.after, Option.getD_some, List.nil_append, List.append_assoc]

theorem expandBody_follows (settings : Settings) (function : Function) (record : Record) :
    Follows settings.failFast record
      (bodySteps (Wrapper.build settings.runtimeAlias) (strippedModule function).body)
      (expandedModule settings function)
      (bodyOutcome record (expandBody (Wrapper.build settings.runtimeAlias) settings.failFast
        (strippedModule function))) := by
  unfold expandedModule
  generalize strippedModule function = stripped
  obtain ⟨head, signature, body⟩ := stripped
  cases body with
  | inline parts ending =>
      have outcome : bodyOutcome record (.ok ⟨⟨head, signature, .inline parts ending⟩, .empty⟩) =
          (.ok ⟨head, signature, .inline parts ending⟩, record.after []) := by
        rw [Record.after_nil]
        simp only [bodyOutcome, Progress.empty, List.append_nil]
      exact outcome ▸ .through (passes_nil settings.failFast) fun _ => rfl
  | block header indent statements footer =>
      have blocks := fun mode => expandBody_of_block (Wrapper.build settings.runtimeAlias) mode
        ⟨head, signature, header, indent, footer⟩ statements
      unfold Frame.around at blocks
      rw [blocks, blocks]
      rcases expandStatements_follows (Wrapper.build settings.runtimeAlias) settings.failFast
          statements record with
        ⟨progress, passes, expanded, after⟩ | ⟨failure, failed, follows⟩
      · rw [expanded _ (Or.inl rfl), expanded _ (Or.inr rfl)]
        simp only [Except.map, bodyOutcome]
        rw [← after]
        exact .through passes fun _ => rfl
      · rw [failed]
        exact follows _

/-- The end of the expansion of a module, whose function has been expanded. -/
def completeModule (settings : Settings) (written function : Function) :
    Expander (List Statement) := do
  note [] [] [externalName written]
  if settings.entryPoints then
    let entry ← expandModule.liftExcept (entryPoint settings (externalName written) written)
    return [function.toStatement, entry]
  else return [function.toStatement]

theorem completeModule_follows (settings : Settings) (written function : Function)
    (record : Record) :
    Follows settings.failFast record
      (.noted [] [] [externalName written] :: entrySteps settings written)
      (function.toStatement ::
        if settings.entryPoints then [entryStatement settings written] else [])
      ((completeModule settings written function).run record) := by
  have found : Passes settings.failFast [.noted [] [] [externalName written]] :=
    passes_singleton (by simp [Step.ends])
  rw [← List.singleton_append]
  refine Follows.behind found ?_
  unfold completeModule entrySteps
  rw [run_bind]
  have noted : (note [] [] [externalName written]).run record =
      (.ok (), record.after [.noted [] [] [externalName written]]) := by
    rw [run_note]
    simp [Record.after, Step.errors, Step.deprecations, Step.modules]
  rw [noted]
  dsimp only [proceed]
  cases settings.entryPoints with
  | false => exact follows_pure _
  | true =>
      rw [if_pos rfl, if_pos rfl, if_pos rfl, run_bind]
      cases documented : written.body.documentation with
      | ok documentation =>
          rw [entryPoint_of_documentation settings documented]
          exact follows_pure _
      | error error =>
          unfold entryPoint
          rw [documented]
          exact .stuck (rfl : [Step.stuck error] = [] ++ .stuck error :: []) (passes_nil _)

/-- The records of a body and the module itself can be noted one after the other. -/
theorem expandModule_of_read {settings : Settings} {written : Function} {reading : ModuleReading}
    (read : readModule written = .ok reading) (expanded : Function) (record : Record) :
    (expandModule settings written expanded).run record =
      proceed (completeModule settings written) (bodyOutcome record
        (expandBody (Wrapper.build settings.runtimeAlias) settings.failFast
          (strippedModule written))) := by
  obtain ⟨function, name⟩ := readModule_sound read
  unfold expandModule
  rw [read]
  dsimp only
  rw [function, name, run_bind]
  cases expandBody (Wrapper.build settings.runtimeAlias) settings.failFast
      (strippedModule written) with
  | error failure => rfl
  | ok expansion =>
      have noted : ∀ next : Unit → Expander (List Statement),
          (note expansion.progress.errors expansion.progress.deprecations
            [externalName written] >>= next).run record =
          (note [] [] [externalName written] >>= next).run
            ⟨record.errors ++ expansion.progress.errors,
              record.deprecations ++ expansion.progress.deprecations, record.modules⟩ := by
        intro next
        rw [run_bind, run_bind, run_note, run_note]
        simp only [List.append_nil]
      exact noted _

/-- What an expansion does with a module's function follows the steps of that. `expanded` counts
only if something is wrong. -/
theorem expandModule_follows (settings : Settings) (written expanded : Function)
    (record : Record) :
    Follows settings.failFast record (moduleSteps settings written) (replacement settings written)
      ((expandModule settings written expanded).run record) := by
  unfold moduleSteps
  cases read : readModule written with
  | error diagnostic =>
      have silent := recorded_of_unread read
      unfold expandModule
      rw [read]
      cases fast : settings.failFast with
      | true =>
          have split : [Step.noted [diagnostic] [] []] =
              [] ++ .noted (diagnostic :: []) [] [] :: [] := rfl
          refine .broken split (passes_nil true) rfl ?_
          unfold Diagnostic.recorded at silent
          rw [silent, Record.after_nil]
      | false =>
          have goesOn : Passes false [.noted [diagnostic] [] []] := passes_singleton rfl
          refine .through goesOn ?_
          intro none
          cases none
  | ok reading =>
      rw [expandModule_of_read read]
      exact (expandBody_follows settings written record).andThen
        (fun function => function.toStatement ::
          if settings.entryPoints then [entryStatement settings written] else [])
        fun function => completeModule_follows settings written function _

/-! ## Trees -/

section
variable (settings : Settings)

mutual

theorem expandAt_follows : ∀ (statement : Statement) (record : Record),
    Follows settings.failFast record (stepsOf settings statement.functions)
      (replaceAt (replacement settings) statement) ((expandAt settings statement).run record)
  | .line leading parts ending, record => follows_pure _
  | .function head signature body, record => by
      rw [expandAt, run_bind, Statement.functions, stepsOf_append, replaceAt]
      refine (expandSuite_follows body record).andThen (fun expanded =>
        if isModuleFunction ⟨head, signature, body⟩ then
          replacement settings ⟨head, signature, body⟩
        else [.function head signature expanded]) fun expanded => ?_
      unfold stepsOf
      dsimp only
      by_cases marked : isModuleFunction ⟨head, signature, body⟩ = true
      · rw [if_pos marked, if_pos marked, List.filter_cons_of_pos marked, List.filter_nil,
          List.flatMap_singleton]
        exact expandModule_follows settings _ _ _
      · rw [if_neg marked, if_neg marked, List.filter_cons_of_neg marked]
        exact follows_pure _
  | .compound head header body clauses, record => by
      rw [expandAt, run_bind, Statement.functions, stepsOf_append, replaceAt]
      refine (expandSuite_follows body record).andThen (fun expanded =>
        [Statement.compound head header expanded (replaceClauses (replacement settings) clauses)])
        fun expanded => ?_
      rw [run_bind]
      exact (expandClauses_follows clauses _).map
        fun others => [Statement.compound head header expanded others]

/-- **An expansion follows the steps of its tree**, up to the first that ends it. If nothing is
wrong, it gives the tree with the outermost functions of modules replaced. -/
theorem expandAll_follows : ∀ (statements : List Statement) (record : Record),
    Follows settings.failFast record (course settings statements)
      (replaceAll (replacement settings) statements) ((expandAll settings statements).run record)
  | [], record => follows_pure _
  | statement :: rest, record => by
      rw [expandAll, run_bind, replaceAll]
      have split : course settings (statement :: rest) =
          stepsOf settings statement.functions ++ course settings rest :=
        stepsOf_append settings _ _
      rw [split]
      refine (expandAt_follows statement record).andThen
        (fun first => first ++ replaceAll (replacement settings) rest) fun first => ?_
      rw [run_bind]
      exact (expandAll_follows rest _).map fun others => first ++ others

theorem expandClauses_follows : ∀ (clauses : List Clause) (record : Record),
    Follows settings.failFast record (stepsOf settings (Clause.allFunctions clauses))
      (replaceClauses (replacement settings) clauses)
      ((expandClauses settings clauses).run record)
  | [], record => follows_pure _
  | .mk leading header body :: rest, record => by
      rw [expandClauses, run_bind, Clause.allFunctions, stepsOf_append, replaceClauses,
        replaceClause, expandClause, run_bind]
      refine ((expandSuite_follows body record).map fun expanded =>
        Clause.mk leading header expanded).andThen
        (fun first => first :: replaceClauses (replacement settings) rest) fun first => ?_
      rw [run_bind]
      exact (expandClauses_follows rest _).map fun others => first :: others

theorem expandSuite_follows : ∀ (suite : Suite) (record : Record),
    Follows settings.failFast record (stepsOf settings suite.functions)
      (replaceIn (replacement settings) suite) ((expandSuite settings suite).run record)
  | .inline parts ending, record => follows_pure _
  | .block header indent body footer, record => by
      rw [expandSuite, run_bind]
      exact (expandAll_follows body record).map
        fun expanded => Suite.block header indent expanded footer

end

end

/-! ## Files -/

/-- The tree that an expansion writes. It writes one if nothing is wrong. -/
def expandedFile? (settings : Settings) (file : Module) : Option Module :=
  match (expandAll settings file.body).run .empty with
  | (.ok body, record) =>
    if record.errors.isEmpty then some (finish settings file record body) else none
  | _ => none

/-- The outcome for a file, one rule for each way in which an expansion can end. -/
inductive FileEnds (settings : Settings) (code : String) (file : Module) :
    Except SourceError Outcome → Prop
  /-- Nothing is wrong. -/
  | expanded {tree : Module} (passes : Passes settings.failFast (course settings file.body))
      (fine : (course settings file.body).flatMap Step.errors = [])
      (written : expandedFile? settings file = some tree)
      (same : tree = finish settings file (Record.empty.after (course settings file.body))
        (replaceAll (replacement settings) file.body)) :
      FileEnds settings code file (.ok ⟨tree.render, [],
        (course settings file.body).flatMap Step.deprecations,
        (course settings file.body).flatMap Step.modules⟩)
  /-- Errors have been collected. -/
  | collected (passes : Passes settings.failFast (course settings file.body))
      (wrong : (course settings file.body).flatMap Step.errors ≠ []) :
      FileEnds settings code file (.ok ⟨code,
        ((course settings file.body).flatMap Step.errors).map .broken,
        (course settings file.body).flatMap Step.deprecations,
        (course settings file.body).flatMap Step.modules⟩)
  /-- The first error ends the expansion. -/
  | stopped {before after : List Step} {diagnostic : Diagnostic} {others : List Diagnostic}
      {deprecations : List Deprecation} {modules : List String} {kept : Option (List Deprecation)}
      (split : course settings file.body =
        before ++ .noted (diagnostic :: others) deprecations modules :: after)
      (passes : Passes settings.failFast before) (fast : settings.failFast = true) :
      FileEnds settings code file (.ok ⟨code, [.broken { diagnostic with deprecations := kept }],
        before.flatMap Step.deprecations ++ deprecations, []⟩)
  /-- Some code cannot be read, or a literal has no value. -/
  | stuck {before after : List Step} {error : SourceError}
      (split : course settings file.body = before ++ .stuck error :: after)
      (passes : Passes settings.failFast before) : FileEnds settings code file (.error error)

/-- **The expansion of a file ends in one of four ways.** -/
theorem expandFile_ends (settings : Settings) (code : String) (file : Module) :
    FileEnds settings code file (expandFile settings code file) := by
  have follows := expandAll_follows settings file.body .empty
  unfold expandFile
  have written : expandedFile? settings file = match (expandAll settings file.body).run .empty with
    | (.ok body, record) =>
      if record.errors.isEmpty then some (finish settings file record body) else none
    | _ => none := rfl
  generalize (expandAll settings file.body).run .empty = outcome at follows written ⊢
  cases follows with
  | through passes fine =>
      dsimp only at written ⊢
      by_cases none : (course settings file.body).flatMap Step.errors = []
      · have nothing : (Record.empty.after (course settings file.body)).errors.isEmpty = true := by
          simp [Record.after, Record.empty, none]
        rw [if_pos nothing] at written ⊢
        exact .expanded passes none written (by rw [fine none])
      · have something :
            ¬ (Record.empty.after (course settings file.body)).errors.isEmpty = true := by
          simpa [Record.after, Record.empty] using none
        rw [if_neg something]
        exact .collected passes none
  | stuck split passes => exact .stuck split passes
  | @broken before after diagnostic others deprecations modules kept record' split passes fast
      recorded =>
      have total : record'.deprecations ++ kept.getD [] =
          before.flatMap Step.deprecations ++ deprecations := recorded
      change FileEnds settings code file (.ok ⟨code, [.broken { diagnostic with
        deprecations := kept }], record'.deprecations ++ kept.getD [], []⟩)
      rw [total]
      exact .stopped split passes fast

end ModuleGlue.Expansion
