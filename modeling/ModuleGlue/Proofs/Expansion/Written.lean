import Mathlib.Data.List.DropRight
import ModuleGlue.Proofs.Expansion.Course

/-!
Contract: the tree that an expansion writes.

It is the tree of the file with the outermost functions of modules replaced, and at most the import
of the runtime added. The import goes to a place that the file as it was shows: what is put in place
of a module's function is no simple statement, and only simple statements tell the place.

Main statements: `finish_eq_rebuilt` (where the import goes), `expandFile_of_passes` and
`passes_of_succeeded` (an expansion succeeds exactly if no step would end one that stops at the
first error, and what it gives then).

Owns: the tree that is written, and when it is written.

Does not own: what the file is like before and after.
-/

namespace ModuleGlue.Expansion

open ModuleGlue.Source (Function Module Statement)

/-! ## The place of the import -/

/-- Functions are replaced with some statements, none of which is a line of simple ones. -/
def Lineless (replace : Function → List Statement) : Prop :=
  ∀ function, replace function ≠ [] ∧ ∀ statement ∈ replace function, simpleParts statement = []

theorem lineless_replacement (settings : Settings) : Lineless (replacement settings) := by
  intro function
  refine ⟨List.cons_ne_nil _ _, fun statement member => ?_⟩
  rcases List.mem_cons.1 member with rfl | member
  · rfl
  · split at member
    · rw [List.mem_singleton.1 member]
      rfl
    · cases member

section
variable {replace : Function → List Statement}

/-- A line stays as it is, and what is put in place of another statement holds no line. -/
theorem replaceAt_of_lineless (lineless : Lineless replace) (statement : Statement) :
    replaceAt replace statement = [statement] ∨ simpleParts statement = [] ∧
      replaceAt replace statement ≠ [] ∧
      ∀ written ∈ replaceAt replace statement, simpleParts written = [] := by
  cases statement with
  | line leading parts ending => exact Or.inl rfl
  | function head signature body =>
      right
      refine ⟨rfl, ?_⟩
      rw [replaceAt]
      split
      · exact lineless _
      · exact ⟨List.cons_ne_nil _ _, fun written member => by rw [List.mem_singleton.1 member]; rfl⟩
  | compound head header body clauses =>
      refine Or.inr ⟨rfl, ?_⟩
      rw [replaceAt]
      exact ⟨List.cons_ne_nil _ _, fun written member => by rw [List.mem_singleton.1 member]; rfl⟩

theorem any_replaceAll (lineless : Lineless replace) {property : Statement → Bool}
    (ofLines : ∀ statement, simpleParts statement = [] → property statement = false)
    (body : List Statement) : (replaceAll replace body).any property = body.any property := by
  induction body with
  | nil => rfl
  | cons statement rest inductionHypothesis =>
      rw [replaceAll, List.any_append, List.any_cons, inductionHypothesis]
      rcases replaceAt_of_lineless lineless statement with same | ⟨noLine, -, none⟩
      · rw [same, List.any_cons, List.any_nil, Bool.or_false]
      · have absent : (replaceAt replace statement).any property = false :=
          List.any_eq_false.2 fun written member => by simp [ofLines written (none written member)]
        rw [absent, ofLines statement noLine]

/-- The statements up to the last one that switches language features. -/
def featureFront (body : List Statement) : List Statement :=
  body.rdropWhile (!switchesFeatures ·)

theorem switchesFeatures_of_noLine {statement : Statement} (noLine : simpleParts statement = []) :
    switchesFeatures statement = false := by
  rw [switchesFeatures, noLine, List.any_nil]

theorem featureFront_replaceAll (lineless : Lineless replace) (body : List Statement) :
    featureFront (replaceAll replace body) = replaceAll replace (featureFront body) := by
  unfold featureFront
  induction body using List.reverseRecOn with
  | nil => rfl
  | append_singleton front statement inductionHypothesis =>
      have last : replaceAll replace [statement] = replaceAt replace statement := by
        rw [replaceAll, replaceAll, List.append_nil]
      rw [replaceAll_append, last]
      rcases replaceAt_of_lineless lineless statement with same | ⟨noLine, -, none⟩
      · rw [same, List.rdropWhile_concat, List.rdropWhile_concat]
        split
        · exact inductionHypothesis
        · rw [replaceAll_append, last, same]
      · have silent : ∀ written ∈ (replaceAt replace statement).reverse,
            (!switchesFeatures written) = true := by
          intro written member
          rw [switchesFeatures_of_noLine (none written (List.mem_reverse.1 member))]
          rfl
        rw [List.rdropWhile_concat_pos _ _ _ (by simp [switchesFeatures_of_noLine noLine]),
          ← inductionHypothesis, List.rdropWhile, List.rdropWhile, List.reverse_append,
          List.dropWhile_append_of_pos silent]

/-- What stands in front of the import. -/
theorem take_leadingCount (body : List Statement) :
    body.take (leadingCount body) =
      if featureFront body = [] then
        if body.head?.any isDocumentation then body.take 1 else []
      else featureFront body := by
  have front : featureFront body = body.take (featureFront body).length :=
    List.prefix_iff_eq_take.1 (List.rdropWhile_prefix _ _)
  have count : leadingCount body =
      max (featureFront body).length (if body.head?.any isDocumentation then 1 else 0) := by
    unfold leadingCount featureFront List.rdropWhile
    rw [List.length_reverse]
  rw [count]
  by_cases none : featureFront body = []
  · rw [if_pos none, none, List.length_nil, Nat.zero_max]
    split
    · rfl
    · exact List.take_zero
  · have some : 0 < (featureFront body).length := List.length_pos_iff.2 none
    rw [if_neg none]
    conv_rhs => rw [front]
    congr 1
    split
    · exact Nat.max_eq_left some
    · exact Nat.max_zero _

theorem isDocumentation_of_noLine {statement : Statement} (noLine : simpleParts statement = []) :
    isDocumentation statement = false := by
  rw [isDocumentation, noLine]

/-- Documentation in front stays there, and nothing else comes to be documentation. -/
theorem documentation_replaceAll (lineless : Lineless replace) (body : List Statement) :
    ((replaceAll replace body).head?.any isDocumentation = body.head?.any isDocumentation) ∧
      (body.head?.any isDocumentation = true →
        (replaceAll replace body).take 1 = replaceAll replace (body.take 1)) := by
  cases body with
  | nil => exact ⟨rfl, fun _ => rfl⟩
  | cons statement rest =>
      rw [replaceAll, List.head?_cons, Option.any_some]
      rcases replaceAt_of_lineless lineless statement with same | ⟨noLine, some, none⟩
      · rw [same]
        refine ⟨rfl, fun _ => ?_⟩
        rw [List.take_succ_cons, List.take_zero, replaceAll, replaceAll, same]
        rfl
      · obtain ⟨first, others, split⟩ := List.exists_cons_of_ne_nil some
        have noLine' := none first (split ▸ List.mem_cons_self)
        rw [split, List.cons_append, List.head?_cons, Option.any_some,
          isDocumentation_of_noLine noLine, isDocumentation_of_noLine noLine']
        exact ⟨rfl, fun absurd => nomatch absurd⟩

/-- The same statements stand in front of the import before and after. -/
theorem take_leadingCount_replaceAll (lineless : Lineless replace) (body : List Statement) :
    (replaceAll replace body).take (leadingCount (replaceAll replace body)) =
      replaceAll replace (body.take (leadingCount body)) := by
  obtain ⟨documented, first⟩ := documentation_replaceAll lineless body
  have empty : replaceAll replace (featureFront body) = [] ↔ featureFront body = [] := by
    constructor
    · intro none
      cases front : featureFront body with
      | nil => rfl
      | cons statement rest =>
          rw [front, replaceAll, List.append_eq_nil_iff] at none
          rcases replaceAt_of_lineless lineless statement with same | ⟨-, some, -⟩
          · rw [same] at none
            cases none.1
          · exact absurd none.1 some
    · intro none
      rw [none]
      rfl
  rw [take_leadingCount, take_leadingCount, featureFront_replaceAll lineless, documented]
  by_cases none : featureFront body = []
  · rw [if_pos (empty.2 none), if_pos none]
    split
    · rename_i there
      exact first there
    · rfl
  · rw [if_neg (mt empty.1 none), if_neg none]

end

/-! ## The tree -/

/-- Where the import of the runtime goes, and the import, for a file to which it is added: one with
modules, for which the settings name a module to import the runtime from, and that does not import
it. -/
def importPlace (settings : Settings) (file : Module) : Option (Nat × Statement) :=
  match settings.runtimeModule with
  | none => none
  | some path =>
    if (moduleFunctions file.body).isEmpty ||
        file.body.any (alreadyImports path settings.runtimeAlias) then none
    else some (leadingCount file.body, runtimeImport path settings.runtimeAlias)

/-- A file with the outermost functions of modules replaced, and a statement added behind some of
its own. -/
def rebuilt (replace : Function → List Statement) (added : Option (Nat × Statement))
    (file : Module) : Module :=
  match added with
  | none => { file with body := replaceAll replace file.body }
  | some (count, statement) =>
    { file with body := replaceAll replace (file.body.take count) ++
        statement :: replaceAll replace (file.body.drop count) }

/-- **The import of the runtime goes to the place that the file as it was shows.** -/
theorem finish_eq_rebuilt {replace : Function → List Statement} (lineless : Lineless replace)
    (settings : Settings) (file : Module) {record : Record}
    (found : record.modules.isEmpty = (moduleFunctions file.body).isEmpty) :
    finish settings file record (replaceAll replace file.body) =
      rebuilt replace (importPlace settings file) file := by
  unfold finish importPlace
  cases settings.runtimeModule with
  | none => rfl
  | some path =>
      have imports :
          (replaceAll replace file.body).any (alreadyImports path settings.runtimeAlias) =
          file.body.any (alreadyImports path settings.runtimeAlias) :=
        any_replaceAll lineless (fun statement noLine => by
          rw [alreadyImports, noLine, List.any_nil]) file.body
      dsimp only
      rw [found]
      cases (moduleFunctions file.body).isEmpty with
      | true => rfl
      | false =>
          rw [if_neg Bool.false_ne_true, Bool.false_or]
          unfold withRuntimeImport
          rw [imports]
          split
          · rfl
          · have front := take_leadingCount_replaceAll lineless file.body
            have behind : (replaceAll replace file.body).drop
                (leadingCount (replaceAll replace file.body)) =
                  replaceAll replace (file.body.drop (leadingCount file.body)) := by
              have whole : replaceAll replace (file.body.take (leadingCount file.body)) ++
                  (replaceAll replace file.body).drop
                    (leadingCount (replaceAll replace file.body)) =
                  replaceAll replace (file.body.take (leadingCount file.body)) ++
                    replaceAll replace (file.body.drop (leadingCount file.body)) := by
                rw [← front, List.take_append_drop, front, ← replaceAll_append,
                  List.take_append_drop]
              exact List.append_cancel_left whole
            dsimp only [rebuilt]
            rw [front, behind]

/-! ## Success -/

section
variable {settings : Settings}

/-- A body without a step that would end an expansion up to the first error is expanded in either
mode, and without errors. -/
theorem expandBody_of_passes {build : WrapperBuilder} {function : Function}
    (passes : Passes true (bodySteps build function.body)) :
    ∃ expansion, expansion.progress.errors = [] ∧
      ∀ failFast, expandBody build failFast function = .ok expansion := by
  obtain ⟨head, signature, body⟩ := function
  cases body with
  | inline parts ending => exact ⟨⟨_, .empty⟩, rfl, fun _ => rfl⟩
  | block header indent statements footer =>
      have steps : Passes true (statements.map (statementStep build)) := passes
      obtain ⟨progress, collected, errors, -⟩ := collectStatements_of_passes steps.collecting
      let frame : Frame := ⟨head, signature, header, indent, footer⟩
      refine ⟨⟨frame.around (progress.blocks.flatMap Block.statements), progress⟩, ?_, ?_⟩
      · exact errors.trans (errors_of_passes steps)
      · intro failFast
        refine (expandBody_of_block build failFast frame statements).trans ?_
        have expanded : expandStatements build failFast statements = .ok progress := by
          cases failFast with
          | false => exact collected
          | true => exact (expandUntilError_of_passes steps).trans collected
        rw [expanded]
        rfl

/-- A module's function of which no step ends an expansion that stops at the first error. -/
structure Expandable (settings : Settings) (function : Function) : Prop where
  /-- Its decorators break no rule. -/
  read : ∃ reading, readModule function = .ok reading ∧ reading.function = strippedModule function
  /-- Its body is expanded in either mode, and without errors. -/
  body : ∃ progress, progress.errors = [] ∧ ∀ failFast,
    expandBody (Wrapper.build settings.runtimeAlias) failFast (strippedModule function) =
      .ok ⟨expandedModule settings function, progress⟩
  /-- It has an entry point, if there are to be entry points. -/
  entry : settings.entryPoints = true →
    entryPoint settings (externalName function) function = .ok (entryStatement settings function)

theorem expandable_of_passes {function : Function}
    (passes : Passes true (moduleSteps settings function)) : Expandable settings function := by
  unfold moduleSteps at passes
  cases read : readModule function with
  | error diagnostic =>
      rw [read] at passes
      cases passes _ (List.mem_singleton_self _)
  | ok reading =>
      rw [read] at passes
      refine ⟨⟨reading, read, (readModule_sound read).1⟩, ?_, ?_⟩
      · have first : Passes true (bodySteps (Wrapper.build settings.runtimeAlias)
            (strippedModule function).body) :=
          fun step member => passes step (List.mem_append_left _ member)
        obtain ⟨expansion, fine, expanded⟩ := expandBody_of_passes first
        have same : expandedModule settings function = expansion.function := by
          unfold expandedModule
          rw [expanded]
        exact ⟨expansion.progress, fine, same ▸ expanded⟩
      · intro entries
        have last : Passes true (entrySteps settings function) := fun step member =>
          passes step (List.mem_append_right _ (List.mem_cons_of_mem _ member))
        unfold entrySteps at last
        rw [if_pos entries] at last
        cases documented : function.body.documentation with
        | ok documentation => exact entryPoint_of_documentation settings documented
        | error error =>
            rw [documented] at last
            cases last _ (List.mem_singleton_self _)

/-- The modules found are those of the functions of modules. -/
theorem modules_of_passes {file : Module} (passes : Passes true (course settings file.body)) :
    (course settings file.body).flatMap Step.modules =
      (moduleFunctions file.body).map externalName := by
  have each : ∀ functions : List Function, Passes true (functions.flatMap (moduleSteps settings)) →
      (functions.flatMap (moduleSteps settings)).flatMap Step.modules =
        functions.map externalName := by
    intro functions passes
    induction functions with
    | nil => rfl
    | cons function rest inductionHypothesis =>
        rw [List.flatMap_cons] at passes ⊢
        obtain ⟨reading, read, -⟩ := (expandable_of_passes fun step member =>
          passes step (List.mem_append_left _ member)).read
        rw [List.flatMap_append, modules_of_moduleSteps settings read, List.map_cons,
          inductionHypothesis fun step member => passes step (List.mem_append_right _ member)]
        rfl
  exact each (moduleFunctions file.body) passes

/-- The tree that an expansion of a file writes. -/
def expandedFile (settings : Settings) (file : Module) : Module :=
  rebuilt (replacement settings) (importPlace settings file) file

variable (code : String) {file : Module}

/-- Without a step that would end an expansion up to the first error, an expansion succeeds in
either mode. -/
theorem expandFile_of_passes (passes : Passes true (course settings file.body)) :
    expandFile settings code file = .ok ⟨(expandedFile settings file).render, [],
        (course settings file.body).flatMap Step.deprecations,
        (moduleFunctions file.body).map externalName⟩ ∧
      expandedFile? settings file = some (expandedFile settings file) := by
  have found := modules_of_passes passes
  have impossible : ∀ {before after step}, course settings file.body = before ++ step :: after →
      step.ends true = false :=
    fun split => passes _ (split ▸ List.mem_append_right _ List.mem_cons_self)
  have ends := expandFile_ends settings code file
  generalize expandFile settings code file = outcome at ends ⊢
  cases ends with
  | @expanded tree passes' fine written same =>
      have tree_eq : tree = expandedFile settings file := by
        refine same.trans (finish_eq_rebuilt (lineless_replacement settings) settings file ?_)
        rw [Record.after, found]
        exact List.isEmpty_map
      rw [written, tree_eq, found]
      exact ⟨rfl, rfl⟩
  | collected passes' wrong => exact absurd (errors_of_passes passes) wrong
  | stopped split passes' fast => cases impossible split
  | stuck split passes' => cases impossible split

theorem passes_of_succeeded {outcome : Outcome}
    (returns : expandFile settings code file = .ok outcome)
    (succeeded : outcome.succeeded = true) : Passes true (course settings file.body) := by
  have ends := expandFile_ends settings code file
  rw [returns] at ends
  cases ends with
  | expanded passes fine written same => exact passes_of_fine passes fine
  | collected passes wrong =>
      have none : (course settings file.body).flatMap Step.errors = [] := by
        simpa [Outcome.succeeded] using succeeded
      exact absurd none wrong
  | stopped split passes fast => cases succeeded

/-- A file without functions of modules is written as it is. -/
theorem expandFile_of_unmarked (unmarked : moduleFunctions file.body = []) :
    expandFile settings code file = .ok ⟨file.render, [], [], []⟩ ∧
      expandedFile? settings file = some file := by
  have still : course settings file.body = [] := by
    unfold course stepsOf
    change List.flatMap (moduleSteps settings) (moduleFunctions file.body) = []
    rw [unmarked]
    rfl
  have same : expandedFile settings file = file := by
    have place : importPlace settings file = none := by
      unfold importPlace
      rw [unmarked]
      cases settings.runtimeModule <;> rfl
    have body := replaceAll_of_none (replacement settings) file.body
      (outermost_eq_nil_iff.2 unmarked)
    unfold expandedFile
    rw [place]
    unfold rebuilt
    rw [body]
  have passes : Passes true (course settings file.body) := still ▸ passes_nil true
  have expanded := expandFile_of_passes code passes
  rw [still, unmarked, same] at expanded
  exact expanded

end

end ModuleGlue.Expansion
