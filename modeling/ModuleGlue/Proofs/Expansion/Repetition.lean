import ModuleGlue.Proofs.Expansion.Nesting

/-!
Contract: expanding what has been expanded.

In a file whose modules are not nested an expansion leaves no function of a module, neither in the
code that it generates nor in the code that it keeps. So there is nothing left to expand.

Main statement: `run_expanded`. An expansion of an expanded file gives that file, and finds, records
and adds nothing.

Owns: what a second expansion does.

Does not own: reading back the text of a tree.
-/

namespace ModuleGlue.Expansion

open ModuleGlue.Source (Decorator Function Module Statement)

/-- Where modules are not nested, what is written in place of a module's function holds no function
of a module. -/
theorem modules_replacement {settings : Settings} {function : Function}
    (expandable : Expandable settings function) (flat : innerModules function = []) :
    moduleFunctions (replacement settings function) = [] := by
  have expanded : (expandedModule settings function).toStatement.functions.filter
      isModuleFunction = [] := (modules_expandedModule_eq_nil_iff expandable).2 flat
  unfold replacement
  rw [moduleFunctions_cons, expanded, List.nil_append]
  split
  · rw [moduleFunctions_cons, modules_entryStatement]
    rfl
  · rfl

/-- **An expansion leaves no function of a module**, if modules are not nested. -/
theorem modules_expandedFile {settings : Settings} {file : Module} (flat : Flat file.body)
    (passes : Passes true (course settings file.body)) :
    moduleFunctions (expandedFile settings file).body = [] := by
  unfold expandedFile
  rw [modules_rebuilt, List.flatMap_eq_nil_iff]
  intro function member
  have found := mem_moduleFunctions_of_mem_outermost member
  have expandable : Expandable settings function := expandable_of_passes fun step inside =>
    passes step (List.mem_flatMap.2 ⟨function, found, inside⟩)
  exact modules_replacement expandable (flat function found)

/-! ## Reading back -/

/-- The names of the decorators of all functions in some statements. -/
def decoratorNames (statements : List Statement) : List (List (Option String)) :=
  (Statement.allFunctions statements).map fun function =>
    function.head.decorators.map Decorator.name

/-- A tree that was read from the text of another one: it has that text, and the same functions
under the same decorators. -/
structure ReadsBack (tree again : Module) : Prop where
  text : again.render = tree.render
  decorators : decoratorNames again.body = decoratorNames tree.body

instance (tree again : Module) : Decidable (ReadsBack tree again) :=
  decidable_of_iff
    (again.render = tree.render ∧ decoratorNames again.body = decoratorNames tree.body)
    ⟨fun both => ⟨both.1, both.2⟩, fun back => ⟨back.text, back.decorators⟩⟩

/-- Whether a file has functions of modules is a question of the names of its decorators. -/
theorem modules_eq_nil_iff_decoratorNames (statements : List Statement) :
    moduleFunctions statements = [] ↔
      ∀ names ∈ decoratorNames statements, some moduleMark ∉ names := by
  unfold moduleFunctions decoratorNames
  rw [List.filter_eq_nil_iff, List.forall_mem_map]
  refine forall₂_congr fun function member => not_congr ?_
  unfold isModuleFunction Decorator.isNamed
  simp only [List.any_eq_true, beq_iff_eq, List.mem_map]

theorem ReadsBack.unmarked {tree again : Module} (back : ReadsBack tree again)
    (unmarked : moduleFunctions tree.body = []) : moduleFunctions again.body = [] := by
  rw [modules_eq_nil_iff_decoratorNames] at unmarked ⊢
  rw [back.decorators]
  exact unmarked

/-! ## The second expansion -/

/-- **Expanding an expanded file changes nothing.** If an expansion succeeds for a file whose
modules are not nested, an expansion of the tree that it writes succeeds with that tree; nothing is
found to be wrong, nothing is recorded, no module is found, and no import is added. So does an
expansion of the text, if the tree can be read back from it. -/
theorem run_expanded {settings : Settings} {code : String} {file : Module} {outcome : Outcome}
    (flat : Flat file.body) (returns : expandFile settings code file = .ok outcome)
    (succeeded : outcome.succeeded = true) :
    ∃ tree, expandedFile? settings file = some tree ∧ outcome.code = tree.render ∧
      expandFile settings outcome.code tree = .ok ⟨outcome.code, [], [], []⟩ ∧
      expandedFile? settings tree = some tree ∧
      ∀ again, Module.ofText outcome.code = .ok again → ReadsBack tree again →
        run settings outcome.code = .ok ⟨outcome.code, [], [], []⟩ ∧
          expandedFile? settings again = some again := by
  have passes := passes_of_succeeded code returns succeeded
  obtain ⟨value, written⟩ := expandFile_of_passes code passes
  obtain rfl := Except.ok.inj (returns.symm.trans value)
  have unmarked := modules_expandedFile flat passes
  obtain ⟨second, same⟩ :=
    @expandFile_of_unmarked settings (expandedFile settings file).render _ unmarked
  refine ⟨expandedFile settings file, written, rfl, second, same, fun again read back => ?_⟩
  obtain ⟨third, kept⟩ :=
    @expandFile_of_unmarked settings (expandedFile settings file).render _ (back.unmarked unmarked)
  refine ⟨?_, kept⟩
  unfold run
  rw [read]
  exact third.trans (by rw [back.text])

def singleExport : String := "@pymodule\ndef a(m):\n @pyfn(m)\n def f():0\n"

/-- Settings with a short name for the runtime, which is imported, and without entry points. -/
def shortRuntime : Settings := ⟨"r", some "r", false, false⟩

theorem run_expanded_singleExport :
    ∃ file outcome tree again, Module.ofText singleExport = .ok file ∧ Flat file.body ∧
      expandFile shortRuntime singleExport file = .ok outcome ∧ outcome.succeeded = true ∧
      expandedFile? shortRuntime file = some tree ∧ Module.ofText outcome.code = .ok again ∧
      ReadsBack tree again ∧ run shortRuntime outcome.code = .ok ⟨outcome.code, [], [], []⟩ := by
  have evaluated : succeedsWith (Module.ofText singleExport) (fun file =>
      decide (Flat file.body) &&
        (succeedsWith (expandFile shortRuntime singleExport file) Outcome.succeeded &&
          (expandedFile? shortRuntime file).any fun tree =>
            succeedsWith (Module.ofText tree.render) fun again =>
              decide (ReadsBack tree again))) = true := by
    decide +kernel
  obtain ⟨file, read, passed⟩ := exists_of_succeedsWith evaluated
  obtain ⟨flat, passed⟩ := Bool.and_eq_true_iff.1 passed
  obtain ⟨succeeds, passed⟩ := Bool.and_eq_true_iff.1 passed
  obtain ⟨outcome, returns, succeeded⟩ := exists_of_succeedsWith succeeds
  obtain ⟨tree, written, passed⟩ := (Option.any_eq_true _ _).1 passed
  obtain ⟨again, readAgain, back⟩ := exists_of_succeedsWith passed
  have flat : Flat file.body := of_decide_eq_true flat
  have back : ReadsBack tree again := of_decide_eq_true back
  obtain ⟨tree', written', code, -, -, each⟩ := run_expanded flat returns succeeded
  obtain rfl := Option.some.inj (written.symm.trans written')
  rw [← code] at readAgain
  exact ⟨file, outcome, tree, again, read, flat, returns, succeeded, written, readAgain, back,
    (each again readAgain back).1⟩

end ModuleGlue.Expansion
