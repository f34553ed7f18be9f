import ModuleGlue.Proofs.Expansion.Written

/-!
Contract: an expansion is local.

Main statement: `expandFile_local`. In a file whose modules are not nested, each module's function
is replaced where it stands, the import of the runtime is the only thing added elsewhere, and
leaving out the entry points leaves out nothing else.

Owns: the comparison of a file with what is written for it.

Does not own: nested modules.
-/

namespace ModuleGlue.Expansion

open ModuleGlue.Source (Module Statement)

/-! ## Without entry points -/

def withoutEntries (settings : Settings) : Settings :=
  { settings with entryPoints := false }

/-- The steps of an expansion without entry points are among those of one with them. -/
theorem passes_withoutEntries {settings : Settings} {statements : List Statement}
    (passes : Passes true (course settings statements)) :
    Passes true (course (withoutEntries settings) statements) := by
  intro step member
  obtain ⟨function, marked, inside⟩ := List.mem_flatMap.1 member
  refine passes step (List.mem_flatMap.2 ⟨function, marked, ?_⟩)
  unfold moduleSteps at inside ⊢
  generalize readModule function = read at inside ⊢
  cases read with
  | error diagnostic => exact inside
  | ok reading =>
      rcases List.mem_append.1 inside with body | rest
      · exact List.mem_append_left _ body
      · refine List.mem_append_right _ ?_
        rcases List.mem_cons.1 rest with rfl | entry
        · exact List.mem_cons_self
        · cases entry

/-- Nothing is recorded for entry points. -/
theorem deprecations_withoutEntries (settings : Settings) (statements : List Statement) :
    (course (withoutEntries settings) statements).flatMap Step.deprecations =
      (course settings statements).flatMap Step.deprecations := by
  have entries : ∀ settings function,
      (entrySteps settings function).flatMap Step.deprecations = [] := by
    intro settings function
    unfold entrySteps
    split
    · split <;> rfl
    · rfl
  unfold course stepsOf
  rw [List.flatMap_assoc, List.flatMap_assoc]
  refine List.flatMap_congr fun function member => ?_
  unfold moduleSteps
  cases readModule function with
  | error diagnostic => rfl
  | ok reading =>
      dsimp only
      rw [List.flatMap_append, List.flatMap_append, List.flatMap_cons, List.flatMap_cons, entries,
        entries]
      rfl

/-! ## Locality -/

/-- How the outcome for a file and the tree that is written compare with the file. -/
structure ExpandsLocally (settings : Settings) (code : String) (file : Module)
    (outcome : Outcome) : Prop where
  /-- All functions of modules are replaced where they stand, and nothing else is. The import of the
  runtime may be added between two statements of the file. -/
  all : outermost file.body = moduleFunctions file.body
  written : expandedFile? settings file =
    some (rebuilt (replacement settings) (importPlace settings file) file)
  rendered : outcome.code = (rebuilt (replacement settings) (importPlace settings file) file).render
  /-- What a function is replaced with comes from its decorators, its body and its documentation. -/
  each : ∀ function ∈ moduleFunctions file.body, Expandable settings function
  /-- The modules are listed in the order of the source. -/
  modules : outcome.modules = (outermost file.body).map externalName
  /-- Without entry points, everything else is the same. -/
  others : settings.entryPoints = true →
    let replace := fun function => [(expandedModule settings function).toStatement]
    expandFile (withoutEntries settings) code file =
        .ok { outcome with code := (rebuilt replace (importPlace settings file) file).render } ∧
      expandedFile? (withoutEntries settings) file =
        some (rebuilt replace (importPlace settings file) file)

/-- **An expansion is local.** If it succeeds for a file whose modules are not nested, it writes the
file with each module's function replaced where it stands, with at most the import of the runtime
added. A file without modules is written as it is. -/
theorem expandFile_local (settings : Settings) (code : String) (file : Module) :
    (moduleFunctions file.body = [] →
      expandFile settings code file = .ok ⟨file.render, [], [], []⟩ ∧
        expandedFile? settings file = some file) ∧
    (Flat file.body → ∀ outcome, expandFile settings code file = .ok outcome →
      outcome.succeeded = true → ExpandsLocally settings code file outcome) := by
  constructor
  · exact expandFile_of_unmarked code
  · intro flat outcome returns succeeded
    have passes := passes_of_succeeded code returns succeeded
    obtain ⟨value, written⟩ := expandFile_of_passes code passes
    obtain rfl := Except.ok.inj (returns.symm.trans value)
    have all := outermost_eq_iff_flat.2 flat
    exact
      { all
        written
        rendered := rfl
        each := fun function member => expandable_of_passes fun step inside =>
          passes step (List.mem_flatMap.2 ⟨function, member, inside⟩)
        modules := by rw [all]
        others := fun entries => by
          have expanded := expandFile_of_passes code (passes_withoutEntries passes)
          rw [deprecations_withoutEntries] at expanded
          exact expanded }

/-- A module with another external name, and an export that stands in no module. -/
def strayExport : String :=
  "@pymodule\n@pyglue(name=\"n\")\ndef a(m):\n @pyfn(m)\n def f():0\nclass B:\n @pyfn(m)\n def g():0\n"

/-- The default settings, with a module to import the runtime from. -/
def importing : Settings := { Settings.default with runtimeModule := some "rt" }

theorem expandFile_local_strayExport :
    ∃ file outcome, Module.ofText strayExport = .ok file ∧ Flat file.body ∧
      expandFile importing strayExport file = .ok outcome ∧ outcome.succeeded = true ∧
      outcome.modules = ["n"] ∧ ExpandsLocally importing strayExport file outcome := by
  have checked : ∃ file, Module.ofText strayExport = .ok file ∧ Flat file.body ∧
      ∃ outcome, expandFile importing strayExport file = .ok outcome ∧
        outcome.succeeded = true ∧ outcome.modules = ["n"] := by
    have evaluated : succeedsWith (Module.ofText strayExport) (fun file =>
        decide (Flat file.body) &&
          succeedsWith (expandFile importing strayExport file) fun outcome =>
            decide (outcome.succeeded = true ∧ outcome.modules = ["n"])) = true := by
      decide +kernel
    obtain ⟨file, read, passed⟩ := exists_of_succeedsWith evaluated
    obtain ⟨flat, passed⟩ := Bool.and_eq_true_iff.1 passed
    obtain ⟨outcome, returns, passed⟩ := exists_of_succeedsWith passed
    exact ⟨file, read, of_decide_eq_true flat, outcome, returns, of_decide_eq_true passed⟩
  obtain ⟨file, read, flat, outcome, returns, succeeded, modules⟩ := checked
  exact ⟨file, outcome, read, flat, returns, succeeded, modules,
    (expandFile_local importing strayExport file).2 flat outcome returns succeeded⟩

end ModuleGlue.Expansion
