import ModuleGlue.Proofs.Expansion.Written

/-!
Contract: modules in the functions of other modules.

The function of a module is expanded as it was written. So a module in its body is listed as an
expanded one, and its function is written back as it was.

Main statement: `expandFile_expandsAll_iff_flat`. In what is written, no function is that of a
module exactly if modules are not nested, and there are entry points for all modules in the list
exactly if they are not.

Owns: the functions of modules in the tree that is written.

Does not own: what else is in the tree.
-/

namespace ModuleGlue.Expansion

open ModuleGlue.Source (Clause Decorator Function Module Statement Suite)

/-! ## Functions of modules in some statements -/

theorem moduleFunctions_cons (statement : Statement) (rest : List Statement) :
    moduleFunctions (statement :: rest) =
      statement.functions.filter isModuleFunction ++ moduleFunctions rest := by
  unfold moduleFunctions
  rw [Statement.allFunctions, List.filter_append]

theorem moduleFunctions_append (first second : List Statement) :
    moduleFunctions (first ++ second) = moduleFunctions first ++ moduleFunctions second := by
  unfold moduleFunctions
  rw [Statement.allFunctions_append, List.filter_append]

theorem outermost_append (first second : List Statement) :
    outermost (first ++ second) = outermost first ++ outermost second := by
  induction first with
  | nil => rfl
  | cons statement rest inductionHypothesis =>
      rw [List.cons_append, outermost, outermost, inductionHypothesis, List.append_assoc]

/-- There is no function of a module in a function, the function itself included. -/
theorem modules_toStatement_eq_nil_iff {function : Function} :
    function.toStatement.functions.filter isModuleFunction = [] ↔
      innerModules function = [] ∧ isModuleFunction function = false := by
  rw [Function.functions_toStatement, List.filter_append, List.append_eq_nil_iff]
  refine and_congr_right fun _ => ?_
  cases marked : isModuleFunction function with
  | true => simp [marked]
  | false => simp [marked]

/-! ## Decorators -/

theorem isModuleFunction_stripped (function : Function) :
    isModuleFunction (stripped function) = isModuleFunction function := by
  unfold isModuleFunction stripped Function.withDecorators
  dsimp only
  rw [List.any_filter]
  congr 1
  funext decorator
  cases named : decorator.isNamed moduleMark with
  | false => rw [Bool.and_false]
  | true =>
      have name : decorator.name = some moduleMark := by
        simpa [Decorator.isNamed] using named
      unfold Decorator.isNamed
      rw [name]
      rfl

theorem isModuleFunction_strippedModule (function : Function) :
    isModuleFunction (strippedModule function) = false := by
  unfold isModuleFunction strippedModule Function.withDecorators
  dsimp only
  rw [List.any_filter, List.any_eq_false]
  intro decorator _
  cases decorator.isNamed moduleMark <;> simp

/-! ## Generated code -/

mutual

/-- Generated statements hold no functions. -/
theorem functions_ofTemplate : ∀ template : Template, template.statement.functions = []
  | .simple _ => rfl
  | .documentation _ => rfl
  | .block header body => by
      rw [Template.statement, Statement.functions, Suite.functions, functions_ofTemplates body]
      rfl

theorem functions_ofTemplates : ∀ templates : List Template,
    Statement.allFunctions (Template.statements templates) = []
  | [] => rfl
  | template :: rest => by
      rw [Template.statements, Statement.allFunctions, functions_ofTemplate template,
        functions_ofTemplates rest]
      rfl

end

theorem modules_entryStatement (settings : Settings) (function : Function) :
    (entryStatement settings function).functions.filter isModuleFunction = [] := by
  refine modules_toStatement_eq_nil_iff.2 ⟨?_, rfl⟩
  unfold innerModules
  have none : Statement.allFunctions
      (Template.statements (moduleEntry settings function).body) = [] := functions_ofTemplates _
  change List.filter isModuleFunction (Statement.allFunctions
    (Template.statements (moduleEntry settings function).body)) = []
  rw [none]
  rfl

/-- A wrapper holds a copy of its function, and no other function of a module. -/
theorem modules_wrapper_eq_nil_iff {runtime : String} {function : Function}
    {options : Directive.Options} {wrapper : Wrapper}
    (built : Wrapper.build runtime function options = .ok wrapper) :
    wrapper.definition.toStatement.functions.filter isModuleFunction = [] ↔
      function.toStatement.functions.filter isModuleFunction = [] := by
  have defined : ∃ code, wrapper = Wrapper.define function code := by
    unfold Wrapper.build at built
    dsimp only at built
    split at built
    · cases built
    · obtain ⟨code, -, same⟩ := bind_eq_ok_iff.1 built
      exact ⟨code, (Except.ok.inj same).symm⟩
  obtain ⟨code, rfl⟩ := defined
  rw [modules_toStatement_eq_nil_iff, modules_toStatement_eq_nil_iff]
  have copy : innerModules (Wrapper.define function code).definition =
      (function.withLeading []).toStatement.functions.filter isModuleFunction := by
    unfold innerModules Wrapper.define
    simp only [Suite.functions, Statement.allFunctions, Statement.functions, List.append_nil]
  have unmarked : isModuleFunction (Wrapper.define function code).definition = false := rfl
  rw [copy, modules_toStatement_eq_nil_iff, unmarked]
  exact ⟨fun both => both.1, fun both => ⟨both, rfl⟩⟩

/-! ## Bodies -/

section
variable {runtime : String}

/-- A statement of a body becomes one block: itself, or its wrapper, the registration and the
function without the decorators that asked for the export. -/
theorem block_of_expanded {build : WrapperBuilder} {statement : Statement} {progress : Progress}
    (expanded : expandStatement build statement = .ok progress) :
    progress.blocks = [.kept statement] ∨
      ∃ function wrapper, ∃ descriptor : Directive.ExportDescriptor,
        statement.function? = some function ∧
        build (stripped function) descriptor.options = .ok wrapper ∧
        progress.blocks =
          [.exported wrapper (registration descriptor.path wrapper.name) (stripped function)] := by
  unfold expandStatement at expanded
  split at expanded
  · rename_i function is
    unfold expandFunction at expanded
    dsimp only at expanded
    split at expanded
    · rw [← Except.ok.inj expanded]
      exact Or.inl rfl
    · obtain ⟨found, read, rest⟩ := bind_eq_ok_iff.1 expanded
      cases found with
      | none =>
          rw [← Except.ok.inj rest]
          exact Or.inl rfl
      | some found =>
          obtain ⟨block, exported, same⟩ := bind_eq_ok_iff.1 rest
          obtain ⟨wrapper, built, block_eq⟩ := bind_eq_ok_iff.1 exported
          have kept : found.function = stripped function := by
            cases outcome : readExport function with
            | error reason =>
                rw [outcome] at read
                cases read
            | ok result =>
                rw [outcome] at read
                obtain rfl := Except.ok.inj read
                obtain ⟨mark, exports⟩ := readExport_eq_some_iff.1 outcome
                exact exports.function_eq
          rw [kept] at built block_eq
          refine Or.inr ⟨function, wrapper, found.descriptor, is, built, ?_⟩
          rw [← Except.ok.inj same, ← Except.ok.inj block_eq]
  · rw [← Except.ok.inj expanded]
    exact Or.inl rfl

/-- A function of a module in the body of another one is still one after the expansion of the body,
and no other function is. -/
theorem modules_blocks_eq_nil_iff {statements : List Statement} {progress : Progress}
    (collected : collectStatements (Wrapper.build runtime) statements = .ok progress) :
    moduleFunctions (progress.blocks.flatMap Block.statements) = [] ↔
      moduleFunctions statements = [] := by
  induction statements generalizing progress with
  | nil =>
      rw [← Except.ok.inj collected]
      rfl
  | cons statement rest inductionHypothesis =>
      obtain ⟨first, expanded, others, collected, same⟩ : ∃ first,
          expandStatement (Wrapper.build runtime) statement = .ok first ∧ ∃ others,
          collectStatements (Wrapper.build runtime) rest = .ok others ∧
          first.append others = progress := by
        obtain ⟨first, expanded, tail⟩ := bind_eq_ok_iff.1 collected
        obtain ⟨others, collected, same⟩ := bind_eq_ok_iff.1 tail
        exact ⟨first, expanded, others, collected, Except.ok.inj same⟩
      have split : progress.blocks.flatMap Block.statements =
          first.blocks.flatMap Block.statements ++ others.blocks.flatMap Block.statements := by
        rw [← same]
        exact List.flatMap_append
      rw [split, moduleFunctions_append, moduleFunctions_cons, List.append_eq_nil_iff,
        List.append_eq_nil_iff, inductionHypothesis collected]
      refine and_congr_left fun _ => ?_
      rcases block_of_expanded expanded with
        kept | ⟨function, wrapper, descriptor, is, built, exported⟩
      · rw [kept, List.flatMap_singleton, Block.statements, moduleFunctions_cons]
        exact List.append_eq_nil_iff.trans (and_iff_left rfl)
      · have here : statement.functions.filter isModuleFunction = [] ↔
            (stripped function).toStatement.functions.filter isModuleFunction = [] := by
          rw [Statement.eq_toStatement is, modules_toStatement_eq_nil_iff,
            modules_toStatement_eq_nil_iff, isModuleFunction_stripped]
          rfl
        rw [exported, List.flatMap_singleton, Block.statements, moduleFunctions_cons,
          moduleFunctions_cons, moduleFunctions_cons, List.append_eq_nil_iff,
          List.append_eq_nil_iff, List.append_eq_nil_iff, here, modules_wrapper_eq_nil_iff built]
        constructor
        · rintro ⟨-, -, own, -⟩
          exact own
        · intro own
          exact ⟨own, rfl, own, rfl⟩

end

/-- A module's function that is expanded is none any more, and holds one exactly if it did. -/
theorem modules_expandedModule_eq_nil_iff {settings : Settings} {function : Function}
    (expandable : Expandable settings function) :
    (expandedModule settings function).toStatement.functions.filter isModuleFunction = [] ↔
      innerModules function = [] := by
  obtain ⟨progress, -, expanded⟩ := expandable.body
  have collected := expanded false
  generalize expandedModule settings function = written at collected ⊢
  have unmarked := isModuleFunction_strippedModule function
  have inner : innerModules function = innerModules (strippedModule function) := rfl
  rw [inner]
  generalize strippedModule function = bare at collected unmarked
  obtain ⟨head, signature, body⟩ := bare
  cases body with
  | inline parts ending =>
      obtain rfl := (ExpandedBody.mk.inj (Except.ok.inj collected)).1
      rw [modules_toStatement_eq_nil_iff, unmarked]
      exact and_iff_left rfl
  | block header indent statements footer =>
      obtain ⟨progress', read, same⟩ := bind_eq_ok_iff.1 collected
      obtain ⟨rfl, -⟩ := ExpandedBody.mk.inj (Except.ok.inj same)
      rw [modules_toStatement_eq_nil_iff]
      have head : isModuleFunction ⟨head, signature, .block header indent
          (progress'.blocks.flatMap Block.statements) footer⟩ = false := unmarked
      rw [head, and_iff_left rfl]
      exact modules_blocks_eq_nil_iff read

/-! ## Trees -/

section
variable (replace : Function → List Statement)

mutual

theorem modules_replaceAt : ∀ statement : Statement,
    moduleFunctions (replaceAt replace statement) =
      (outermostAt statement).flatMap fun function => moduleFunctions (replace function)
  | .line _ _ _ => rfl
  | .function head signature body => by
      rw [outermostAt, replaceAt]
      split
      · rw [List.flatMap_singleton]
      · rename_i ordinary
        rw [← modules_replaceIn body, moduleFunctions_cons, Statement.functions,
          List.filter_append]
        have unmarked : List.filter isModuleFunction
            [⟨head, signature, replaceIn replace body⟩] = [] :=
          List.filter_cons_of_neg ordinary
        rw [unmarked, List.append_nil]
        exact List.append_nil _
  | .compound head header body clauses => by
      rw [outermostAt, replaceAt, List.flatMap_append, ← modules_replaceIn body,
        ← modules_replaceClauses clauses, moduleFunctions_cons, Statement.functions,
        List.filter_append]
      exact List.append_nil _

/-- The functions of modules after a replacement are those in what is put in place of the outermost
ones. -/
theorem modules_replaceAll : ∀ statements : List Statement,
    moduleFunctions (replaceAll replace statements) =
      (outermost statements).flatMap fun function => moduleFunctions (replace function)
  | [] => rfl
  | statement :: rest => by
      rw [outermost, replaceAll, moduleFunctions_append, List.flatMap_append,
        modules_replaceAt statement, modules_replaceAll rest]

theorem modules_replaceClauses : ∀ clauses : List Clause,
    (Clause.allFunctions (replaceClauses replace clauses)).filter isModuleFunction =
      (outermostClauses clauses).flatMap fun function => moduleFunctions (replace function)
  | [] => rfl
  | .mk leading header body :: rest => by
      rw [outermostClauses, outermostClause, replaceClauses, replaceClause, Clause.allFunctions,
        Clause.functions, List.filter_append, List.flatMap_append, modules_replaceIn body,
        modules_replaceClauses rest]

theorem modules_replaceIn : ∀ suite : Suite,
    (replaceIn replace suite).functions.filter isModuleFunction =
      (outermostIn suite).flatMap fun function => moduleFunctions (replace function)
  | .inline _ _ => rfl
  | .block _ _ body _ => modules_replaceAll body

end

end

/-- The import of the runtime is no function. -/
theorem modules_rebuilt (replace : Function → List Statement) (settings : Settings)
    (file : Module) :
    moduleFunctions (rebuilt replace (importPlace settings file) file).body =
      (outermost file.body).flatMap fun function => moduleFunctions (replace function) := by
  have line : ∀ count statement, importPlace settings file = some (count, statement) →
      statement.functions = [] := by
    intro count statement place
    unfold importPlace at place
    split at place
    · cases place
    · split at place
      · cases place
      · obtain ⟨-, rfl⟩ := Prod.mk.inj (Option.some.inj place)
        rfl
  cases place : importPlace settings file with
  | none => exact modules_replaceAll replace file.body
  | some added =>
      obtain ⟨count, statement⟩ := added
      unfold rebuilt
      dsimp only
      rw [moduleFunctions_append, moduleFunctions_cons, line count statement place,
        modules_replaceAll, modules_replaceAll]
      have whole : outermost file.body =
          outermost (file.body.take count) ++ outermost (file.body.drop count) := by
        rw [← outermost_append, List.take_append_drop]
      rw [whole, List.flatMap_append]
      rfl

/-- The names of the entry points that are written, in order. -/
def entryNames (settings : Settings) (file : Module) : List String :=
  (outermost file.body).map fun function =>
    (moduleEntry settings function).definition.signature.name

/-- **All modules are expanded exactly if they are not nested.** An expansion that succeeds writes
each outermost function of a module with its entry point right behind it, and lists the modules of
all functions of modules. What it writes holds a function of a module exactly if modules are nested,
and there are entry points for exactly the modules in the list, in order, if and only if they are
not. -/
theorem expandFile_expandsAll_iff_flat {settings : Settings} {code : String} {file : Module}
    {outcome : Outcome} (entries : settings.entryPoints = true)
    (returns : expandFile settings code file = .ok outcome)
    (succeeded : outcome.succeeded = true) :
    ∃ tree, expandedFile? settings file = some tree ∧ outcome.code = tree.render ∧
      tree = rebuilt (fun function =>
        [(expandedModule settings function).toStatement, entryStatement settings function])
        (importPlace settings file) file ∧
      outcome.modules = (moduleFunctions file.body).map externalName ∧
      (moduleFunctions tree.body = [] ↔ Flat file.body) ∧
      (entryNames settings file = outcome.modules.map entryPointName ↔ Flat file.body) := by
  have passes := passes_of_succeeded code returns succeeded
  obtain ⟨value, written⟩ := expandFile_of_passes code passes
  obtain rfl := Except.ok.inj (returns.symm.trans value)
  have replaced : replacement settings = fun function =>
      [(expandedModule settings function).toStatement, entryStatement settings function] := by
    funext function
    rw [replacement, if_pos entries]
  refine ⟨expandedFile settings file, written, rfl, ?_, rfl, ?_, ?_⟩
  · rw [expandedFile, replaced]
  · rw [expandedFile, modules_rebuilt, List.flatMap_eq_nil_iff, flat_iff_outermost]
    refine forall₂_congr fun function member => ?_
    have expandable : Expandable settings function := expandable_of_passes fun step inside =>
      passes step (List.mem_flatMap.2
        ⟨function, mem_moduleFunctions_of_mem_outermost member, inside⟩)
    rw [replaced, moduleFunctions_cons, moduleFunctions_cons, modules_entryStatement,
      List.append_eq_nil_iff, modules_expandedModule_eq_nil_iff expandable]
    exact and_iff_left rfl
  · have names : entryNames settings file =
        (outermost file.body).map fun function => entryPointName (externalName function) := rfl
    rw [names, List.map_map]
    constructor
    · intro same
      have lengths := congrArg List.length same
      rw [List.length_map, List.length_map] at lengths
      exact length_outermost_eq_iff_flat.1 lengths
    · intro flat
      rw [outermost_eq_iff_flat.2 flat]
      rfl

def nestedModules : String :=
  "@pymodule\ndef outer(py, m):\n    @pymodule\n    def inner(py, m):\n        pass\n"

/-- What its expansion comes to. -/
theorem nestedModules_expansion :
    ∃ file outcome tree, Module.ofText nestedModules = .ok file ∧
      expandFile Settings.default nestedModules file = .ok outcome ∧
      expandedFile? Settings.default file = some tree ∧ outcome.succeeded = true ∧
      ¬ Flat file.body ∧ outcome.modules = ["inner", "outer"] ∧
      (moduleFunctions tree.body).map (fun function => function.signature.name) = ["inner"] ∧
      (Statement.allFunctions tree.body).map (fun function => function.signature.name) =
        ["inner", "outer", "PyInit_outer"] := by
  have evaluated : succeedsWith (Module.ofText nestedModules) (fun file =>
      succeedsWith (expandFile Settings.default nestedModules file) fun outcome =>
        (expandedFile? Settings.default file).any fun tree =>
          decide (outcome.succeeded = true ∧
            ¬ Flat file.body ∧ outcome.modules = ["inner", "outer"] ∧
            (moduleFunctions tree.body).map (fun function => function.signature.name) =
              ["inner"] ∧
            (Statement.allFunctions tree.body).map (fun function => function.signature.name) =
              ["inner", "outer", "PyInit_outer"])) = true := by
    decide +kernel
  obtain ⟨file, read, passed⟩ := exists_of_succeedsWith evaluated
  obtain ⟨outcome, returns, passed⟩ := exists_of_succeedsWith passed
  obtain ⟨tree, written, passed⟩ := (Option.any_eq_true _ _).1 passed
  exact ⟨file, outcome, tree, read, returns, written, of_decide_eq_true passed⟩

theorem expandFile_expandsAll_iff_flat_nestedModules :
    ∃ file outcome, Module.ofText nestedModules = .ok file ∧
      Settings.default.entryPoints = true ∧
      expandFile Settings.default nestedModules file = .ok outcome ∧ outcome.succeeded = true ∧
      ∃ tree, expandedFile? Settings.default file = some tree ∧
        ¬ moduleFunctions tree.body = [] ∧
        ¬ entryNames Settings.default file = outcome.modules.map entryPointName := by
  obtain ⟨file, outcome, -, read, returns, -, succeeded, nested, -⟩ := nestedModules_expansion
  obtain ⟨tree, written, -, -, -, marks, entries⟩ :=
    expandFile_expandsAll_iff_flat (rfl : Settings.default.entryPoints = true) returns succeeded
  exact ⟨file, outcome, read, rfl, returns, succeeded, tree, written, mt marks.1 nested,
    mt entries.1 nested⟩

/-- The inner module is listed as expanded. Its function is still that of a module, and there is no
entry point for it. -/
theorem nestedModules_notExpanded :
    ∃ file outcome tree, Module.ofText nestedModules = .ok file ∧
      expandFile Settings.default nestedModules file = .ok outcome ∧
      expandedFile? Settings.default file = some tree ∧ outcome.succeeded = true ∧
      outcome.modules = ["inner", "outer"] ∧
      (moduleFunctions tree.body).map (fun function => function.signature.name) = ["inner"] ∧
      (Statement.allFunctions tree.body).map (fun function => function.signature.name) =
        ["inner", "outer", "PyInit_outer"] := by
  obtain ⟨file, outcome, tree, read, returns, written, succeeded, -, rest⟩ :=
    nestedModules_expansion
  exact ⟨file, outcome, tree, read, returns, written, succeeded, rest⟩

end ModuleGlue.Expansion
