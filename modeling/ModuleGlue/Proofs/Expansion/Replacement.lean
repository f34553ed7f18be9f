import Mathlib.Data.List.Basic
import ModuleGlue.Expansion.Tree
import ModuleGlue.Proofs.Expansion.ExportReading
import ModuleGlue.Proofs.Source.Functions

/-!
Contract: trees in which the functions of modules are replaced.

A module's function may stand in that of another module. Those that stand in no other are the
outermost ones; each of them is replaced with some statements, and everything around it stays.

Main statement: `outermost_eq_iff_flat` (all functions of modules are outermost ones exactly if none
stands in another).

Owns: the functions of modules in a tree, replacing the outermost ones, and what a module's function
is replaced with.

Does not own: that an expansion gives the tree with these replacements.
-/

namespace ModuleGlue.Expansion

open ModuleGlue.Directive (Options)
open ModuleGlue.Text (Points)
open ModuleGlue.Source (Clause Decorator Function Statement Suite)

/-! ## Functions of modules -/

/-- The functions of modules among some statements, inner ones before those around them. -/
def moduleFunctions (statements : List Statement) : List Function :=
  (Statement.allFunctions statements).filter isModuleFunction

/-- The functions of modules in the body of a function. -/
def innerModules (function : Function) : List Function :=
  function.body.functions.filter isModuleFunction

/-- No module's function stands in the body of another one. -/
def Flat (statements : List Statement) : Prop :=
  ∀ function ∈ moduleFunctions statements, innerModules function = []

instance (statements : List Statement) : Decidable (Flat statements) :=
  decidable_of_iff
    (∀ function ∈ moduleFunctions statements, (innerModules function).isEmpty = true)
    (by simp only [Flat, List.isEmpty_iff])

mutual

/-- The functions of modules in a statement that stand in no other one, in the order of the
source. -/
def outermostAt : Statement → List Function
  | .line _ _ _ => []
  | .function head signature body =>
    if isModuleFunction ⟨head, signature, body⟩ then [⟨head, signature, body⟩]
    else outermostIn body
  | .compound _ _ body clauses => outermostIn body ++ outermostClauses clauses

/-- The outermost functions of modules in some statements. -/
def outermost : List Statement → List Function
  | [] => []
  | statement :: rest => outermostAt statement ++ outermost rest

def outermostClause : Clause → List Function
  | .mk _ _ body => outermostIn body

def outermostClauses : List Clause → List Function
  | [] => []
  | clause :: rest => outermostClause clause ++ outermostClauses rest

/-- The outermost functions of modules behind a header. -/
def outermostIn : Suite → List Function
  | .inline _ _ => []
  | .block _ _ body _ => outermost body

end

/-! ## What they are replaced with -/

/-- A module's function without the decorators that make it one and the option decorators. -/
def strippedModule (function : Function) : Function :=
  function.withDecorators (function.head.decorators.filter fun decorator =>
    !decorator.isNamed moduleMark && !decorator.isNamed optionMark)

/-- The name under which a module is known: that of its function, unless an option gives another
one. -/
def externalName (function : Function) : String :=
  match readModule function with
  | .ok reading => reading.options.externalName.getD function.signature.name
  | .error _ => function.signature.name

/-- A module's function without its decorators, and with its body expanded. -/
def expandedModule (settings : Settings) (function : Function) : Function :=
  match expandBody (Wrapper.build settings.runtimeAlias) false (strippedModule function) with
  | .ok expansion => expansion.function
  | .error _ => strippedModule function

/-- The documentation of a function, if it has some. -/
def documentationOf (function : Function) : Points :=
  match function.body.documentation with
  | .ok (some documentation) => documentation
  | _ => []

/-- What the entry point of a module is made for. -/
def moduleEntry (settings : Settings) (function : Function) : EntryPoint :=
  ⟨function.signature.name, externalName function, terminated (documentationOf function),
    settings.runtimeAlias⟩

def entryStatement (settings : Settings) (function : Function) : Statement :=
  ((moduleEntry settings function).definition.withLeading separation).toStatement

/-- The statements in place of a module's function. -/
def replacement (settings : Settings) (function : Function) : List Statement :=
  (expandedModule settings function).toStatement ::
    if settings.entryPoints then [entryStatement settings function] else []

/-- What is left of a module's function when its option decorators are folded. -/
theorem withDecorators_of_folded {function : Function} {options options' : Options}
    {remaining : List Decorator}
    (folded : foldOptions options (function.head.decorators.filter (!·.isNamed moduleMark)) =
      (options', .ok remaining)) :
    function.withDecorators remaining = strippedModule function := by
  rw [(foldOptions_sound folded).1, List.filter_filter]
  unfold strippedModule
  simp only [Bool.and_comm]

theorem readModule_sound {function : Function} {reading : ModuleReading}
    (read : readModule function = .ok reading) :
    reading.function = strippedModule function ∧
      reading.options.externalName.getD function.signature.name = externalName function := by
  constructor
  · unfold readModule at read
    dsimp only at read
    split at read
    · cases read
    · split at read
      · cases read
      · rename_i folded
        split at read
        · cases read
        · rw [← Except.ok.inj read, withDecorators_of_folded folded]
  · unfold externalName
    rw [read]

/-- Where the documentation has a value, the entry point is made with it. -/
theorem entryPoint_of_documentation (settings : Settings) {function : Function}
    {documentation : Option Points} (found : function.body.documentation = .ok documentation) :
    entryPoint settings (externalName function) function =
      .ok (entryStatement settings function) := by
  unfold entryPoint entryStatement moduleEntry documentationOf
  rw [found]
  cases documentation <;> rfl

/-! ## Replacing them -/

section
variable (replace : Function → List Statement)

mutual

/-- A statement with the outermost functions of modules in it replaced. -/
def replaceAt : Statement → List Statement
  | .line leading parts ending => [.line leading parts ending]
  | .function head signature body =>
    if isModuleFunction ⟨head, signature, body⟩ then replace ⟨head, signature, body⟩
    else [.function head signature (replaceIn body)]
  | .compound head header body clauses =>
    [.compound head header (replaceIn body) (replaceClauses clauses)]

/-- Statements with the outermost functions of modules in them replaced. -/
def replaceAll : List Statement → List Statement
  | [] => []
  | statement :: rest => replaceAt statement ++ replaceAll rest

def replaceClause : Clause → Clause
  | .mk leading header body => .mk leading header (replaceIn body)

def replaceClauses : List Clause → List Clause
  | [] => []
  | clause :: rest => replaceClause clause :: replaceClauses rest

/-- What stands behind a header, with the outermost functions of modules in it replaced. -/
def replaceIn : Suite → Suite
  | .inline parts ending => .inline parts ending
  | .block header indent body footer => .block header indent (replaceAll body) footer

end

theorem replaceAll_append (first second : List Statement) :
    replaceAll replace (first ++ second) =
      replaceAll replace first ++ replaceAll replace second := by
  induction first with
  | nil => rfl
  | cons statement rest inductionHypothesis =>
      rw [List.cons_append, replaceAll, replaceAll, inductionHypothesis, List.append_assoc]

mutual

/-- Without functions of modules there is nothing to replace. -/
theorem replaceAt_of_none : ∀ statement : Statement, outermostAt statement = [] →
    replaceAt replace statement = [statement]
  | .line _ _ _, _ => rfl
  | .function head signature body, absent => by
      rw [outermostAt] at absent
      rw [replaceAt]
      split at absent
      · cases absent
      · rename_i ordinary
        rw [if_neg ordinary, replaceIn_of_none body absent]
  | .compound head header body clauses, absent => by
      rw [outermostAt, List.append_eq_nil_iff] at absent
      rw [replaceAt, replaceIn_of_none body absent.1, replaceClauses_of_none clauses absent.2]

theorem replaceAll_of_none : ∀ statements : List Statement, outermost statements = [] →
    replaceAll replace statements = statements
  | [], _ => rfl
  | statement :: rest, absent => by
      rw [outermost, List.append_eq_nil_iff] at absent
      rw [replaceAll, replaceAt_of_none statement absent.1, replaceAll_of_none rest absent.2]
      rfl

theorem replaceClauses_of_none : ∀ clauses : List Clause, outermostClauses clauses = [] →
    replaceClauses replace clauses = clauses
  | [], _ => rfl
  | .mk leading header body :: rest, absent => by
      rw [outermostClauses, List.append_eq_nil_iff] at absent
      rw [replaceClauses, replaceClauses_of_none rest absent.2, replaceClause,
        replaceIn_of_none body absent.1]

theorem replaceIn_of_none : ∀ suite : Suite, outermostIn suite = [] →
    replaceIn replace suite = suite
  | .inline _ _, _ => rfl
  | .block header indent body footer, absent => by
      rw [replaceIn, replaceAll_of_none body absent]

end

end

/-! ## Outermost functions among all -/

mutual

/-- The functions of modules in a statement are the outermost ones, each behind those in it. -/
theorem modules_eq_outermostAt : ∀ statement : Statement,
    statement.functions.filter isModuleFunction =
      (outermostAt statement).flatMap fun function => innerModules function ++ [function]
  | .line _ _ _ => rfl
  | .function head signature body => by
      rw [outermostAt, Statement.functions, List.filter_append]
      split
      · rename_i marked
        rw [List.filter_cons_of_pos marked, List.flatMap_singleton]
        rfl
      · rename_i ordinary
        rw [List.filter_cons_of_neg ordinary, List.filter_nil, List.append_nil,
          modules_eq_outermostIn body]
  | .compound head header body clauses => by
      rw [outermostAt, Statement.functions, List.filter_append, List.flatMap_append,
        modules_eq_outermostIn body, modules_eq_outermostClauses clauses]

theorem moduleFunctions_eq_outermost : ∀ statements : List Statement,
    moduleFunctions statements =
      (outermost statements).flatMap fun function => innerModules function ++ [function]
  | [] => rfl
  | statement :: rest => by
      rw [outermost, List.flatMap_append, ← modules_eq_outermostAt statement,
        ← moduleFunctions_eq_outermost rest]
      exact List.filter_append ..

theorem modules_eq_outermostClauses : ∀ clauses : List Clause,
    (Clause.allFunctions clauses).filter isModuleFunction =
      (outermostClauses clauses).flatMap fun function => innerModules function ++ [function]
  | [] => rfl
  | .mk leading header body :: rest => by
      rw [outermostClauses, outermostClause, List.flatMap_append, ← modules_eq_outermostIn body,
        ← modules_eq_outermostClauses rest]
      exact List.filter_append ..

theorem modules_eq_outermostIn : ∀ suite : Suite,
    suite.functions.filter isModuleFunction =
      (outermostIn suite).flatMap fun function => innerModules function ++ [function]
  | .inline _ _ => rfl
  | .block _ _ body _ => moduleFunctions_eq_outermost body

end

section
variable {statements : List Statement}

theorem mem_moduleFunctions_of_mem_outermost {function : Function}
    (member : function ∈ outermost statements) : function ∈ moduleFunctions statements := by
  rw [moduleFunctions_eq_outermost]
  exact List.mem_flatMap.2 ⟨function, member, List.mem_append_right _ (List.mem_singleton_self _)⟩

/-- Whether modules are nested can be seen at the outermost ones. -/
theorem flat_iff_outermost :
    Flat statements ↔ ∀ function ∈ outermost statements, innerModules function = [] := by
  constructor
  · intro flat function member
    exact flat function (mem_moduleFunctions_of_mem_outermost member)
  · intro none function member
    rw [moduleFunctions_eq_outermost, List.mem_flatMap] at member
    obtain ⟨outer, found, inside⟩ := member
    rw [none outer found, List.nil_append, List.mem_singleton] at inside
    rw [inside]
    exact none outer found

/-- There are as many outermost functions as functions of modules exactly if none stands in another
one. -/
theorem length_outermost_eq_iff_flat :
    (outermost statements).length = (moduleFunctions statements).length ↔ Flat statements := by
  have lengths : (moduleFunctions statements).length =
      ((outermost statements).flatMap innerModules).length + (outermost statements).length := by
    rw [moduleFunctions_eq_outermost]
    induction outermost statements with
    | nil => rfl
    | cons function rest inductionHypothesis =>
        simp only [List.flatMap_cons, List.length_append, List.length_cons, List.length_nil,
          inductionHypothesis]
        omega
  rw [flat_iff_outermost, ← List.flatMap_eq_nil_iff, ← List.length_eq_zero_iff]
  omega

/-- **All functions of modules are outermost ones exactly if none stands in another one.** -/
theorem outermost_eq_iff_flat :
    outermost statements = moduleFunctions statements ↔ Flat statements := by
  constructor
  · intro same
    exact length_outermost_eq_iff_flat.1 (congrArg List.length same)
  · intro flat
    have alone : ∀ function ∈ outermost statements,
        [function] = innerModules function ++ [function] := by
      intro function member
      rw [flat_iff_outermost.1 flat function member, List.nil_append]
    calc outermost statements = (outermost statements).flatMap fun function => [function] :=
          (List.flatMap_singleton' _).symm
      _ = moduleFunctions statements := by
          rw [moduleFunctions_eq_outermost]
          exact List.flatMap_congr alone

theorem outermost_eq_nil_iff : outermost statements = [] ↔ moduleFunctions statements = [] := by
  rw [moduleFunctions_eq_outermost, List.flatMap_eq_nil_iff]
  constructor
  · intro none function member
    rw [none] at member
    cases member
  · intro each
    refine List.eq_nil_iff_forall_not_mem.2 fun function member => ?_
    exact List.append_ne_nil_of_right_ne_nil _ (List.cons_ne_nil _ _) (each function member)

end

end ModuleGlue.Expansion
