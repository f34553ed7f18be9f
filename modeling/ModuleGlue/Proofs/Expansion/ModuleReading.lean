import ModuleGlue.Proofs.Directive.WrittenValues
import ModuleGlue.Proofs.Expansion.Arrangements
import ModuleGlue.Proofs.Expansion.Course

/-!
Contract: which decorators a module's function may have, and what they say.

Decorators that make a function that of a module take no arguments. Its option decorators are read
into one record, which may give the external name of the module. The check of the record looks at
its values, not at what was specified.

Main statements: `readModule_eq_ok_iff` (the decorators are accepted exactly if they write settings,
no key twice, of which each is a name or the default of the flag), `expandAt_of_unread` (a function
whose decorators are refused stays, and its one error is recorded) and `readModule_settled` (both
together).

Owns: the settings of a module's function, and what becomes of a function that is refused.

Does not own: the grammar of the settings, and the expansion of a function that is accepted.
-/

namespace ModuleGlue.Expansion

open ModuleGlue.Directive (NamedBy Options Setting WritesOptions)
open ModuleGlue.Source (Decorator Function Statement Suite)

/-! ## Decorators and settings -/

/-- The decorators that make a function that of a module. -/
def moduleMarks (function : Function) : List Decorator :=
  function.head.decorators.filter (·.isNamed moduleMark)

/-- The decorators of a module's function write some settings: a list for each option decorator, in
order, and no key twice in all of them. -/
structure WritesModule (function : Function) (settings : List (List Setting)) : Prop where
  bare : ∀ mark ∈ moduleMarks function, mark.arguments = []
  written : List.Forall₂ WritesOptions settings ((optionMarks function).map optionTokens)
  once : (settings.flatten.map Setting.key).Nodup

section
variable {function : Function}

/-- Decorators of modules and of options are different ones. -/
theorem optionMarks_of_others :
    (function.head.decorators.filter (!·.isNamed moduleMark)).filter (·.isNamed optionMark) =
      optionMarks function := by
  unfold optionMarks
  rw [List.filter_filter]
  apply List.filter_congr
  intro decorator _
  by_cases named : decorator.isNamed optionMark = true
  · have different : decorator.isNamed moduleMark = false := by
      unfold Decorator.isNamed at named ⊢
      rw [beq_iff_eq.1 named]
      decide
    rw [named, different]
    rfl
  · rw [Bool.eq_false_iff.2 named, Bool.false_and]

theorem bare_iff :
    (moduleMarks function).find? (!·.arguments.isEmpty) = none ↔
      ∀ mark ∈ moduleMarks function, mark.arguments = [] := by
  rw [List.find?_eq_none]
  simp

/-- Decorators that write some settings are accepted exactly if these are settings of a module, and
read as these. -/
theorem WritesModule.readModule_eq {settings : List (List Setting)}
    (writes : WritesModule function settings) :
    readModule function =
      if (Options.empty.extend settings.flatten).passModule ||
          (Options.empty.extend settings.flatten).textSignature.isSome then
        .error (.grammar .moduleOptions function.signature.place)
      else .ok ⟨strippedModule function, Options.empty.extend settings.flatten⟩ := by
  have absent := bare_iff.2 writes.bare
  have written := writes.written
  rw [← optionMarks_of_others] at written
  obtain ⟨remaining, folded⟩ := foldOptions_complete written
    (Options.admits_empty_iff.2 writes.once)
  unfold moduleMarks at absent
  unfold readModule
  dsimp only
  rw [absent, folded, ← withDecorators_of_folded folded]

/-- **The decorators of a module's function are accepted exactly if they write settings of a
module**, and they are read as these. -/
theorem readModule_eq_ok_iff {reading : ModuleReading} :
    readModule function = .ok reading ↔ ∃ settings, WritesModule function settings ∧
      (∀ setting ∈ settings.flatten, setting.IsForModule) ∧
        reading = ⟨strippedModule function, Options.empty.extend settings.flatten⟩ := by
  constructor
  · intro read
    unfold readModule at read
    dsimp only at read
    split at read
    · cases read
    · rename_i bare
      split at read
      · cases read
      · rename_i options remaining folded
        split at read
        · cases read
        · rename_i allowed
          obtain ⟨settings, written, admitted, rfl⟩ := foldOptions_writes folded
          rw [optionMarks_of_others] at written
          have once := Options.admits_empty_iff.1 admitted
          refine ⟨settings, ⟨bare_iff.1 bare, written, once⟩,
            (Directive.extend_isForModule_iff once).1 (Bool.eq_false_iff.2 allowed), ?_⟩
          rw [← Except.ok.inj read, withDecorators_of_folded folded]
  · rintro ⟨settings, writes, allowed, rfl⟩
    have passed := (Directive.extend_isForModule_iff writes.once).2 allowed
    rw [writes.readModule_eq, passed]
    rfl

/-- What is read is what is written. -/
theorem WritesModule.reading_eq {settings : List (List Setting)}
    (writes : WritesModule function settings) {reading : ModuleReading}
    (read : readModule function = .ok reading) :
    reading = ⟨strippedModule function, Options.empty.extend settings.flatten⟩ := by
  rw [writes.readModule_eq] at read
  split at read
  · cases read
  · exact (Except.ok.inj read).symm

/-- Whatever is wrong with the decorators of a module's function is wrong with their grammar, and
comes without records. -/
theorem family_of_unread {diagnostic : Diagnostic}
    (refused : readModule function = .error diagnostic) : diagnostic.family = .grammar := by
  unfold readModule at refused
  dsimp only at refused
  split at refused
  · rw [← Except.error.inj refused]
    rfl
  · split at refused
    · rename_i failed
      obtain ⟨decorator, -, -, blamed⟩ := foldOptions_blames failed
      rw [← Except.error.inj refused]
      exact blamed.family
    · split at refused
      · rw [← Except.error.inj refused]
        rfl
      · cases refused

/-! ## Functions that are refused -/

/-- What becomes of a module's function whose decorators are refused, once its body is gone through:
the one error ends the expansion, or it is recorded and the function stays. -/
def refusedOutcome (failFast : Bool) (diagnostic : Diagnostic) (kept : Function)
    (record : Record) : Except Failure (List Statement) × Record :=
  if failFast then (.error (.broken diagnostic), record)
  else (.ok [kept.toStatement], { record with errors := record.errors ++ [diagnostic] })

/-- **A module's function that is refused is not expanded**, and one error comes of it. -/
theorem expandAt_of_unread (marked : isModuleFunction function = true) {diagnostic : Diagnostic}
    (refused : readModule function = .error diagnostic) {settings : Settings} {body : Suite}
    {record record' : Record}
    (inner : (expandSuite settings function.body).run record = (.ok body, record')) :
    (expandAt settings function.toStatement).run record =
      refusedOutcome settings.failFast diagnostic { function with body } record' := by
  obtain ⟨head, signature, written⟩ := function
  rw [Function.toStatement, expandAt, run_bind, inner]
  unfold proceed
  dsimp only
  rw [if_pos marked]
  unfold expandModule refusedOutcome
  rw [refused]
  dsimp only
  cases settings.failFast with
  | true => rfl
  | false =>
      simp only [Bool.false_eq_true, if_false]
      rw [run_bind, run_note]
      simp only [List.append_nil]
      rfl

/-- **What the decorators of a module's function come to.** They are accepted exactly if those of
the module have no arguments and the option decorators write settings, no key twice, each of which
is a name or the flag that is not set. Then the decorators that remain are those of other names, and
the module has the name that is written, or else that of the function. Otherwise there is exactly
one error, and the function stays as it is. -/
theorem readModule_settled (marked : isModuleFunction function = true) :
    ((∃ reading, readModule function = .ok reading) ↔
      ∃ settings, WritesModule function settings ∧
        ∀ setting ∈ settings.flatten, setting.IsForModule) ∧
    (∀ reading settings, readModule function = .ok reading → WritesModule function settings →
      reading.function = strippedModule function ∧
        NamedBy settings.flatten function.signature.name
          (reading.options.externalName.getD function.signature.name)) ∧
    ∀ diagnostic, readModule function = .error diagnostic → diagnostic.family = .grammar ∧
      ∀ settings record body record',
        (expandSuite settings function.body).run record = (.ok body, record') →
          (expandAt settings function.toStatement).run record =
            refusedOutcome settings.failFast diagnostic { function with body } record' := by
  refine ⟨?_, ?_, ?_⟩
  · constructor
    · rintro ⟨reading, read⟩
      obtain ⟨settings, written, allowed, -⟩ := readModule_eq_ok_iff.1 read
      exact ⟨settings, written, allowed⟩
    · rintro ⟨settings, written, allowed⟩
      exact ⟨_, readModule_eq_ok_iff.2 ⟨settings, written, allowed, rfl⟩⟩
  · intro reading settings read writes
    rw [writes.reading_eq read]
    exact ⟨rfl, (Directive.extend_externalName_iff writes.once).1 rfl⟩
  · intro diagnostic refused
    exact ⟨family_of_unread refused, fun settings record body record' inner =>
      expandAt_of_unread marked refused inner⟩

end

/-- The decorator `@pymodule`. -/
def plainModuleMark : Decorator where
  leading := []
  name := some moduleMark
  opening := [⟨.empty, "@"⟩, ⟨.empty, moduleMark⟩]
  arguments := []
  closing := []
  ending := .plain
  place := none
  argumentPlace := none

/-- The function of a module `f`, with more decorators. -/
def moduleWith (decorators : List Decorator) : Function := decorated (plainModuleMark :: decorators)

/-- The decorator `@pyglue(pass_module = False)`. -/
def unsetFlagMark : Decorator :=
  called optionMark [⟨.empty, "pass_module"⟩, ⟨.space, "="⟩, ⟨.space, "False"⟩]

theorem readModule_settled_nameAndFlag :
    isModuleFunction (moduleWith [nameMark]) = true ∧
    (∃ reading settings, readModule (moduleWith [nameMark]) = .ok reading ∧
      WritesModule (moduleWith [nameMark]) settings ∧
        NamedBy settings.flatten "f" (reading.options.externalName.getD "f")) ∧
    isModuleFunction (moduleWith [flagMark]) = true ∧
    ∃ diagnostic, readModule (moduleWith [flagMark]) = .error diagnostic ∧
      ∀ settings record, (expandAt settings (moduleWith [flagMark]).toStatement).run record =
        refusedOutcome settings.failFast diagnostic (moduleWith [flagMark]) record := by
  have marked : isModuleFunction (moduleWith [nameMark]) = true := by decide
  have marked' : isModuleFunction (moduleWith [flagMark]) = true := by decide
  have accepted : succeedsWith (readModule (moduleWith [nameMark])) (fun _ => true) = true := by
    decide +kernel
  have unread : succeedsWith (readModule (moduleWith [flagMark])) (fun _ => true) = false := by
    decide +kernel
  refine ⟨marked, ?_, marked', ?_⟩
  · obtain ⟨reading, read, -⟩ := exists_of_succeedsWith accepted
    obtain ⟨same, named, -⟩ := readModule_settled marked
    obtain ⟨settings, writes, -⟩ := same.1 ⟨reading, read⟩
    exact ⟨reading, settings, read, writes, (named reading settings read writes).2⟩
  · cases read : readModule (moduleWith [flagMark]) with
    | error diagnostic =>
        obtain ⟨-, -, stays⟩ := readModule_settled marked'
        exact ⟨diagnostic, rfl, fun settings record =>
          (stays diagnostic read).2 settings record _ record rfl⟩
    | ok reading =>
        rw [read] at unread
        cases unread

/-- A flag that is not set is accepted on a module, although it is no name. -/
theorem unsetFlag_accepted :
    isModuleFunction (moduleWith [unsetFlagMark]) = true ∧
    ¬ ((∃ reading, readModule (moduleWith [unsetFlagMark]) = .ok reading) ↔
      ∃ settings, WritesModule (moduleWith [unsetFlagMark]) settings ∧
        ∀ setting ∈ settings.flatten, setting.key = .name) := by
  refine ⟨by decide, ?_⟩
  intro onlyNames
  have evaluated : succeedsWith (readModule (moduleWith [unsetFlagMark]))
      (fun reading => reading.options.specified == [.passModule]) = true := by decide +kernel
  obtain ⟨reading, read, specified⟩ := exists_of_succeedsWith evaluated
  obtain ⟨settings, writes, names⟩ := onlyNames.1 ⟨reading, read⟩
  have keys : settings.flatten.map Setting.key = [.passModule] := by
    rw [← beq_iff_eq.1 specified, writes.reading_eq read]
    rfl
  obtain ⟨setting, member, isFlag⟩ := List.mem_map.1 (keys ▸ List.mem_singleton_self _)
  rw [names setting member] at isFlag
  cases isFlag

end ModuleGlue.Expansion
