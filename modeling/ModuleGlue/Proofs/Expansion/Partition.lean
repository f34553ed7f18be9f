import ModuleGlue.Source.Clause
import ModuleGlue.Proofs.Directive.NameForms
import ModuleGlue.Proofs.Expansion.Arrangements
import ModuleGlue.Proofs.Expansion.Statementwise

/-!
Contract: the decorators of a function fall into those that ask for its export and all others.

Without an export decorator nothing is taken out, with two of them the function is refused whatever
they say, and with one of them the export is found exactly if its arguments can be read, the option
decorators write options that are new to the record, and the legacy name is a name.

Main statement: `readExport_partitions`.

Owns: what it is for the decorators of a function to be in order, and which decorators have a name.

Does not own: the stages in which the decorators are read.
-/

namespace ModuleGlue.Expansion

open ModuleGlue.Directive (ExportArguments ExportDescriptor Options Sentence Setting TailTokens
  Token WritesOptions)
open ModuleGlue.Source (Decorator Function Shape)
open ModuleGlue.Text (isIdentifier)

variable {function : Function} {mark : Decorator} {arguments : ExportArguments}
  {settings : List (List Setting)}

/-! ## Names -/

/-- The expression is the name, or a call of it. An attribute has no name, and neither has anything
else. -/
def Bears (shape : Shape) (name : String) : Prop :=
  shape.strip = .name name ∨ ∃ places, shape.strip = .call (some name) places

/-- A decorator that was read is known by the name that its expression bears. -/
theorem isNamed_ofTokens_iff (tokens : List Source.Token) (shape : Shape) (name : String) :
    (Decorator.ofTokens tokens shape).isNamed name = true ↔ Bears shape name := by
  unfold Decorator.ofTokens Decorator.isNamed Bears Shape.asName?
  cases stripped : shape.strip with
  | call callee places =>
      dsimp only
      cases places.firstEnd <;> simp
  | name text => simp
  | member | literals _ | enclosed _ | listed _ | starred _ | group _ | other => simp

/-! ## Decorators in order -/

/-- The decorators of a function with one export decorator are in order: its arguments are read; the
option decorators write settings; no key is written twice, in the arguments or in any of them; and
the legacy name, if there is one, denotes an identifier. -/
structure InOrder (function : Function) (mark : Decorator) (arguments : ExportArguments)
    (settings : List (List Setting)) : Prop where
  accepted : ExportArguments.parse (exportCursor mark) = .ok arguments
  written : List.Forall₂ WritesOptions settings ((optionMarks function).map optionTokens)
  once : arguments.options.Admits settings.flatten
  named : ∀ literal ∈ arguments.legacyName, ∃ text, isIdentifier text = true ∧
    literal.Evaluates (.ofString text)

/-- The legacy name is a literal. -/
theorem kind_of_legacyName (accepted : ExportArguments.parse (exportCursor mark) = .ok arguments)
    {literal : Token} (given : literal ∈ arguments.legacyName) : literal.kind = .string := by
  obtain ⟨final, read⟩ := ExportArguments.parse_eq_ok_iff.1 accepted
  obtain ⟨-, ⟨first, others, legacyName, settings⟩, ⟨path, tail, -, -, follows, -⟩, rfl⟩ :=
    ExportArguments.read_sound read
  obtain rfl : legacyName = some literal := given
  cases follows with
  | legacy _ quoted | legacyComma _ quoted _ | legacyOptions _ quoted _ _ => exact quoted

/-- A literal names what it denotes. -/
theorem names_iff_of_string {literal : Token} (quoted : literal.kind = .string) {text : String} :
    literal.Names text ↔ isIdentifier text = true ∧ literal.Evaluates (.ofString text) := by
  simp [Token.Names, Token.IsWord, quoted]

/-- The options of a function whose decorators are in order, before the legacy name is merged. -/
def keywordOptions (arguments : ExportArguments) (settings : List (List Setting)) : Options :=
  arguments.options.extend settings.flatten

/-- The options with the legacy name merged into them. It comes last, so that it wins over a name
that any of the decorators gives. -/
inductive Merges (arguments : ExportArguments) (settings : List (List Setting))
    (options : Options) : Prop
  | unnamed (absent : arguments.legacyName = none)
      (same : options = keywordOptions arguments settings)
  | legacyName {literal : Token} {text : String} (given : arguments.legacyName = some literal)
      (named : literal.Names text)
      (same : options = (keywordOptions arguments settings).withLegacyName text literal)

theorem merge_eq_ok_iff_merges {descriptor : ExportDescriptor} :
    ({ arguments with options := keywordOptions arguments settings } : ExportArguments).merge =
        .ok descriptor ↔
      descriptor.path = arguments.path ∧ Merges arguments settings descriptor.options := by
  obtain ⟨path, options⟩ := descriptor
  obtain ⟨path', options', legacyName⟩ := arguments
  cases legacyName with
  | none =>
      rw [merge_of_none rfl, Except.ok.injEq, ExportDescriptor.mk.injEq]
      constructor
      · intro same
        exact ⟨same.1.symm, .unnamed rfl same.2.symm⟩
      · intro merged
        obtain ⟨samePath, merges⟩ := merged
        cases merges with
        | unnamed _ same => exact ⟨samePath.symm, same.symm⟩
        | legacyName given _ _ => cases given
  | some literal =>
      rw [Directive.merge_eq_ok_iff]
      constructor
      · intro merged
        obtain ⟨text, named, same⟩ := merged
        obtain ⟨samePath, sameOptions⟩ := (ExportDescriptor.mk.injEq ..).mp same
        exact ⟨samePath, .legacyName rfl named sameOptions⟩
      · intro merged
        obtain ⟨samePath, merges⟩ := merged
        cases merges with
        | unnamed absent _ => cases absent
        | legacyName given named same =>
            obtain rfl := Option.some.inj given
            exact ⟨_, named, (ExportDescriptor.mk.injEq ..).mpr ⟨samePath, same⟩⟩

/-- Decorators in order are merged to some options. -/
theorem InOrder.exists_merges (order : InOrder function mark arguments settings) :
    ∃ options, Merges arguments settings options := by
  cases given : arguments.legacyName with
  | none => exact ⟨_, .unnamed given rfl⟩
  | some literal =>
      obtain ⟨text, identifier, value⟩ := order.named literal given
      have quoted := kind_of_legacyName order.accepted given
      have named := (names_iff_of_string quoted).2 ⟨identifier, value⟩
      exact ⟨_, .legacyName given named rfl⟩

/-- What decorators in order are merged to, the function is exported with. -/
theorem InOrder.readExport (order : InOrder function mark arguments settings)
    (single : exportMarks function = [mark]) {options : Options}
    (merges : Merges arguments settings options) :
    Expansion.readExport function = .ok (some ⟨⟨arguments.path, options⟩, stripped function⟩) := by
  have written := order.written
  rw [← optionMarks_eq] at written
  obtain ⟨remaining, folded⟩ := foldOptions_complete written order.once
  have exports : Exports function mark
      ⟨⟨arguments.path, options⟩, function.withDecorators remaining⟩ :=
    ⟨single, arguments, _, remaining, order.accepted, folded,
      merge_eq_ok_iff_merges.2 ⟨rfl, merges⟩, rfl⟩
  rw [← exports.function_eq]
  exact readExport_eq_some_iff.2 ⟨mark, exports⟩

/-- A function is only exported if its decorators are in order. -/
theorem exists_inOrder (single : exportMarks function = [mark]) {found : Export}
    (read : readExport function = .ok (some found)) :
    ∃ arguments settings, InOrder function mark arguments settings := by
  obtain ⟨mark', single', arguments, options, remaining, accepted, folded, merged, -⟩ :=
    readExport_eq_some_iff.1 read
  obtain ⟨rfl, -⟩ := List.cons.inj (single.symm.trans single')
  obtain ⟨settings, written, once, rfl⟩ := foldOptions_writes folded
  rw [optionMarks_eq] at written
  refine ⟨arguments, settings, accepted, written, once, ?_⟩
  intro literal given
  cases (merge_eq_ok_iff_merges.1 merged).2 with
  | unnamed absent _ => simp [absent] at given
  | legacyName given' named _ =>
      obtain rfl := Option.some.inj (given'.symm.trans given)
      exact ⟨_, (names_iff_of_string (kind_of_legacyName accepted given)).1 named⟩

/-! ## The partition -/

/-- **The decorators fall into those that ask for the export and all others.** Without an export
decorator nothing is asked for, and the function stays as it is. With more than one it is refused at
the second one, whatever is written in any decorator. With exactly one it is exported exactly if the
decorators are in order; then the others are left, in order, and the legacy name wins over a name
that is given as an option. The decorators of a name are those whose expression is the name or a
call of it. -/
theorem readExport_partitions (function : Function) :
    (exportMarks function = [] → readExport function = .ok none ∧
      ∀ build statement, expandFunction build statement function =
        .ok ⟨[.kept statement], [], []⟩) ∧
    (∀ first second others, exportMarks function = first :: second :: others →
      readExport function = .error ⟨.duplicate, .repeatedExport, second.place, none⟩) ∧
    (∀ mark, exportMarks function = [mark] →
      ((∃ found, readExport function = .ok (some found)) ↔
        ∃ arguments settings, InOrder function mark arguments settings) ∧
      ∀ arguments settings, InOrder function mark arguments settings →
        ∃ options, Merges arguments settings options ∧
          readExport function = .ok (some ⟨⟨arguments.path, options⟩, stripped function⟩) ∧
          ∀ literal ∈ arguments.legacyName, ∀ text, literal.Evaluates (.ofString text) →
            options.externalName = some text) ∧
    ∀ tokens shape name, (Decorator.ofTokens tokens shape).isNamed name = true ↔
      Bears shape name := by
  refine ⟨?_, fun first second others => readExport_of_repeated, ?_, isNamed_ofTokens_iff⟩
  · intro unmarked
    exact ⟨readExport_of_none unmarked, fun build statement => expandFunction_of_none unmarked⟩
  · intro mark single
    constructor
    · constructor
      · intro exported
        obtain ⟨found, read⟩ := exported
        exact exists_inOrder single read
      · intro ordered
        obtain ⟨arguments, settings, order⟩ := ordered
        obtain ⟨options, merges⟩ := order.exists_merges
        exact ⟨_, order.readExport single merges⟩
    · intro arguments settings order
      obtain ⟨options, merges⟩ := order.exists_merges
      refine ⟨options, merges, order.readExport single merges, ?_⟩
      intro literal given text value
      cases merges with
      | unnamed absent _ => simp [absent] at given
      | @legacyName literal' merged given' named same =>
          obtain rfl := Option.some.inj (given'.symm.trans given)
          have quoted := kind_of_legacyName order.accepted given
          have value' := ((names_iff_of_string quoted).1 named).2
          have equal : text = merged := by
            apply Directive.Points.ofString_injective
            exact Option.some.inj (value.2.symm.trans value'.2)
          rw [same, Options.withLegacyName_eq, equal]
          rfl

end ModuleGlue.Expansion
