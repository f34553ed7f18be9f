import ModuleGlue.Expansion.Decoration
import ModuleGlue.Proofs.Directive.Blame

/-!
Contract: what a function's decorators ask for, stage by stage.

Main statements: `readExport_eq_none_iff` (nothing is asked for exactly if no decorator exports the
function), `readExport_eq_some_iff` and `readExport_eq_error_iff` (with one such decorator its
arguments are read, the option decorators are folded into the record, and the legacy name is merged;
the first stage that fails gives the error).

Owns: the stages, what is left of the decorators, and which records each stage keeps.

Does not own: the grammar of the arguments.
-/

namespace ModuleGlue.Expansion

open ModuleGlue.Directive (Cursor ExportArguments ExportDescriptor Name Options Token)
open ModuleGlue.Source (Decorator Function)

/-! ## Option decorators -/

/-- Folding takes the option decorators out, and no records in. -/
theorem foldOptions_sound {options options' : Options} {decorators remaining : List Decorator}
    (folded : foldOptions options decorators = (options', .ok remaining)) :
    remaining = decorators.filter (!·.isNamed optionMark) ∧
      options'.deprecations = options.deprecations := by
  induction decorators generalizing options remaining with
  | nil =>
      obtain ⟨rfl, same⟩ := Prod.mk.inj folded
      exact ⟨(Except.ok.inj same).symm, rfl⟩
  | cons decorator rest inductionHypothesis =>
      rw [foldOptions] at folded
      split at folded
      · rename_i named
        split at folded
        · cases (Prod.mk.inj folded).2
        · rename_i read next found
          obtain ⟨-, settings, -, -, rfl⟩ := Options.readInto_sound found
          obtain ⟨left, kept⟩ := inductionHypothesis folded
          refine ⟨?_, kept⟩
          rw [left, List.filter_cons_of_neg (by simp [named])]
      · rename_i notNamed
        generalize inner : foldOptions options rest = result at folded
        obtain ⟨record, outcome⟩ := result
        obtain ⟨rfl, same⟩ := Prod.mk.inj folded
        cases outcome with
        | error reason => cases same
        | ok others =>
            obtain rfl := Except.ok.inj same
            obtain ⟨left, kept⟩ := inductionHypothesis inner
            refine ⟨?_, kept⟩
            rw [left, List.filter_cons_of_pos (by simp [notNamed])]

/-- Whatever is wrong with option decorators is blamed on the arguments of one of them. -/
theorem foldOptions_blames {options options' : Options} {decorators : List Decorator}
    {reason : Diagnostic} (failed : foldOptions options decorators = (options', .error reason)) :
    ∃ decorator ∈ decorators, decorator.isNamed optionMark = true ∧
      (argumentCursor decorator (argumentOrigin decorator)).Blames reason := by
  induction decorators generalizing options with
  | nil => cases (Prod.mk.inj failed).2
  | cons decorator rest inductionHypothesis =>
      rw [foldOptions] at failed
      split at failed
      · rename_i named
        split at failed
        · rename_i read cause found
          obtain ⟨rfl, same⟩ := Prod.mk.inj failed
          obtain rfl := Except.error.inj same
          exact ⟨decorator, List.mem_cons_self .., named, Options.readInto_blames found⟩
        · obtain ⟨other, member, marked, blamed⟩ := inductionHypothesis failed
          exact ⟨other, List.mem_cons_of_mem _ member, marked, blamed⟩
      · generalize inner : foldOptions options rest = result at failed
        obtain ⟨record, outcome⟩ := result
        obtain ⟨rfl, same⟩ := Prod.mk.inj failed
        cases outcome with
        | ok others => cases same
        | error cause =>
            obtain rfl := Except.error.inj same
            obtain ⟨other, member, marked, blamed⟩ := inductionHypothesis inner
            exact ⟨other, List.mem_cons_of_mem _ member, marked, blamed⟩

/-! ## The legacy name -/

def legacyRecord (literal : Token) : Deprecation := ⟨.positionalName, literal.span⟩

/-- The records of the arguments together with that of their legacy name, if they have one. -/
def mergedRecords (arguments : ExportArguments) : List Deprecation :=
  arguments.options.deprecations ++ (arguments.legacyName.map legacyRecord).toList

/-- A merge that succeeds keeps the path and records the legacy name. -/
theorem merge_sound {arguments : ExportArguments} {descriptor : ExportDescriptor}
    (merged : arguments.merge = .ok descriptor) :
    descriptor.path = arguments.path ∧
      descriptor.options.deprecations = mergedRecords arguments := by
  unfold ExportArguments.merge at merged
  unfold mergedRecords
  split at merged
  · rename_i absent
    obtain rfl := Except.ok.inj merged
    simp [absent]
  · rename_i literal present
    dsimp only at merged
    split at merged
    · obtain rfl := Except.ok.inj merged
      refine ⟨rfl, ?_⟩
      unfold Options.setName Options.mark
      split <;> simp [present, legacyRecord]
    · cases merged

/-- A merge that fails brings the record along. -/
theorem merge_error {arguments : ExportArguments} {reason : Diagnostic}
    (failed : arguments.merge = .error reason) :
    ∃ literal, arguments.legacyName = some literal ∧
      reason.recorded = mergedRecords arguments ∧ reason.family = .legacyName ∧
        reason.span = some literal.span := by
  unfold ExportArguments.merge at failed
  unfold mergedRecords
  split at failed
  · cases failed
  · rename_i literal present
    dsimp only at failed
    split at failed
    · cases failed
    · rw [← Except.error.inj failed]
      refine ⟨literal, present, ?_, rfl, rfl⟩
      simp [Diagnostic.recorded, present, legacyRecord]

/-! ## The stages -/

/-- The tokens of an export decorator's arguments. -/
def exportCursor (mark : Decorator) : Cursor :=
  argumentCursor mark ((argumentOrigin mark).or mark.place)

/-- Where the place of the first argument is known, an export decorator is read like any other. -/
theorem exportCursor_of_placed {mark : Decorator} {place : Span}
    (placed : mark.argumentPlace = some place) :
    exportCursor mark = argumentCursor mark (argumentOrigin mark) := by
  unfold exportCursor argumentOrigin
  rw [placed]
  split
  · rw [Option.or_self]
  · rfl

def exportMarks (function : Function) : List Decorator :=
  function.head.decorators.filter (·.isNamed exportMark)

def otherDecorators (function : Function) : List Decorator :=
  function.head.decorators.filter (!·.isNamed exportMark)

theorem readExport_of_none {function : Function} (marks : exportMarks function = []) :
    readExport function = .ok none := by
  unfold exportMarks at marks
  unfold readExport
  simp only [marks]

theorem readExport_of_repeated {function : Function} {first second : Decorator}
    {others : List Decorator} (marks : exportMarks function = first :: second :: others) :
    readExport function = .error ⟨.duplicate, .repeatedExport, second.place, none⟩ := by
  unfold exportMarks at marks
  unfold readExport
  simp only [marks]

theorem readExport_of_single {function : Function} {mark : Decorator}
    (single : exportMarks function = [mark]) :
    readExport function = (do
      let arguments ← ExportArguments.parse (exportCursor mark)
      match foldOptions arguments.options (otherDecorators function) with
      | (_, .error diagnostic) => .error diagnostic
      | (options, .ok remaining) =>
        let descriptor ← { arguments with options }.merge
        .ok (some ⟨descriptor, function.withDecorators remaining⟩)) := by
  unfold exportMarks at single
  unfold readExport
  simp only [single]
  rfl

/-- The stages behind the arguments give an export, or fail; they never give nothing. -/
structure Exports (function : Function) (mark : Decorator) (found : Export) : Prop where
  single : exportMarks function = [mark]
  stages : ∃ arguments options remaining,
    ExportArguments.parse (exportCursor mark) = .ok arguments ∧
      foldOptions arguments.options (otherDecorators function) = (options, .ok remaining) ∧
        ({ arguments with options } : ExportArguments).merge = .ok found.descriptor ∧
          found.function = function.withDecorators remaining

/-- A stage at which reading fails, with one export decorator or with more. -/
inductive Refuses (function : Function) : Diagnostic → Prop
  | repeated {first second : Decorator} {others : List Decorator}
      (marks : exportMarks function = first :: second :: others) :
      Refuses function ⟨.duplicate, .repeatedExport, second.place, none⟩
  | arguments {mark : Decorator} {reason : Diagnostic}
      (single : exportMarks function = [mark])
      (refused : ExportArguments.parse (exportCursor mark) = .error reason) :
      Refuses function reason
  | options {mark : Decorator} {arguments : ExportArguments} {options : Options}
      {reason : Diagnostic} (single : exportMarks function = [mark])
      (accepted : ExportArguments.parse (exportCursor mark) = .ok arguments)
      (refused : foldOptions arguments.options (otherDecorators function) =
        (options, .error reason)) :
      Refuses function reason
  | legacyName {mark : Decorator} {arguments : ExportArguments} {options : Options}
      {remaining : List Decorator} {reason : Diagnostic} (single : exportMarks function = [mark])
      (accepted : ExportArguments.parse (exportCursor mark) = .ok arguments)
      (folded : foldOptions arguments.options (otherDecorators function) = (options, .ok remaining))
      (refused : ({ arguments with options } : ExportArguments).merge = .error reason) :
      Refuses function reason

theorem readExport_eq_none_iff {function : Function} :
    readExport function = .ok none ↔ exportMarks function = [] := by
  cases marks : exportMarks function with
  | nil => simp [readExport_of_none marks]
  | cons mark rest =>
      cases rest with
      | nil =>
          rw [readExport_of_single marks]
          simp only [bind_eq_ok_iff, reduceCtorEq, iff_false, not_exists, not_and]
          intro arguments accepted
          split
          · intro impossible
            cases impossible
          · simp [bind_eq_ok_iff]
      | cons second others => simp [readExport_of_repeated marks]

/-- **An export is found exactly if all stages succeed**, for the one export decorator there is. -/
theorem readExport_eq_some_iff {function : Function} {found : Export} :
    readExport function = .ok (some found) ↔ ∃ mark, Exports function mark found := by
  constructor
  · intro read
    cases marks : exportMarks function with
    | nil =>
        rw [readExport_of_none marks] at read
        cases read
    | cons mark rest =>
        cases rest with
        | nil =>
            rw [readExport_of_single marks, bind_eq_ok_iff] at read
            obtain ⟨arguments, accepted, read⟩ := read
            split at read
            · cases read
            · rename_i options remaining folded
              obtain ⟨descriptor, merged, same⟩ := bind_eq_ok_iff.1 read
              obtain rfl := Option.some.inj (Except.ok.inj same)
              exact ⟨mark, marks, arguments, options, remaining, accepted, folded, merged, rfl⟩
        | cons second others =>
            rw [readExport_of_repeated marks] at read
            cases read
  · rintro ⟨mark, single, arguments, options, remaining, accepted, folded, merged, stripped⟩
    obtain ⟨descriptor, kept⟩ := found
    dsimp only at merged stripped
    rw [readExport_of_single single, stripped, bind_eq_ok_iff]
    refine ⟨arguments, accepted, ?_⟩
    rw [folded]
    exact bind_eq_ok_iff.2 ⟨descriptor, merged, rfl⟩

/-- **Reading fails exactly if a stage fails**, and with the error of that stage. -/
theorem readExport_eq_error_iff {function : Function} {reason : Diagnostic} :
    readExport function = .error reason ↔ Refuses function reason := by
  constructor
  · intro failed
    cases marks : exportMarks function with
    | nil =>
        rw [readExport_of_none marks] at failed
        cases failed
    | cons mark rest =>
        cases rest with
        | nil =>
            rw [readExport_of_single marks, bind_eq_error_iff] at failed
            rcases failed with refused | ⟨arguments, accepted, failed⟩
            · exact .arguments marks refused
            · split at failed
              · rename_i options diagnostic refused
                obtain rfl := Except.error.inj failed
                exact .options marks accepted refused
              · rename_i options remaining folded
                rcases bind_eq_error_iff.1 failed with refused | ⟨descriptor, -, impossible⟩
                · exact .legacyName marks accepted folded refused
                · cases impossible
        | cons second others =>
            rw [readExport_of_repeated marks] at failed
            obtain rfl := Except.error.inj failed
            exact .repeated marks
  · intro refuses
    cases refuses with
    | repeated marks => exact readExport_of_repeated marks
    | arguments single refused =>
        rw [readExport_of_single single]
        exact bind_eq_error_iff.2 (Or.inl refused)
    | options single accepted refused =>
        rw [readExport_of_single single]
        refine bind_eq_error_iff.2 (Or.inr ⟨_, accepted, ?_⟩)
        rw [refused]
    | legacyName single accepted folded refused =>
        rw [readExport_of_single single]
        refine bind_eq_error_iff.2 (Or.inr ⟨_, accepted, ?_⟩)
        rw [folded]
        exact bind_eq_error_iff.2 (Or.inl refused)

/-! ## What is left of a function -/

/-- A function without the decorators that ask for its export. -/
def stripped (function : Function) : Function :=
  function.withDecorators (function.head.decorators.filter fun decorator =>
    !decorator.isNamed exportMark && !decorator.isNamed optionMark)

/-- An exported function differs from the written one in its decorators only: exactly those that
ask for the export are gone, and the others keep their order. -/
theorem Exports.function_eq {function : Function} {mark : Decorator} {found : Export}
    (exports : Exports function mark found) : found.function = stripped function := by
  obtain ⟨-, arguments, options, remaining, -, folded, -, left⟩ := exports
  rw [left, (foldOptions_sound folded).1]
  unfold otherDecorators stripped
  rw [List.filter_filter]
  simp only [Bool.and_comm]

/-! ## Records -/

/-- Option decorators that are refused leave no record. -/
theorem recorded_of_unfolded {options options' : Options} {decorators : List Decorator}
    {reason : Diagnostic} (failed : foldOptions options decorators = (options', .error reason)) :
    reason.recorded = [] := by
  obtain ⟨decorator, -, -, blamed⟩ := foldOptions_blames failed
  unfold Diagnostic.recorded
  rw [blamed.deprecations]
  rfl

/-- Reading arguments records nothing. -/
theorem deprecations_of_accepted {cursor : Cursor} {arguments : ExportArguments}
    (accepted : ExportArguments.parse cursor = .ok arguments) :
    arguments.options.deprecations = [] := by
  obtain ⟨final, read⟩ := ExportArguments.parse_eq_ok_iff.1 accepted
  obtain ⟨-, sentence, -, rfl⟩ := ExportArguments.read_sound read
  rfl

/-- Arguments that come with a record of option decorators still have only their own record. -/
theorem mergedRecords_of_folded {cursor : Cursor} {arguments : ExportArguments} {options : Options}
    {decorators remaining : List Decorator}
    (accepted : ExportArguments.parse cursor = .ok arguments)
    (folded : foldOptions arguments.options decorators = (options, .ok remaining)) :
    mergedRecords { arguments with options } =
      (arguments.legacyName.map legacyRecord).toList := by
  unfold mergedRecords
  rw [(foldOptions_sound folded).2, deprecations_of_accepted accepted, List.nil_append]

end ModuleGlue.Expansion
