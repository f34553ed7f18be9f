import ModuleGlue.Proofs.Expansion.Statementwise

/-!
Contract: the records of legacy names, for a whole body.

Every use of a legacy name ought to be recorded, whatever becomes of the statement it stands in.

Main statement: `expandBody_deprecations_eq_iff`. Nothing is recorded twice or out of order, and
everything is recorded exactly if no statement forgets a use.

Owns: the records that there ought to be, and the two ways to forget one.

Does not own: how a legacy name is read.
-/

namespace ModuleGlue.Expansion

open ModuleGlue.Directive (Cursor ExportArguments ExportDescriptor Options Token)
open ModuleGlue.Source (Decorator Function Phrase Statement)

/-! ## What ought to be recorded -/

/-- The records for a statement: one for the legacy name, if it is a function with one export
decorator whose arguments are accepted and have one. -/
def legacyRecords (statement : Statement) : List Deprecation :=
  match statement.function? with
  | none => []
  | some function =>
    match exportMarks function with
    | [mark] =>
      match ExportArguments.parse (exportCursor mark) with
      | .ok arguments => (arguments.legacyName.map legacyRecord).toList
      | .error _ => []
    | _ => []

/-- A statement that uses a legacy name and fails later, with an error that does not bring the
record along: in the option decorators, or because there is no wrapper. -/
inductive Forgets (build : RuleBuilder) : Statement → Prop
  | options {statement : Statement} {function : Function} {mark : Decorator}
      {arguments : ExportArguments} {literal : Token} {options : Options} {reason : Diagnostic}
      (is : statement.function? = some function) (single : exportMarks function = [mark])
      (accepted : ExportArguments.parse (exportCursor mark) = .ok arguments)
      (legacy : arguments.legacyName = some literal)
      (refused : foldOptions arguments.options (otherDecorators function) =
        (options, .error reason)) :
      Forgets build statement
  | wrapper {statement : Statement} {function : Function} {mark : Decorator}
      {descriptor : ExportDescriptor} {reason : Diagnostic}
      (is : statement.function? = some function)
      (read : Exports function mark ⟨descriptor, stripped function⟩)
      (legacy : descriptor.options.deprecations ≠ [])
      (refused : build (stripped function) descriptor.options = .error reason)
      (silent : reason.recorded = []) :
      Forgets build statement

/-- A builder makes up no records: its errors bring along at most those of the options. -/
def RuleBuilder.MakesUpNoRecords (build : RuleBuilder) : Prop :=
  ∀ function options reason, build function options = .error reason →
    reason.recorded.Sublist options.deprecations

variable {build : RuleBuilder} {statement : Statement} {function : Function}

/-! ## One statement -/

theorem legacyRecords_of_accepted {mark : Decorator} {arguments : ExportArguments}
    (is : statement.function? = some function) (single : exportMarks function = [mark])
    (accepted : ExportArguments.parse (exportCursor mark) = .ok arguments) :
    legacyRecords statement = (arguments.legacyName.map legacyRecord).toList := by
  unfold legacyRecords
  simp only [is, single, accepted]

/-- An export that is read has its use recorded. -/
theorem legacyRecords_of_exports {mark : Decorator} {found : Export}
    (is : statement.function? = some function) (read : Exports function mark found) :
    legacyRecords statement = found.descriptor.options.deprecations := by
  obtain ⟨single, arguments, options, remaining, accepted, folded, merged, -⟩ := read
  rw [legacyRecords_of_accepted is single accepted, (merge_sound merged).2,
    mergedRecords_of_folded accepted folded]

/-- Arguments that are refused leave no record. -/
theorem recorded_of_refused {cursor : Cursor} {reason : Diagnostic}
    (refused : ExportArguments.parse cursor = .error reason) : reason.recorded = [] := by
  unfold Diagnostic.recorded
  rw [(cursor.reportsTokens.arguments reason refused).deprecations]
  rfl

/-- There is at most one record for a statement. -/
theorem length_legacyRecords_le (statement : Statement) : (legacyRecords statement).length ≤ 1 := by
  unfold legacyRecords
  split
  · exact Nat.zero_le 1
  · split
    · split
      · rename_i arguments _
        cases arguments.legacyName with
        | none => exact Nat.zero_le 1
        | some literal => exact Nat.le_refl 1
      · exact Nat.zero_le 1
    · exact Nat.zero_le 1

/-- What is recorded of a statement is its record, or nothing. -/
theorem Expands.deprecations_sublist (honest : build.MakesUpNoRecords) {part : Part}
    (expands : Expands build statement part) :
    part.deprecations.Sublist (legacyRecords statement) := by
  cases expands with
  | other is => exact List.nil_sublist _
  | unmarked is marks => exact List.nil_sublist _
  | misread is refused =>
      cases refused with
      | repeated marks => exact List.nil_sublist _
      | arguments single refused =>
          dsimp only
          rw [recorded_of_refused refused]
          exact List.nil_sublist _
      | options single accepted refused =>
          dsimp only
          rw [recorded_of_unfolded refused]
          exact List.nil_sublist _
      | legacyName single accepted folded refused =>
          obtain ⟨literal, -, recorded, -⟩ := merge_error refused
          dsimp only
          rw [recorded, mergedRecords_of_folded accepted folded,
            legacyRecords_of_accepted is single accepted]
  | unbuilt is read refused =>
      rw [legacyRecords_of_exports is read]
      exact honest _ _ _ refused
  | exported is read built =>
      rw [legacyRecords_of_exports is read]

/-- A statement of which too little is recorded forgets a use. -/
theorem Expands.forgets_of_ne (honest : build.MakesUpNoRecords) {part : Part}
    (expands : Expands build statement part) (less : part.deprecations ≠ legacyRecords statement) :
    Forgets build statement := by
  cases expands with
  | other is =>
      unfold legacyRecords at less
      simp only [is, ne_eq, not_true_eq_false] at less
  | unmarked is marks =>
      unfold legacyRecords at less
      simp only [is, marks, ne_eq, not_true_eq_false] at less
  | misread is refused =>
      cases refused with
      | repeated marks =>
          unfold legacyRecords at less
          simp only [is, marks] at less
          exact absurd rfl less
      | arguments single refused =>
          unfold legacyRecords at less
          simp only [is, single, refused, recorded_of_refused refused, ne_eq,
            not_true_eq_false] at less
      | @options _ arguments _ _ single accepted refused =>
          rw [legacyRecords_of_accepted is single accepted, recorded_of_unfolded refused] at less
          cases legacy : arguments.legacyName with
          | none =>
              rw [legacy] at less
              exact absurd rfl less
          | some literal => exact .options is single accepted legacy refused
      | legacyName single accepted folded refused =>
          obtain ⟨literal, -, recorded, -⟩ := merge_error refused
          rw [legacyRecords_of_accepted is single accepted] at less
          exact absurd (recorded.trans (mergedRecords_of_folded accepted folded)) less
  | @unbuilt _ _ descriptor reason is read refused =>
      have only : (legacyRecords statement).length ≤ 1 := length_legacyRecords_le statement
      rw [legacyRecords_of_exports is read] at less only
      have part : reason.recorded.Sublist descriptor.options.deprecations := honest _ _ _ refused
      have shorter : reason.recorded.length < descriptor.options.deprecations.length :=
        Nat.lt_of_le_of_ne part.length_le fun same => less (part.eq_of_length same)
      dsimp only at only
      have silent : reason.recorded = [] := List.eq_nil_of_length_eq_zero (by omega)
      refine .wrapper is read ?_ refused silent
      intro none
      rw [none] at shorter
      exact Nat.not_lt_zero _ shorter
  | exported is read built => exact absurd (legacyRecords_of_exports is read).symm less

/-- A statement that forgets a use has nothing recorded of it. -/
theorem Forgets.expands (forgets : Forgets build statement) :
    legacyRecords statement ≠ [] ∧
      ∃ part, Expands build statement part ∧ part.deprecations = [] := by
  cases forgets with
  | options is single accepted legacy refused =>
      refine ⟨?_, _, .misread is (.options single accepted refused), recorded_of_unfolded refused⟩
      rw [legacyRecords_of_accepted is single accepted, legacy]
      exact List.cons_ne_nil _ _
  | wrapper is read legacy refused silent =>
      refine ⟨?_, _, .unbuilt is read refused, silent⟩
      rwa [legacyRecords_of_exports is read]

/-- **Exactly the statements that forget a use have too little recorded of them.** -/
theorem Expands.deprecations_eq_iff (honest : build.MakesUpNoRecords) {part : Part}
    (expands : Expands build statement part) :
    part.deprecations = legacyRecords statement ↔ ¬ Forgets build statement := by
  constructor
  · intro same forgets
    obtain ⟨some, other, expands', none⟩ := forgets.expands
    rw [expands.unique expands', none] at same
    exact some same.symm
  · intro remembers
    by_contra less
    exact remembers (expands.forgets_of_ne honest less)

/-! ## Bodies -/

theorem deprecations_sublist_of_parts (honest : build.MakesUpNoRecords) {body : List Statement}
    {parts : List Part} (each : List.Forall₂ (Expands build) body parts) :
    (parts.flatMap Part.deprecations).Sublist (body.flatMap legacyRecords) := by
  induction each with
  | nil => exact List.nil_sublist _
  | cons expands each inductionHypothesis =>
      rw [List.flatMap_cons, List.flatMap_cons]
      exact (expands.deprecations_sublist honest).append inductionHypothesis

/-- Two rows of sublists agree only if each sublist is all of its list. -/
theorem deprecations_eq_iff_of_parts (honest : build.MakesUpNoRecords) {body : List Statement}
    {parts : List Part} (each : List.Forall₂ (Expands build) body parts) :
    parts.flatMap Part.deprecations = body.flatMap legacyRecords ↔
      ∀ statement ∈ body, ¬ Forgets build statement := by
  induction each with
  | nil => simp
  | @cons statement part rest parts expands each inductionHypothesis =>
      rw [List.flatMap_cons, List.flatMap_cons, List.forall_mem_cons,
        ← expands.deprecations_eq_iff honest, ← inductionHypothesis]
      constructor
      · intro same
        have shorter := (expands.deprecations_sublist honest).length_le
        have othersShorter := (deprecations_sublist_of_parts honest each).length_le
        have lengths := congrArg List.length same
        rw [List.length_append, List.length_append] at lengths
        exact List.append_inj same (by omega)
      · rintro ⟨first, others⟩
        rw [first, others]

/-- **Records are complete exactly if no use is forgotten.** What is recorded for a body are records
of its legacy names, in their order and none of them twice; it is all of them exactly if no
statement uses a legacy name and then fails in an option decorator, or for want of a wrapper with an
error that does not bring the record along. -/
theorem expandBody_deprecations_eq_iff (build : RuleBuilder) (honest : build.MakesUpNoRecords)
    (frame : Frame) (body : List Statement) :
    ∃ expansion, expandBody build.toBuilder false (frame.around body) = .ok expansion ∧
      expansion.progress.deprecations.Sublist (body.flatMap legacyRecords) ∧
      (expansion.progress.deprecations = body.flatMap legacyRecords ↔
        ∀ statement ∈ body, ¬ Forgets build statement) := by
  obtain ⟨parts, each⟩ := exists_parts build body
  exact ⟨_, expandBody_of_parts each, deprecations_sublist_of_parts honest each,
    deprecations_eq_iff_of_parts honest each⟩

/-! ## A use that is forgotten -/

/-- The rule of the usual builder: a function that is to receive the module has a parameter for it.
The code of the wrapper is given. -/
def Wrapper.rule (code : Function → Options → Phrase) : RuleBuilder := fun function options =>
  if options.passModule && !function.signature.takesPositional then
    .error (.grammar (.noModuleParameter function.signature.name) none)
  else .ok (define function (code function options))

theorem Wrapper.rule_makesUpNoRecords (code : Function → Options → Phrase) :
    (Wrapper.rule code).MakesUpNoRecords := by
  intro function options reason refused
  unfold Wrapper.rule at refused
  split at refused
  · rw [← Except.error.inj refused]
    exact List.nil_sublist _
  · cases refused

/-- The decorator `@pyfn(m, "legacy", pass_module)` on the second line of a file. -/
def legacyMark : Decorator where
  leading := []
  name := some exportMark
  opening := [⟨.empty, "@"⟩, ⟨.empty, "pyfn"⟩, ⟨.empty, "("⟩]
  arguments := [⟨.empty, "m"⟩, ⟨.empty, ","⟩, ⟨.space, "\"legacy\""⟩, ⟨.empty, ","⟩,
    ⟨.space, "pass_module"⟩]
  closing := [⟨.empty, ")"⟩]
  ending := .plain
  place := some ⟨⟨2, 4⟩, ⟨2, 35⟩⟩
  argumentPlace := some ⟨⟨2, 10⟩, ⟨2, 11⟩⟩

/-- A function under that decorator that takes nothing: `def f(): pass`. -/
def parameterless : Function where
  head := ⟨[], [legacyMark], []⟩
  signature := ⟨"f", false, verbatim "def f():", some ⟨⟨3, 4⟩, ⟨3, 17⟩⟩⟩
  body := .inline [⟨.other, [⟨.space, "pass"⟩], []⟩] .plain

/-- The function of a module, `def demo(m):`, but for its body. -/
def demoFrame : Frame :=
  ⟨⟨[], [], []⟩, ⟨"demo", true, verbatim "def demo(m):", some ⟨⟨1, 0⟩, ⟨3, 17⟩⟩⟩, .plain, none, []⟩

theorem expandBody_deprecations_eq_iff_parameterless :
    ∃ expansion, expandBody (Wrapper.rule fun _ _ => []).toBuilder false
        (demoFrame.around [parameterless.toStatement]) = .ok expansion ∧
      expansion.progress.deprecations.Sublist ([parameterless.toStatement].flatMap legacyRecords) ∧
      (expansion.progress.deprecations = [parameterless.toStatement].flatMap legacyRecords ↔
        ∀ statement ∈ [parameterless.toStatement],
          ¬ Forgets (Wrapper.rule fun _ _ => []) statement) :=
  expandBody_deprecations_eq_iff (Wrapper.rule fun _ _ => []) (Wrapper.rule_makesUpNoRecords _)
    demoFrame [parameterless.toStatement]

/-- The usual builder refuses the function, and its use of a legacy name is forgotten. -/
theorem expandBody_forgets_parameterless :
    (expandBody (Wrapper.build "_pyglue") false
        (demoFrame.around [parameterless.toStatement])).map (·.progress.deprecations) = .ok [] ∧
      [parameterless.toStatement].flatMap legacyRecords =
        [⟨.positionalName, some ⟨⟨2, 13⟩, ⟨2, 21⟩⟩⟩] := by
  constructor
  · decide +kernel
  · decide +kernel

end ModuleGlue.Expansion
