import Mathlib.Data.List.Forall2
import ModuleGlue.Expansion.Body
import ModuleGlue.Proofs.Expansion.ExportReading

/-!
Contract: the body of a module's function is expanded statement by statement.

Main statement: `expandBody_statementwise`. The errors are collected here, and the builder is any
function that gives a wrapper or breaks a rule.

Owns: what one statement becomes, in the form of a relation with one rule for each way out; the
parts that a body falls into; and what of a block was inserted, and what was there before.

Does not own: expansions that end at the first error.
-/

namespace ModuleGlue.Expansion

open ModuleGlue.Directive (ExportDescriptor Options)
open ModuleGlue.Source (BlankLine Function Head LineEnd Signature Statement)

/-! ## Builders -/

/-- A builder that gives a wrapper or breaks a rule. -/
abbrev RuleBuilder := Function → Options → Except Diagnostic Wrapper

def RuleBuilder.toBuilder (build : RuleBuilder) : WrapperBuilder :=
  fun function options => ofRule (build function options)

/-! ## Blocks -/

/-- The statements that a block adds to the one it comes from. -/
def Block.inserted : Block → List Statement
  | .kept _ => []
  | .exported wrapper registration _ => [wrapper.definition.toStatement, registration]

/-- The statement of a block that was there before. -/
def Block.retained : Block → Statement
  | .kept statement => statement
  | .exported _ _ function => function.toStatement

def Block.isExport : Block → Bool
  | .kept _ => false
  | .exported _ _ _ => true

theorem Block.statements_eq (block : Block) :
    block.statements = block.inserted ++ [block.retained] := by
  cases block <;> rfl

theorem Block.length_inserted (block : Block) :
    block.inserted.length = if block.isExport then 2 else 0 := by
  cases block <;> rfl

/-- What a body keeps of a statement: the statement itself, or the function that it is without the
decorators that asked for its export. -/
inductive Retains : Statement → Statement → Prop
  | same (statement : Statement) : Retains statement statement
  | stripped {statement : Statement} {function : Function}
      (is : statement.function? = some function) :
      Retains statement (stripped function).toStatement

/-! ## One statement -/

/-- What one statement becomes: its block, what was wrong with it, and what was recorded. -/
structure Part where
  block : Block
  error : Option Diagnostic
  deprecations : List Deprecation

/-- The error with a place: that of the function, if it names none itself. -/
def blamedOn (function : Function) (reason : Diagnostic) : Diagnostic :=
  { reason with span := reason.span.or function.signature.place }

/-- What a statement becomes, one rule for each way out. -/
inductive Expands (build : RuleBuilder) : Statement → Part → Prop
  /-- No function. -/
  | other {statement : Statement} (is : statement.function? = none) :
      Expands build statement ⟨.kept statement, none, []⟩
  /-- A function without export decorator. -/
  | unmarked {statement : Statement} {function : Function}
      (is : statement.function? = some function) (marks : exportMarks function = []) :
      Expands build statement ⟨.kept statement, none, []⟩
  /-- A function whose decorators break a rule. -/
  | misread {statement : Statement} {function : Function} {reason : Diagnostic}
      (is : statement.function? = some function)
      (refused : Refuses function reason) :
      Expands build statement ⟨.kept statement, some (blamedOn function reason), reason.recorded⟩
  /-- A function for which there is no wrapper. -/
  | unbuilt {statement : Statement} {function : Function} {mark : Source.Decorator}
      {descriptor : ExportDescriptor} {reason : Diagnostic}
      (is : statement.function? = some function)
      (read : Exports function mark ⟨descriptor, stripped function⟩)
      (refused : build (stripped function) descriptor.options = .error reason) :
      Expands build statement ⟨.kept statement, some (blamedOn function reason), reason.recorded⟩
  | exported {statement : Statement} {function : Function} {mark : Source.Decorator}
      {descriptor : ExportDescriptor} {wrapper : Wrapper}
      (is : statement.function? = some function)
      (read : Exports function mark ⟨descriptor, stripped function⟩)
      (built : build (stripped function) descriptor.options = .ok wrapper) :
      Expands build statement
        ⟨.exported wrapper (registration descriptor.path wrapper.name) (stripped function), none,
          descriptor.options.deprecations⟩

variable {build : RuleBuilder}

/-- Every statement becomes something. -/
theorem exists_expands (build : RuleBuilder) (statement : Statement) :
    ∃ part, Expands build statement part := by
  cases is : statement.function? with
  | none => exact ⟨_, .other is⟩
  | some function =>
      cases outcome : readExport function with
      | error reason => exact ⟨_, .misread is (readExport_eq_error_iff.1 outcome)⟩
      | ok result =>
          cases result with
          | none => exact ⟨_, .unmarked is (readExport_eq_none_iff.1 outcome)⟩
          | some found =>
              obtain ⟨mark, read⟩ := readExport_eq_some_iff.1 outcome
              obtain ⟨descriptor, function'⟩ := found
              obtain rfl := read.function_eq
              cases attempt : build (stripped function) descriptor.options with
              | error reason => exact ⟨_, .unbuilt is read attempt⟩
              | ok wrapper => exact ⟨_, .exported is read attempt⟩

def Part.progress (part : Part) : Progress :=
  ⟨[part.block], part.error.toList, part.deprecations⟩

theorem expandStatement_of_function {builder : WrapperBuilder} {statement : Statement}
    {function : Function} (is : statement.function? = some function) :
    expandStatement builder statement = expandFunction builder statement function := by
  unfold expandStatement
  rw [is]

theorem expandFunction_of_none {builder : WrapperBuilder} {statement : Statement}
    {function : Function} (marks : exportMarks function = []) :
    expandFunction builder statement function =
      .ok (Part.progress ⟨.kept statement, none, []⟩) := by
  unfold expandFunction
  rw [readExport_of_none marks]
  rfl

theorem expandFunction_of_refuses {builder : WrapperBuilder} {statement : Statement}
    {function : Function} {reason : Diagnostic} (refused : Refuses function reason) :
    expandFunction builder statement function = .ok (Part.progress
      ⟨.kept statement, some (blamedOn function reason), reason.recorded⟩) := by
  unfold expandFunction
  rw [readExport_eq_error_iff.2 refused]
  rfl

/-- A function whose export is read comes to what the builder makes of it. -/
theorem expandFunction_of_exports {statement : Statement} {function : Function} {found : Export}
    {mark : Source.Decorator} (read : Exports function mark found) :
    expandFunction build.toBuilder statement function =
      .ok (match build found.function found.descriptor.options with
        | .error reason => Part.progress
            ⟨.kept statement, some (blamedOn function reason), reason.recorded⟩
        | .ok wrapper => Part.progress
            ⟨.exported wrapper (registration found.descriptor.path wrapper.name) found.function,
              none, found.descriptor.options.deprecations⟩) := by
  unfold expandFunction exportedBlock RuleBuilder.toBuilder
  rw [readExport_eq_some_iff.2 ⟨mark, read⟩]
  dsimp only [ofRule, Except.mapError, bind, Except.bind, pure, Except.pure]
  cases build found.function found.descriptor.options with
  | error reason => rfl
  | ok wrapper => rfl

/-- The relation is what is computed. -/
theorem expandStatement_of_expands {statement : Statement} {part : Part}
    (expands : Expands build statement part) :
    expandStatement build.toBuilder statement = .ok part.progress := by
  cases expands with
  | other is =>
      unfold expandStatement
      rw [is]
      rfl
  | unmarked is marks => rw [expandStatement_of_function is, expandFunction_of_none marks]
  | misread is refused => rw [expandStatement_of_function is, expandFunction_of_refuses refused]
  | unbuilt is read refused =>
      rw [expandStatement_of_function is, expandFunction_of_exports read, refused]
  | exported is read built =>
      rw [expandStatement_of_function is, expandFunction_of_exports read, built]

theorem Part.progress_injective {first second : Part} (same : first.progress = second.progress) :
    first = second := by
  obtain ⟨block, error, deprecations⟩ := first
  obtain ⟨other, error', deprecations'⟩ := second
  obtain ⟨blocks, errors, rfl⟩ := Progress.mk.inj same
  obtain ⟨rfl, -⟩ := List.cons.inj blocks
  have reasons : error = error' := by
    have heads := congrArg List.head? errors
    simpa using heads
  rw [reasons]

/-- A statement becomes one thing only. -/
theorem Expands.unique {statement : Statement} {part other : Part}
    (expands : Expands build statement part) (expands' : Expands build statement other) :
    part = other := by
  have same := (expandStatement_of_expands expands).symm.trans (expandStatement_of_expands expands')
  exact Part.progress_injective (Except.ok.inj same)

/-- The block keeps what was there before. -/
theorem Expands.retains {statement : Statement} {part : Part}
    (expands : Expands build statement part) : Retains statement part.block.retained := by
  cases expands with
  | other is => exact .same statement
  | unmarked is marks => exact .same statement
  | misread is refused => exact .same statement
  | unbuilt is read refused => exact .same statement
  | exported is read built => exact .stripped is

/-! ## Bodies -/

def Progress.ofParts (parts : List Part) : Progress :=
  ⟨parts.map Part.block, parts.filterMap Part.error, parts.flatMap Part.deprecations⟩

def expandedStatements (parts : List Part) : List Statement :=
  parts.flatMap fun part => part.block.inserted ++ [part.block.retained]

theorem Progress.ofParts_cons (part : Part) (parts : List Part) :
    Progress.ofParts (part :: parts) = part.progress.append (.ofParts parts) := by
  obtain ⟨block, error, deprecations⟩ := part
  cases error <;> rfl

theorem Progress.ofParts_append (first second : List Part) :
    Progress.ofParts (first ++ second) = (Progress.ofParts first).append (.ofParts second) := by
  unfold Progress.ofParts Progress.append
  rw [List.map_append, List.filterMap_append, List.flatMap_append]

theorem Progress.flatMap_blocks (parts : List Part) :
    (Progress.ofParts parts).blocks.flatMap Block.statements = expandedStatements parts := by
  unfold Progress.ofParts expandedStatements
  rw [List.flatMap_map]
  simp only [Block.statements_eq]

/-- Every body falls into parts. -/
theorem exists_parts (build : RuleBuilder) (body : List Statement) :
    ∃ parts, List.Forall₂ (Expands build) body parts := by
  induction body with
  | nil => exact ⟨[], .nil⟩
  | cons statement rest inductionHypothesis =>
      obtain ⟨part, expands⟩ := exists_expands build statement
      obtain ⟨parts, each⟩ := inductionHypothesis
      exact ⟨part :: parts, .cons expands each⟩

theorem collectStatements_of_parts {body : List Statement} {parts : List Part}
    (each : List.Forall₂ (Expands build) body parts) :
    collectStatements build.toBuilder body = .ok (.ofParts parts) := by
  induction each with
  | nil => rfl
  | @cons statement part rest parts expands each inductionHypothesis =>
      unfold collectStatements
      rw [expandStatement_of_expands expands, inductionHypothesis, Progress.ofParts_cons]
      rfl

theorem retains_of_parts {body : List Statement} {parts : List Part}
    (each : List.Forall₂ (Expands build) body parts) :
    List.Forall₂ Retains body (parts.map fun part => part.block.retained) := by
  induction each with
  | nil => exact .nil
  | cons expands each inductionHypothesis => exact .cons expands.retains inductionHypothesis

/-- Each export inserts two statements. -/
theorem length_expandedStatements (parts : List Part) :
    (expandedStatements parts).length =
      parts.length + 2 * parts.countP fun part => part.block.isExport := by
  unfold expandedStatements
  induction parts with
  | nil => rfl
  | cons part parts inductionHypothesis =>
      rw [List.flatMap_cons, List.length_append, List.length_append, inductionHypothesis,
        Block.length_inserted, List.countP_cons, List.length_singleton, List.length_cons]
      split <;> omega

/-! ## Functions -/

/-- A function but for the statements of its block. -/
structure Frame where
  head : Head
  signature : Signature
  header : LineEnd
  indent : Option String
  footer : List BlankLine

/-- The function with given statements in its block. -/
def Frame.around (frame : Frame) (statements : List Statement) : Function :=
  ⟨frame.head, frame.signature, .block frame.header frame.indent statements frame.footer⟩

theorem expandBody_of_parts {frame : Frame} {body : List Statement} {parts : List Part}
    (each : List.Forall₂ (Expands build) body parts) :
    expandBody build.toBuilder false (frame.around body) =
      .ok ⟨frame.around (expandedStatements parts), .ofParts parts⟩ := by
  unfold expandBody Frame.around
  dsimp only
  rw [if_neg Bool.false_ne_true, collectStatements_of_parts each, ← Progress.flatMap_blocks]
  rfl

/-- **A body is expanded statement by statement.** It falls into parts, one for each statement in
order; its expansion is theirs in a row, and so are its errors and records. Without what was
inserted it is the body as it was, up to the decorators of exported functions, and it grows by two
statements for each of these. Expanding one body after another is expanding both together. -/
theorem expandBody_statementwise (build : RuleBuilder) (frame : Frame) :
    (∀ body : List Statement, ∃ parts : List Part,
      List.Forall₂ (Expands build) body parts ∧
      expandBody build.toBuilder false (frame.around body) =
        .ok ⟨frame.around (expandedStatements parts), .ofParts parts⟩ ∧
      List.Forall₂ Retains body (parts.map fun part => part.block.retained) ∧
      (expandedStatements parts).length =
        body.length + 2 * parts.countP fun part => part.block.isExport) ∧
    ∀ first second : List Statement, ∃ ofFirst ofSecond : List Statement,
      ∃ progress others : Progress,
        expandBody build.toBuilder false (frame.around first) =
          .ok ⟨frame.around ofFirst, progress⟩ ∧
        expandBody build.toBuilder false (frame.around second) =
          .ok ⟨frame.around ofSecond, others⟩ ∧
        expandBody build.toBuilder false (frame.around (first ++ second)) =
          .ok ⟨frame.around (ofFirst ++ ofSecond), progress.append others⟩ := by
  constructor
  · intro body
    obtain ⟨parts, each⟩ := exists_parts build body
    refine ⟨parts, each, expandBody_of_parts each, retains_of_parts each, ?_⟩
    rw [length_expandedStatements, each.length_eq]
  · intro first second
    obtain ⟨parts, each⟩ := exists_parts build first
    obtain ⟨others, eachOther⟩ := exists_parts build second
    refine ⟨expandedStatements parts, expandedStatements others, .ofParts parts, .ofParts others,
      expandBody_of_parts each, expandBody_of_parts eachOther, ?_⟩
    have whole : expandedStatements (parts ++ others) =
        expandedStatements parts ++ expandedStatements others := List.flatMap_append
    rw [expandBody_of_parts (List.rel_append each eachOther), whole, Progress.ofParts_append]

end ModuleGlue.Expansion
