import ModuleGlue.Expansion.Body
import ModuleGlue.Proofs.Directive.Rendering

/-!
Contract: places are passed on, and nothing is decided by them.

Where decorators, arguments and functions stand is known from elsewhere, or not known at all. Two
functions that differ in their places at most are expanded to the same code, with the same errors and
the same deprecations: the decorators are read from the same tokens, a builder that does not look at
places builds the same wrapper, and an error that names no place is blamed on the function whether
the place of that is known or not.

Main statement: `expandBody_of_unplaced`.

Owns: which results differ in their places at most.

Does not own: where something stands.
-/

namespace ModuleGlue

theorem Cause.Alike.eq {first second : Cause} (alike : first.Alike .anywhere second) :
    first = second := by
  cases alike with
  | same => rfl
  | found texts => exact congrArg _ (congrArg some texts)

namespace Expansion

open ModuleGlue.Directive (Cursor ExportArguments ExportDescriptor ModulePath Name Options
  TextSignature Token tokenize tokensFrom)
open ModuleGlue.Source (Clause Decorator Function Head Statement Style Suite)

/-! ## Decorators -/

section
variable {first second : Decorator}

/-- The tokens of a text are the same wherever it stands. -/
theorem tokenize_alike (text : String) (origin origin' : Option Span) :
    List.Forall₂ (Token.Alike .anywhere) (tokenize text origin) (tokenize text origin') := by
  unfold tokenize
  rw [List.forall₂_map_left_iff, List.forall₂_map_right_iff, List.forall₂_same]
  intro token _
  exact ⟨rfl, rfl, fun _ => rfl, trivial⟩

/-- The arguments of decorators that differ in their places at most are read from the same
tokens. -/
theorem argumentCursor_alike (same : first.unplaced = second.unplaced)
    (origin origin' : Option Span) :
    (argumentCursor first origin).Alike .anywhere (argumentCursor second origin') := by
  have text : first.argumentText = second.argumentText := by
    show first.unplaced.argumentText = second.unplaced.argumentText
    rw [same]
  unfold argumentCursor
  rw [text]
  exact ⟨.nil, tokenize_alike _ origin origin', trivial⟩

theorem isNamed_of_unplaced (same : first.unplaced = second.unplaced) (name : String) :
    first.isNamed name = second.isNamed name := by
  show first.unplaced.isNamed name = second.unplaced.isNamed name
  rw [same]

end

/-- Decorators in a row that differ in their places at most. -/
abbrev SameDecorators : List Decorator → List Decorator → Prop :=
  List.Forall₂ fun first second => first.unplaced = second.unplaced

/-- A choice among decorators that does not look at places chooses the same ones. -/
theorem SameDecorators.filter {decorators decorators' : List Decorator} {test : Decorator → Bool}
    (same : SameDecorators decorators decorators')
    (blind : ∀ first second, first.unplaced = second.unplaced → test first = test second) :
    SameDecorators (decorators.filter test) (decorators'.filter test) := by
  induction same with
  | nil => exact .nil
  | @cons first second rest rest' heads _ inductionHypothesis =>
      rw [List.filter_cons, List.filter_cons, blind first second heads]
      split
      · exact .cons heads inductionHypothesis
      · exact inductionHypothesis

theorem sameDecorators_iff {decorators decorators' : List Decorator} :
    SameDecorators decorators decorators' ↔
      decorators.map Decorator.unplaced = decorators'.map Decorator.unplaced := by
  rw [← List.forall₂_eq_eq_eq, List.forall₂_map_left_iff, List.forall₂_map_right_iff]

/-- Option decorators are folded into the same record, whatever their places are, and the same other
decorators are left. -/
theorem foldOptions_alike {decorators decorators' : List Decorator} {options options' : Options}
    (same : SameDecorators decorators decorators') (records : options.Alike .anywhere options') :
    (foldOptions options decorators).1.Alike .anywhere (foldOptions options' decorators').1 ∧
      EndsAlike (Diagnostic.Alike .anywhere) SameDecorators (foldOptions options decorators).2
        (foldOptions options' decorators').2 := by
  induction same generalizing options options' with
  | nil => exact ⟨records, .ok .nil⟩
  | @cons first second rest rest' heads _ inductionHypothesis =>
      unfold foldOptions
      rw [isNamed_of_unplaced heads]
      split
      · have read := Directive.Options.readInto_alike records
          (argumentCursor_alike heads (argumentOrigin first) (argumentOrigin second))
        generalize options.readInto _ = reading at read ⊢
        generalize options'.readInto _ = reading' at read ⊢
        obtain ⟨middle, outcome⟩ := reading
        obtain ⟨middle', outcome'⟩ := reading'
        obtain ⟨middles, outcomes⟩ := read
        cases outcomes with
        | error failed => exact ⟨middles, .error failed⟩
        | ok _ => exact inductionHypothesis middles
      · have folded := inductionHypothesis records
        generalize foldOptions options rest = reading at folded ⊢
        generalize foldOptions options' rest' = reading' at folded ⊢
        obtain ⟨middle, outcome⟩ := reading
        obtain ⟨middle', outcome'⟩ := reading'
        obtain ⟨middles, outcomes⟩ := folded
        refine ⟨middles, ?_⟩
        cases outcomes with
        | error failed => exact .error failed
        | ok others => exact .ok (.cons heads others)

/-! ## Exported functions -/

/-- The same export of the same function, up to places. -/
structure Export.Alike (first second : Export) : Prop where
  descriptor : first.descriptor.Alike .anywhere second.descriptor
  function : first.function.unplaced = second.function.unplaced

theorem parse_alike {cursor cursor' : Cursor} (alike : cursor.Alike .anywhere cursor') :
    EndsAlike (Diagnostic.Alike .anywhere) (ExportArguments.Alike .anywhere)
      (ExportArguments.parse cursor) (ExportArguments.parse cursor') := by
  have read := ExportArguments.read_alike alike
  unfold ExportArguments.parse
  unfold Directive.ReadsAlike at read
  generalize ExportArguments.read cursor = first at read ⊢
  generalize ExportArguments.read cursor' = second at read ⊢
  cases read with
  | error failed => exact .error failed
  | ok found => exact .ok found.1

/-- The parts of functions that differ in their places at most. -/
theorem decorators_of_unplaced {first second : Function} (same : first.unplaced = second.unplaced) :
    SameDecorators first.head.decorators second.head.decorators :=
  sameDecorators_iff.2 (congrArg (fun function => function.head.decorators) same)

/-- Decorators that differ in their places at most give functions that do. -/
theorem unplaced_withDecorators {first second : Function} {decorators decorators' : List Decorator}
    (same : first.unplaced = second.unplaced) (rows : SameDecorators decorators decorators') :
    (first.withDecorators decorators).unplaced = (second.withDecorators decorators').unplaced := by
  show first.unplaced.withDecorators (decorators.map Decorator.unplaced) =
    second.unplaced.withDecorators (decorators'.map Decorator.unplaced)
  rw [same, sameDecorators_iff.1 rows]

/-- Functions that differ in their places at most ask for the same export, or break the same rule. -/
theorem readExport_alike {first second : Function} (same : first.unplaced = second.unplaced) :
    EndsAlike (Diagnostic.Alike .anywhere) (Option.Rel Export.Alike) (readExport first)
      (readExport second) := by
  have rows := decorators_of_unplaced same
  have marks := rows.filter fun _ _ same => isNamed_of_unplaced same exportMark
  have others : SameDecorators
      (first.head.decorators.filter fun decorator => !decorator.isNamed exportMark)
      (second.head.decorators.filter fun decorator => !decorator.isNamed exportMark) :=
    rows.filter fun _ _ same => congrArg not (isNamed_of_unplaced same exportMark)
  unfold readExport
  dsimp only
  generalize first.head.decorators.filter (·.isNamed exportMark) = named at marks ⊢
  generalize second.head.decorators.filter (·.isNamed exportMark) = named' at marks ⊢
  cases marks with
  | nil => exact .ok .none
  | @cons mark mark' rest rest' heads tails =>
      cases tails with
      | cons _ _ => exact .error ⟨rfl, .same _, trivial, .none⟩
      | nil =>
          dsimp only
          apply (parse_alike (argumentCursor_alike heads _ _)).bind
          intro arguments arguments' alike
          have folded := foldOptions_alike others alike.options
          generalize foldOptions arguments.options _ = reading at folded ⊢
          generalize foldOptions arguments'.options _ = reading' at folded ⊢
          obtain ⟨options, outcome⟩ := reading
          obtain ⟨options', outcome'⟩ := reading'
          obtain ⟨records, outcomes⟩ := folded
          cases outcomes with
          | error failed => exact .error failed
          | ok remaining =>
              have whole : ExportArguments.Alike .anywhere { arguments with options }
                  { arguments' with options := options' } :=
                ⟨alike.path, records, alike.legacyName⟩
              apply (ExportArguments.merge_alike whole).bind
              intro descriptor descriptor' merged
              exact .ok (.some ⟨merged, unplaced_withDecorators same remaining⟩)

/-! ## Builders -/

/-- Failures for the same reason, up to places. -/
inductive Failure.Alike : Failure → Failure → Prop where
  | broken {first second : Diagnostic} (alike : first.Alike .anywhere second) :
      Failure.Alike (.broken first) (.broken second)
  | source (error : Source.SourceError) : Failure.Alike (.source error) (.source error)

/-- The same wrapper, up to the places in the copy that it holds. -/
structure Wrapper.Alike (first second : Wrapper) : Prop where
  name : first.name = second.name
  definition : first.definition.unplaced = second.definition.unplaced

/-- A builder that does not look at places: for the same function and the same options it builds the
same wrapper, or fails for the same reason. -/
def WrapperBuilder.IgnoresPlaces (build : WrapperBuilder) : Prop :=
  ∀ ⦃first second : Function⦄ ⦃options options' : Options⦄, first.unplaced = second.unplaced →
    options.Alike .anywhere options' →
    EndsAlike Failure.Alike Wrapper.Alike (build first options) (build second options')

section
variable {options options' : Options}

theorem externalName_alike (alike : options.Alike .anywhere options') :
    options.externalName = options'.externalName := by
  have names := alike.name
  unfold Options.externalName
  generalize options.name = name at names ⊢
  generalize options'.name = name' at names ⊢
  cases names with
  | none => rfl
  | some same => exact congrArg some same.value

theorem optionArguments_alike (alike : options.Alike .anywhere options') :
    Wrapper.optionArguments options = Wrapper.optionArguments options' := by
  have signatures := alike.textSignature
  unfold Wrapper.optionArguments
  rw [alike.passModule]
  generalize options.textSignature = signature at signatures ⊢
  generalize options'.textSignature = signature' at signatures ⊢
  cases signatures with
  | none => rfl
  | some same =>
      dsimp only
      rw [same.value]

/-- The wrapper holds the function as it is. -/
theorem unplaced_define (function : Function) (code : Source.Phrase) :
    (Wrapper.define function code).definition.unplaced =
      (Wrapper.define function.unplaced code).definition := rfl

/-- The usual builder does not look at places. -/
theorem Wrapper.build_ignoresPlaces (runtime : String) :
    WrapperBuilder.IgnoresPlaces (Wrapper.build runtime) := by
  intro first second options options' same alike
  have name : first.signature.name = second.signature.name :=
    congrArg (fun function => function.signature.name) same
  have positional : first.signature.takesPositional = second.signature.takesPositional :=
    congrArg (fun function => function.signature.takesPositional) same
  have calls : call runtime second.signature.name options =
      call runtime second.signature.name options' := by
    unfold call
    rw [externalName_alike alike, optionArguments_alike alike]
  unfold Wrapper.build
  dsimp only
  rw [name, positional, alike.passModule, calls]
  split
  · exact .error (.broken (Directive.alike_grammar (.same _) trivial))
  · cases Source.Phrase.ofExpression _ with
    | error error => exact .error (.source error)
    | ok code =>
        refine .ok ⟨congrArg nameOf name, ?_⟩
        rw [unplaced_define, unplaced_define, same]

end

/-! ## Statements -/

/-- What a statement becomes, up to places. -/
inductive Block.Alike : Block → Block → Prop where
  | kept {first second : Statement} (same : first.unplaced = second.unplaced) :
      Block.Alike (.kept first) (.kept second)
  | exported {wrapper wrapper' : Wrapper} {function function' : Function}
      (wrappers : wrapper.Alike wrapper') (registration : Statement)
      (same : function.unplaced = function'.unplaced) :
      Block.Alike (.exported wrapper registration function) (.exported wrapper' registration function')

/-- The same blocks, errors and deprecations, up to places. -/
structure Progress.Alike (first second : Progress) : Prop where
  blocks : List.Forall₂ Block.Alike first.blocks second.blocks
  errors : List.Forall₂ (Diagnostic.Alike .anywhere) first.errors second.errors
  deprecations : List.Forall₂ (Deprecation.Alike .anywhere) first.deprecations second.deprecations

theorem Progress.Alike.append {first first' second second' : Progress}
    (alike : first.Alike first') (more : second.Alike second') :
    (first.append second).Alike (first'.append second') :=
  ⟨List.rel_append alike.blocks more.blocks, List.rel_append alike.errors more.errors,
    List.rel_append alike.deprecations more.deprecations⟩

theorem unplaced_toStatement {first second : Function} (same : first.unplaced = second.unplaced) :
    first.toStatement.unplaced = second.toStatement.unplaced :=
  congrArg Function.toStatement same

theorem allUnplaced_eq_map (statements : List Statement) :
    Statement.allUnplaced statements = statements.map Statement.unplaced := by
  induction statements with
  | nil => rfl
  | cons statement rest inductionHypothesis =>
      rw [Statement.allUnplaced, inductionHypothesis, List.map_cons]

/-- The function that a statement is, its places unknown. -/
theorem function?_unplaced (statement : Statement) :
    statement.unplaced.function? = statement.function?.map Function.unplaced := by
  cases statement <;> rfl

section
variable {build : WrapperBuilder}

/-- A registration depends on the names in a path only. -/
theorem registration_of_segments {first second : ModulePath} (same : first.segments = second.segments)
    (wrapper : String) : registration first wrapper = registration second wrapper := by
  obtain ⟨heads, tails⟩ := List.cons.inj same
  unfold registration pathExpression
  rw [heads, tails]

/-- Diagnostics that are alike bring along records that are. -/
theorem recorded_alike {reason reason' : Diagnostic} (alike : reason.Alike .anywhere reason') :
    List.Forall₂ (Deprecation.Alike .anywhere) reason.recorded reason'.recorded := by
  have deprecations := alike.deprecations
  unfold Diagnostic.recorded
  generalize reason.deprecations = recorded at deprecations ⊢
  generalize reason'.deprecations = recorded' at deprecations ⊢
  cases deprecations with
  | none => exact .nil
  | some same => exact same

/-- A diagnostic that names no place is blamed on the function. Either way it is the same one. -/
theorem kept_alike {statement statement' : Statement} {reason reason' : Diagnostic}
    (place place' : Option Span) (same : statement.unplaced = statement'.unplaced)
    (alike : reason.Alike .anywhere reason') :
    Progress.Alike
      ⟨[.kept statement], [{ reason with span := reason.span.or place }], reason.recorded⟩
      ⟨[.kept statement'], [{ reason' with span := reason'.span.or place' }], reason'.recorded⟩ := by
  exact ⟨.cons (.kept same) .nil,
    .cons ⟨alike.family, alike.cause, trivial, alike.deprecations⟩ .nil, recorded_alike alike⟩

/-- A builder that fails, fails in both; the block of a function that is exported holds the wrapper,
and everything else of it is the same. -/
theorem exportedBlock_alike (ignores : build.IgnoresPlaces) {first second : Export}
    (alike : first.Alike second) :
    EndsAlike Failure.Alike Block.Alike (exportedBlock build first) (exportedBlock build second) := by
  unfold exportedBlock
  apply (ignores alike.function alike.descriptor.options).bind
  intro wrapper wrapper' wrappers
  rw [registration_of_segments alike.descriptor.path.segments, wrappers.name]
  exact .ok (.exported wrappers _ alike.function)

/-- What a function becomes, up to places, does not depend on them. -/
theorem expandFunction_alike (ignores : build.IgnoresPlaces) {statement statement' : Statement}
    {first second : Function} (statements : statement.unplaced = statement'.unplaced)
    (same : first.unplaced = second.unplaced) :
    EndsAlike Failure.Alike Progress.Alike (expandFunction build statement first)
      (expandFunction build statement' second) := by
  have read := readExport_alike same
  unfold expandFunction
  generalize readExport first = found at read ⊢
  generalize readExport second = found' at read ⊢
  cases read with
  | error failed => exact .ok (kept_alike _ _ statements failed)
  | ok exports =>
      cases exports with
      | none => exact .ok ⟨.cons (.kept statements) .nil, .nil, .nil⟩
      | @some found found' alike =>
          have blocks := exportedBlock_alike ignores alike
          dsimp only [ofRule, Except.mapError, bind, Except.bind, pure, Except.pure]
          generalize exportedBlock build found = block at blocks ⊢
          generalize exportedBlock build found' = block' at blocks ⊢
          cases blocks with
          | ok same =>
              exact .ok ⟨.cons same .nil, .nil, alike.descriptor.options.deprecations⟩
          | error failed =>
              cases failed with
              | broken reasons => exact .ok (kept_alike _ _ statements reasons)
              | source error => exact .error (.source error)

theorem expandStatement_alike (ignores : build.IgnoresPlaces) {first second : Statement}
    (same : first.unplaced = second.unplaced) :
    EndsAlike Failure.Alike Progress.Alike (expandStatement build first)
      (expandStatement build second) := by
  have functions : first.function?.map Function.unplaced = second.function?.map Function.unplaced := by
    rw [← function?_unplaced, same, function?_unplaced]
  unfold expandStatement
  cases is : first.function? with
  | none =>
      rw [is] at functions
      have is' : second.function? = none := Option.map_eq_none_iff.1 functions.symm
      rw [is']
      exact .ok ⟨.cons (.kept same) .nil, .nil, .nil⟩
  | some function =>
      rw [is] at functions
      obtain ⟨function', is', unplaced⟩ := Option.map_eq_some_iff.1 functions.symm
      rw [is']
      exact expandFunction_alike ignores same unplaced.symm

/-! ## Bodies -/

/-- Statements in a row that differ in their places at most. -/
abbrev SameStatements : List Statement → List Statement → Prop :=
  List.Forall₂ fun first second => first.unplaced = second.unplaced

theorem sameStatements_iff {body body' : List Statement} :
    SameStatements body body' ↔ body.map Statement.unplaced = body'.map Statement.unplaced := by
  rw [← List.forall₂_eq_eq_eq, List.forall₂_map_left_iff, List.forall₂_map_right_iff]

section
variable {body body' : List Statement}

theorem collectStatements_alike (ignores : build.IgnoresPlaces) (same : SameStatements body body') :
    EndsAlike Failure.Alike Progress.Alike (collectStatements build body)
      (collectStatements build body') := by
  induction same with
  | nil => exact .ok ⟨.nil, .nil, .nil⟩
  | cons heads _ inductionHypothesis =>
      unfold collectStatements
      apply (expandStatement_alike ignores heads).bind
      intro first first' alike
      apply inductionHypothesis.bind
      intro others others' more
      exact .ok (alike.append more)

/-- Up to the first error as well: it is the same one, with the same records before it. -/
theorem expandUntilError_alike (ignores : build.IgnoresPlaces) (same : SameStatements body body')
    {recorded recorded' : List Deprecation}
    (records : List.Forall₂ (Deprecation.Alike .anywhere) recorded recorded') :
    EndsAlike Failure.Alike Progress.Alike (expandUntilError build recorded body)
      (expandUntilError build recorded' body') := by
  induction same generalizing recorded recorded' with
  | nil => exact .ok ⟨.nil, .nil, .nil⟩
  | cons heads _ inductionHypothesis =>
      unfold expandUntilError
      apply (expandStatement_alike ignores heads).bind
      intro first first' alike
      have grown := List.rel_append records alike.deprecations
      have errors := alike.errors
      dsimp only
      generalize first.errors = found at errors ⊢
      generalize first'.errors = found' at errors ⊢
      cases errors with
      | cons failed _ =>
          exact .error (.broken ⟨failed.family, failed.cause, trivial, .some grown⟩)
      | nil =>
          apply (inductionHypothesis grown).bind
          intro others others' more
          exact .ok (alike.append more)

end

end

structure ExpandedBody.Alike (first second : ExpandedBody) : Prop where
  function : first.function.unplaced = second.function.unplaced
  progress : first.progress.Alike second.progress

theorem Block.Alike.statements {first second : Block} (alike : first.Alike second) :
    SameStatements first.statements second.statements := by
  cases alike with
  | kept same => exact .cons same .nil
  | exported wrappers registration same =>
      exact .cons (unplaced_toStatement wrappers.definition)
        (.cons rfl (.cons (unplaced_toStatement same) .nil))

theorem flatMap_statements_alike {blocks blocks' : List Block}
    (alike : List.Forall₂ Block.Alike blocks blocks') :
    SameStatements (blocks.flatMap Block.statements) (blocks'.flatMap Block.statements) := by
  induction alike with
  | nil => exact .nil
  | cons same _ inductionHypothesis =>
      rw [List.flatMap_cons, List.flatMap_cons]
      exact List.rel_append same.statements inductionHypothesis

theorem expandBody_alike {build : WrapperBuilder} (ignores : build.IgnoresPlaces)
    {first second : Function} (same : first.unplaced = second.unplaced) (failFast : Bool) :
    EndsAlike Failure.Alike ExpandedBody.Alike (expandBody build failFast first)
      (expandBody build failFast second) := by
  obtain ⟨head, signature, suite⟩ := first
  obtain ⟨head', signature', suite'⟩ := second
  obtain ⟨heads, signatures, suites⟩ := (Function.mk.injEq ..).mp same
  cases suite with
  | inline parts ending =>
      cases suite' with
      | inline parts' ending' => exact .ok ⟨same, .nil, .nil, .nil⟩
      | block => cases suites
  | block header indent body footer =>
      cases suite' with
      | inline => cases suites
      | block header' indent' body' footer' =>
          obtain ⟨rfl, rfl, bodies, rfl⟩ := (Suite.block.injEq ..).mp suites
          have statements : SameStatements body body' := by
            rw [allUnplaced_eq_map, allUnplaced_eq_map] at bodies
            exact sameStatements_iff.2 bodies
          have rebuilt : ∀ left right : Progress, left.Alike right → ExpandedBody.Alike
              ⟨⟨head, signature, .block header indent (left.blocks.flatMap Block.statements) footer⟩,
                left⟩
              ⟨⟨head', signature',
                .block header indent (right.blocks.flatMap Block.statements) footer⟩, right⟩ := by
            intro left right alike
            have expanded := sameStatements_iff.1 (flatMap_statements_alike alike.blocks)
            refine ⟨?_, alike⟩
            unfold Function.unplaced Suite.unplaced
            rw [allUnplaced_eq_map, allUnplaced_eq_map, expanded]
            exact (Function.mk.injEq ..).mpr ⟨heads, signatures, rfl⟩
          cases failFast with
          | true =>
              exact (expandUntilError_alike ignores statements .nil).bind
                fun left right alike => .ok (rebuilt left right alike)
          | false =>
              exact (collectStatements_alike ignores statements).bind
                fun left right alike => .ok (rebuilt left right alike)

/-! ## Code -/

section
variable (style : Style)

theorem render_unplaced_head (margin : String) (head : Head) :
    head.unplaced.render style margin = head.render style margin := by
  unfold Head.unplaced Head.render
  dsimp only
  rw [List.map_map]
  rfl

mutual

/-- Places are not written. -/
theorem render_unplaced (margin : String) : ∀ statement : Statement,
    statement.unplaced.render style margin = statement.render style margin
  | .line _ _ _ => rfl
  | .function head signature body => by
      rw [Statement.unplaced, Statement.render, Statement.render, render_unplaced_head,
        render_unplaced_suite margin body]
      rfl
  | .compound head header body clauses => by
      rw [Statement.unplaced, Statement.render, Statement.render, render_unplaced_head,
        render_unplaced_suite margin body, renderAll_unplaced_clauses margin clauses]

theorem renderAll_unplaced (margin : String) : ∀ statements : List Statement,
    Statement.renderAll style margin (Statement.allUnplaced statements) =
      Statement.renderAll style margin statements
  | [] => rfl
  | statement :: rest => by
      rw [Statement.allUnplaced, Statement.renderAll, Statement.renderAll,
        render_unplaced margin statement, renderAll_unplaced margin rest]

theorem renderAll_unplaced_clauses (margin : String) : ∀ clauses : List Clause,
    Clause.renderAll style margin (Clause.allUnplaced clauses) =
      Clause.renderAll style margin clauses
  | [] => rfl
  | .mk leading header body :: rest => by
      rw [Clause.allUnplaced, Clause.renderAll, Clause.renderAll, Clause.unplaced, Clause.render,
        Clause.render, render_unplaced_suite margin body, renderAll_unplaced_clauses margin rest]

theorem render_unplaced_suite (margin : String) : ∀ suite : Suite,
    suite.unplaced.render style margin = suite.render style margin
  | .inline _ _ => rfl
  | .block header indent body footer => by
      rw [Suite.unplaced, Suite.render, Suite.render, renderAll_unplaced _ body]

end

end

/-! ## Two runs -/

/-- What a diagnostic says, places apart: the family of the rule, and the message. -/
def wording (diagnostic : Diagnostic) : Family × String := (diagnostic.family, diagnostic.message)

theorem wording_alike {first second : Diagnostic} (alike : first.Alike .anywhere second) :
    wording first = wording second := by
  unfold wording Diagnostic.message
  rw [alike.family, alike.cause.eq]

theorem forms_alike {deprecations deprecations' : List Deprecation}
    (alike : List.Forall₂ (Deprecation.Alike .anywhere) deprecations deprecations') :
    deprecations.map Deprecation.form = deprecations'.map Deprecation.form := by
  rw [← List.forall₂_eq_eq_eq, List.forall₂_map_left_iff, List.forall₂_map_right_iff]
  exact alike.imp fun _ _ same => same.form

/-- Two expansions of a body that differ in places at most: the same function and the same code, as
many errors with the same families and messages, and as many deprecations of the same forms. -/
structure SameExpansion (first second : ExpandedBody) : Prop where
  function : first.function.unplaced = second.function.unplaced
  code : ∀ style margin, first.function.toStatement.render style margin =
    second.function.toStatement.render style margin
  errors : first.progress.errors.map wording = second.progress.errors.map wording
  deprecations : first.progress.deprecations.map Deprecation.form =
    second.progress.deprecations.map Deprecation.form

/-- Two failures that differ in places at most: rules of the same family broken, with the same
message and as many records of the same forms before it, or code that cannot be read for the same
reason. -/
inductive SameFailure : Failure → Failure → Prop where
  | broken {first second : Diagnostic} (same : wording first = wording second)
      (records : first.recorded.map Deprecation.form = second.recorded.map Deprecation.form) :
      SameFailure (.broken first) (.broken second)
  | source (error : Source.SourceError) : SameFailure (.source error) (.source error)

/-- **Places never influence the expansion.** With two functions that differ in their places at most
and a builder that does not look at places, both expansions give a body or neither does; the bodies
are the same function, with the same errors and the same deprecations, up to places; and where the
first error ends the expansions it is the same one. -/
theorem expandBody_of_unplaced {build : WrapperBuilder} (ignores : build.IgnoresPlaces)
    {first second : Function} (same : first.unplaced = second.unplaced) (failFast : Bool) :
    EndsAlike SameFailure SameExpansion (expandBody build failFast first)
      (expandBody build failFast second) := by
  have alike := expandBody_alike ignores same failFast
  generalize expandBody build failFast first = left at alike ⊢
  generalize expandBody build failFast second = right at alike ⊢
  cases alike with
  | error failures =>
      apply EndsAlike.error
      cases failures with
      | broken reasons => exact .broken (wording_alike reasons) (forms_alike (recorded_alike reasons))
      | source error => exact .source error
  | @ok left right bodies =>
      refine .ok ⟨bodies.function, ?_, ?_, forms_alike bodies.progress.deprecations⟩
      · intro style margin
        rw [← render_unplaced, unplaced_toStatement bodies.function, render_unplaced]
      · rw [← List.forall₂_eq_eq_eq, List.forall₂_map_left_iff, List.forall₂_map_right_iff]
        exact bodies.progress.errors.imp fun _ _ => wording_alike

/-- An export decorator without arguments, at the given lines. -/
def markOnLine (line : Nat) : Decorator where
  leading := []
  name := some exportMark
  opening := verbatim "@pyfn"
  arguments := []
  closing := []
  ending := .plain
  place := some ⟨⟨line, 4⟩, ⟨line, 9⟩⟩
  argumentPlace := none

/-- The function of a module with a function in its body that is exported twice. -/
def exportedTwice : Function where
  head := ⟨[], [], []⟩
  signature := ⟨"m", true, verbatim "def m(m):", some ⟨⟨1, 0⟩, ⟨4, 16⟩⟩⟩
  body := .block .plain none
    [.function ⟨[], [markOnLine 2, markOnLine 3], []⟩
      ⟨"f", false, verbatim "def f():", some ⟨⟨4, 4⟩, ⟨4, 16⟩⟩⟩ (.inline [] .plain)] []

/-- With and without places the second decorator is refused; only one of the errors names it. -/
theorem exportedTwice_unplaced :
    WrapperBuilder.IgnoresPlaces (Wrapper.build "_pyglue") ∧
      exportedTwice.unplaced = exportedTwice.unplaced.unplaced ∧
      expandBody (Wrapper.build "_pyglue") true exportedTwice =
        .error (.broken ⟨.duplicate, .repeatedExport, some ⟨⟨3, 4⟩, ⟨3, 9⟩⟩, some []⟩) ∧
      expandBody (Wrapper.build "_pyglue") true exportedTwice.unplaced =
        .error (.broken ⟨.duplicate, .repeatedExport, none, some []⟩) ∧
      EndsAlike SameFailure SameExpansion
        (expandBody (Wrapper.build "_pyglue") true exportedTwice)
        (expandBody (Wrapper.build "_pyglue") true exportedTwice.unplaced) := by
  have same : exportedTwice.unplaced = exportedTwice.unplaced.unplaced := rfl
  exact ⟨Wrapper.build_ignoresPlaces _, same, rfl, rfl,
    expandBody_of_unplaced (Wrapper.build_ignoresPlaces _) same true⟩

end Expansion

end ModuleGlue
