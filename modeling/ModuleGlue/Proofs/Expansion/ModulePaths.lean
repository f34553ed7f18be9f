import ModuleGlue.Expansion.Registration
import ModuleGlue.Proofs.Directive.WrittenPaths
import ModuleGlue.Proofs.Source.MemberChains

/-!
Contract: module paths as texts, as segments, and as expressions.

The segments of a path are found in the text it is read from; the expression for it has the same
segments, and is rendered as the dotted text, from which they are read again. Nothing of the layout
around the dots is left.

Main statement: `module_paths_agree`.

Owns: the forms of a path, and the statement in which it is written twice.

Does not own: what a text accepts besides its path.
-/

namespace ModuleGlue.Expansion

open ModuleGlue.Text
open ModuleGlue.Directive (BeginsWithPath ExportDescriptor ModulePath ReadsAs readsAs_dotted
  segments_iff_of_parse)
open ModuleGlue.Source

/-! ## Expressions -/

namespace PathExpression

theorem ofSegments_append (head : String) (tail : List String) (last : String) :
    ofSegments head (tail ++ [last]) = .member (ofSegments head tail) last := by
  unfold ofSegments
  rw [List.foldl_append]
  rfl

@[simp] theorem segments_ofSegments (head : String) (tail : List String) :
    (ofSegments head tail).segments = head :: tail := by
  induction tail using List.reverseRecOn with
  | nil => rfl
  | append_singleton tail last inductionHypothesis =>
      rw [ofSegments_append, segments, inductionHypothesis]
      rfl

/-- Every expression is built from its segments. -/
theorem exists_ofSegments (expression : PathExpression) :
    ∃ head tail, expression = ofSegments head tail := by
  induction expression with
  | name text => exact ⟨text, [], rfl⟩
  | member base text inductionHypothesis =>
      obtain ⟨head, tail, rfl⟩ := inductionHypothesis
      exact ⟨head, tail ++ [text], (ofSegments_append head tail text).symm⟩

/-- **There is one expression for the segments of a path.** -/
theorem segments_eq_iff {expression : PathExpression} {head : String} {tail : List String} :
    expression.segments = head :: tail ↔ expression = ofSegments head tail := by
  constructor
  · intro same
    obtain ⟨head', tail', rfl⟩ := expression.exists_ofSegments
    rw [segments_ofSegments] at same
    obtain ⟨rfl, rfl⟩ := List.cons.inj same
    rfl
  · rintro rfl
    exact segments_ofSegments head tail

/-- The code is the segments with points between them, although they are nested the other way. -/
theorem render_ofSegments (head : String) (tail : List String) :
    (ofSegments head tail).render = String.intercalate "." (head :: tail) := by
  induction tail using List.reverseRecOn with
  | nil => exact String.intercalate_singleton.symm
  | append_singleton tail last inductionHypothesis =>
      rw [ofSegments_append, render, inductionHypothesis, ← List.cons_append,
        String.intercalate_append_of_ne_nil (List.cons_ne_nil _ _) (List.cons_ne_nil _ _),
        String.intercalate_singleton]

end PathExpression

theorem render_pathExpression (path : ModulePath) : (pathExpression path).render = path.dotted :=
  PathExpression.render_ofSegments path.head path.tail

/-! ## Registrations -/

/-- The code of a registration, with the path as it is written without layout. -/
def registrationText (path wrapper : String) : String :=
  path ++ ".add_function(" ++ wrapper ++ "(" ++ path ++ "))"

theorem registration_eq (path : ModulePath) (wrapper : String) :
    registration path wrapper = simpleLine (registrationText path.dotted wrapper) := by
  unfold registration
  dsimp only
  rw [render_pathExpression]
  rfl

/-- The spellings of the tokens of a registration. -/
def registrationSpelling (head : String) (tail : List String) (wrapper : String) :
    List (TokenKind × String) :=
  pathSpelling head (tail ++ ["add_function"]) ++ (.operator, "(") :: (.name, wrapper) ::
    (.operator, "(") :: (pathSpelling head tail ++ [(.operator, ")"), (.operator, ")")])

/-- The names in front of the call are identifiers as well. -/
theorem identifiers_addFunction {head : String} {tail : List String}
    (identifiers : ∀ name ∈ head :: tail, isIdentifier name = true) :
    ∀ name ∈ head :: (tail ++ ["add_function"]), isIdentifier name = true := by
  intro name member
  rw [← List.cons_append, List.mem_append, List.mem_singleton] at member
  rcases member with segment | rfl
  · exact identifiers name segment
  · decide

section
variable {head wrapper : String} {tail : List String}
  (identifiers : ∀ name ∈ head :: tail, isIdentifier name = true)
  (isWrapper : isIdentifier wrapper = true)
include identifiers isWrapper

theorem scans_registration :
    Scans [] [] (head.toList ++ (memberText (tail ++ ["add_function"]) ++
      '(' :: (wrapper.toList ++ '(' :: (head.toList ++ (memberText tail ++ [')', ')'])))))
      (registrationSpelling head tail wrapper) := by
  have round : Bracketed [.bracket ')'] := bracketed_nil.opened (Or.inl rfl)
  have closed : Scans [] [.bracket ')', .bracket ')'] [')', ')'] [(.operator, ")"), (.operator, ")")] :=
    Scans.closing (Or.inl rfl) (Scans.closing (Or.inl rfl) .nil)
  have argument := scans_path identifiers (round.opened (Or.inl rfl))
    (endsName_cons (by decide) _) closed
  have wrapped := Scans.name round.expression (Or.inl rfl) (spellsIdentifier_of_isIdentifier isWrapper)
    (endsName_cons (by decide) _) (Scans.opening round (Or.inl ⟨rfl, rfl⟩) argument)
  exact scans_path (identifiers_addFunction identifiers) bracketed_nil (endsName_cons (by decide) _)
    (Scans.opening bracketed_nil (Or.inl ⟨rfl, rfl⟩) wrapped)

/-- The code of a registration is one expression: a call with one argument, which is a call with the
path. -/
theorem reads_registration {tokens : List Source.Token}
    (spelled : tokens.map Token.spelling = registrationSpelling head tail wrapper) :
    ∃ shape, Reads (Inner.starExpressions (.ofDepth (tokens.length + 1))) tokens shape [] := by
  have outer : ∀ member ∈ tail ++ ["add_function"], isIdentifier member = true := fun member later =>
    identifiers_addFunction identifiers member (List.mem_cons_of_mem _ later)
  have segments : ∀ member ∈ tail, isIdentifier member = true := fun member later =>
    identifiers member (List.mem_cons_of_mem _ later)
  have isHead := identifiers head List.mem_cons_self
  -- The tokens, one after the other.
  obtain ⟨base, tokens, rfl, isBase, spelled⟩ := List.map_eq_cons_iff.1 spelled
  obtain ⟨members, tokens, rfl, areMembers, spelled⟩ := List.map_eq_append_iff.1 spelled
  obtain ⟨opening, tokens, rfl, isOpening, spelled⟩ := List.map_eq_cons_iff.1 spelled
  obtain ⟨name, tokens, rfl, isName, spelled⟩ := List.map_eq_cons_iff.1 spelled
  obtain ⟨opening', tokens, rfl, isOpening', spelled⟩ := List.map_eq_cons_iff.1 spelled
  obtain ⟨base', tokens, rfl, isBase', spelled⟩ := List.map_eq_cons_iff.1 spelled
  obtain ⟨members', tokens, rfl, areMembers', spelled⟩ := List.map_eq_append_iff.1 spelled
  obtain ⟨closing', tokens, rfl, isClosing', spelled⟩ := List.map_eq_cons_iff.1 spelled
  obtain ⟨closing, tokens, rfl, isClosing, empty⟩ := List.map_eq_cons_iff.1 spelled
  obtain rfl := List.map_eq_nil_iff.1 empty
  have isBase := isNameToken_of_spelling isHead isBase
  have isBase' := isNameToken_of_spelling isHead isBase'
  have isName := isNameToken_of_spelling isWrapper isName
  have isOpening := isOperator_of_spelling isOpening
  have isOpening' := isOperator_of_spelling isOpening'
  have isClosing := isOperator_of_spelling isClosing
  have isClosing' := isOperator_of_spelling isClosing'
  obtain ⟨depth, count⟩ : ∃ depth, (base :: (members ++ opening :: name :: opening' :: base' ::
      (members' ++ [closing', closing]))).length + 1 = depth + 3 := by
    refine ⟨members.length + members'.length + 5, ?_⟩
    simp only [List.length_cons, List.length_append, List.length_nil]
    omega
  rw [count]
  -- The path is the argument of the inner call, and this call the argument of the outer one.
  have path : ∃ places, Reads (Inner.arguments (.ofDepth (depth + 1)) true)
      (base' :: (members' ++ closing' :: [closing])) places (closing' :: [closing]) :=
    reads_pathArgument isBase' (members_of_spelling segments areMembers') isClosing'
  have wrapped : ∃ shape, Reads (Inner.expression (.ofDepth (depth + 2)))
      (name :: opening' :: base' :: (members' ++ closing' :: [closing])) shape [closing] :=
    reads_pathCall isName .nil isOpening' isClosing' path
      (stops_of_isOperator [] isClosing (by decide))
  have argument := reads_singleArgument (readsOperands_ofDepth (depth + 1)) isName
    (isOperator_ne isOpening' (by decide)) (isOperator_ne isOpening' (by decide)) isClosing wrapped
  obtain ⟨shape, call⟩ := reads_pathCall isBase (members_of_spelling outer areMembers) isOpening
    isClosing argument stops_nil
  exact ⟨shape, reads_starExpressions_ofDepth (IsOperand.name isBase).begins.noOperator
    (reads_looksAt_nil _) call⟩

/-- **The code of a registration can be read**, and keeps both paths. -/
theorem exists_ofExpression_registration :
    ∃ phrase, Phrase.ofExpression
        (registrationText (String.intercalate "." (head :: tail)) wrapper) = .ok phrase ∧
      phrase.map Lexeme.text = (head :: (tail ++ ["add_function"])).intersperse "." ++
        ["(", wrapper, "("] ++ (head :: tail).intersperse "." ++ [")", ")"] := by
  have isHead := identifiers head List.mem_cons_self
  obtain ⟨c, more, letters, starts⟩ := begins_of_isIdentifier isHead
  have scans := scans_registration identifiers isWrapper
  have written : (registrationText (String.intercalate "." (head :: tail)) wrapper).toList =
      head.toList ++ (memberText (tail ++ ["add_function"]) ++
        '(' :: (wrapper.toList ++ '(' :: (head.toList ++ (memberText tail ++ [')', ')'])))) := by
    have called : ".add_function(".toList = memberText ["add_function"] ++ ['('] := by decide
    have opened : "(".toList = ['('] := by decide
    have closed : "))".toList = [')', ')'] := by decide
    have members : memberText (tail ++ ["add_function"]) =
        memberText tail ++ memberText ["add_function"] := List.flatMap_append
    unfold registrationText
    simp only [String.toList_append, toList_intercalate_path, called, opened, closed, members,
      List.append_assoc, List.cons_append, List.nil_append]
  rw [letters, List.cons_append] at written scans
  obtain ⟨phrase, read, texts⟩ := ofExpression_of_reads written (isCode_of_starts starts) scans
    (by
      unfold registrationSpelling
      simp only [List.all_append, List.all_cons, List.all_nil, isPlainSpelling_path,
        isPlainSpelling, Bool.and_self])
    fun tokens spelled => reads_registration identifiers isWrapper spelled
  refine ⟨phrase, read, ?_⟩
  rw [texts]
  unfold registrationSpelling
  simp only [List.map_append, List.map_cons, List.map_nil, pathSpelling_texts, List.append_assoc,
    List.cons_append, List.nil_append]

end

/-- **A path stays the same in all its forms.** The segments that are read are those of the path that
the text begins with, whatever layout there is around its dots. Their dotted text is read as the same
segments again, with no option and no legacy form, wherever it stands. There is one expression for
them, which is rendered as the dotted text; and the registration is the code with this text in both
places, which can be read, and keeps the segments in both of them. -/
theorem module_paths_agree {text : String} {origin : Option Span} {descriptor : ExportDescriptor}
    (parsed : ExportDescriptor.parse text origin = .ok descriptor) :
    (∀ names, BeginsWithPath names text.toList ↔ names = descriptor.path.segments) ∧
    ReadsAs descriptor.path.dotted descriptor.path.segments ∧
    (∀ expression : PathExpression, expression.segments = descriptor.path.segments ↔
      expression = pathExpression descriptor.path) ∧
    (pathExpression descriptor.path).render = descriptor.path.dotted ∧
    ReadsAs (pathExpression descriptor.path).render descriptor.path.segments ∧
    ∀ wrapper, registration descriptor.path wrapper =
        simpleLine (registrationText descriptor.path.dotted wrapper) ∧
      (isIdentifier wrapper = true →
        ∃ phrase, Phrase.ofExpression (registrationText descriptor.path.dotted wrapper) =
            .ok phrase ∧
          phrase.map Lexeme.text = (descriptor.path.segments ++ ["add_function"]).intersperse "." ++
            ["(", wrapper, "("] ++ descriptor.path.segments.intersperse "." ++ [")", ")"]) := by
  have readsAs := readsAs_dotted parsed
  have rendered := render_pathExpression descriptor.path
  refine ⟨fun names => segments_iff_of_parse parsed, readsAs,
    fun expression => PathExpression.segments_eq_iff, rendered, rendered ▸ readsAs, fun wrapper =>
      ⟨registration_eq descriptor.path wrapper, fun isWrapper => ?_⟩⟩
  obtain ⟨path, -, -, -, written, -, -⟩ := (segments_iff_of_parse parsed).2 rfl
  exact exists_ofExpression_registration (fun name member => (written.names.2 name member).1)
    isWrapper

/-- A path with layout around its dots, and an option behind it. -/
def laidOutPath : String := "pkg . # the package\n sub\\\n.mod , name = \"f\""

theorem module_paths_agree_laidOut :
    ∃ descriptor, ExportDescriptor.parse laidOutPath none = .ok descriptor ∧
      BeginsWithPath ["pkg", "sub", "mod"] laidOutPath.toList ∧
      ReadsAs "pkg.sub.mod" ["pkg", "sub", "mod"] ∧
      (pathExpression descriptor.path).render = "pkg.sub.mod" ∧
      registration descriptor.path "wrap" =
        simpleLine "pkg.sub.mod.add_function(wrap(pkg.sub.mod))" ∧
      ∃ phrase, Phrase.ofExpression "pkg.sub.mod.add_function(wrap(pkg.sub.mod))" = .ok phrase ∧
        phrase.map Lexeme.text = ["pkg", ".", "sub", ".", "mod", ".", "add_function", "(", "wrap",
          "(", "pkg", ".", "sub", ".", "mod", ")", ")"] := by
  have evaluated : succeedsWith (ExportDescriptor.parse laidOutPath none) (fun descriptor =>
      descriptor.path.segments == ["pkg", "sub", "mod"]) = true := by decide +kernel
  obtain ⟨descriptor, parsed, same⟩ := exists_of_succeedsWith evaluated
  have segments : descriptor.path.segments = ["pkg", "sub", "mod"] := beq_iff_eq.1 same
  have dotted : descriptor.path.dotted = "pkg.sub.mod" := by
    unfold ModulePath.dotted
    rw [segments]
    decide
  obtain ⟨begins, readsAs, -, rendered, -, registered⟩ := module_paths_agree parsed
  obtain ⟨code, read⟩ := registered "wrap"
  rw [dotted, segments] at readsAs
  rw [dotted] at rendered code
  rw [dotted, segments] at read
  have whole : registrationText "pkg.sub.mod" "wrap" =
      "pkg.sub.mod.add_function(wrap(pkg.sub.mod))" := by decide
  rw [whole] at code read
  exact ⟨descriptor, parsed, (begins _).2 segments.symm, readsAs, rendered, code, read (by decide)⟩

end ModuleGlue.Expansion
