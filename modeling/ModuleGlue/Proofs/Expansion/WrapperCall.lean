import ModuleGlue.Expansion.Wrapper
import ModuleGlue.Proofs.Outcome
import ModuleGlue.Proofs.Source.TextReading

/-!
Contract: the call in a wrapper can be read.

Main statement: `build_of_identifiers` (for identifiers, building a wrapper fails only by the rule
that a function which is to receive the module has a parameter for it).

Owns: the text of the call, token by token.

Does not own: what the options are.
-/

namespace ModuleGlue.Expansion

open ModuleGlue.Text
open ModuleGlue.Directive (Options)
open ModuleGlue.Source

/-! ## Keywords -/

/-- A keyword with its value, which is a name, a constant or a literal. -/
inductive Keyword where
  | word (key value : String)
  | literal (key : String) (value : Points)

namespace Keyword

def key : Keyword → String
  | word key _ => key
  | literal key _ => key

def value : Keyword → List Char
  | word _ value => value.toList
  | literal _ value => quote value

/-- The text of the keyword, behind another argument. -/
def text (keyword : Keyword) : List Char :=
  ',' :: ' ' :: (keyword.key.toList ++ '=' :: keyword.value)

def valueSpelling : Keyword → TokenKind × String
  | word _ value => (.name, value)
  | literal _ value => (.string, String.ofList (quote value))

def spelling (keyword : Keyword) : List (TokenKind × String) :=
  [(.operator, ","), (.name, keyword.key), (.operator, "="), keyword.valueSpelling]

/-- The key is a name, and so is the value, unless it is a constant or a literal. -/
structure Wellformed (keyword : Keyword) : Prop where
  key : isIdentifier keyword.key = true
  value : ∀ key value, keyword = word key value →
    spellsIdentifier value.toList = true ∧
      (isIdentifier value = true ∨ value = "None" ∨ value = "True")

end Keyword

/-- A keyword is scanned to its four tokens. -/
theorem scans_keyword {keyword : Keyword} (wellformed : keyword.Wellformed) {rest : List Char}
    {spelled : List (TokenKind × String)} (ends : EndsName rest)
    (others : Scans [] [.bracket ')'] rest spelled) :
    Scans [] [.bracket ')'] (keyword.text ++ rest) (keyword.spelling ++ spelled) := by
  have round : Bracketed [.bracket ')'] := bracketed_nil.opened (Or.inl rfl)
  have scanned : Scans [] [.bracket ')'] (keyword.value ++ rest)
      (keyword.valueSpelling :: spelled) := by
    cases keyword with
    | word key value =>
        exact Scans.name rfl (Or.inl rfl) (wellformed.value key value rfl).1 ends others
    | literal key value =>
        obtain ⟨c, behind, rfl, -, noDouble, noSingle⟩ := ends
        exact Scans.quote value rfl (Or.inl rfl) noDouble noSingle others
  have begins : ∃ c behind, keyword.value ++ rest = c :: behind ∧ c ≠ '=' := by
    cases keyword with
    | word key value =>
        have spells := (wellformed.value key value rfl).1
        unfold Keyword.value
        dsimp only
        cases letters : value.toList with
        | nil =>
            rw [letters] at spells
            cases spells
        | cons c more =>
            rw [letters] at spells
            refine ⟨c, more ++ rest, rfl, ?_⟩
            rintro rfl
            have refused : isIdentifierStart '=' = false := by decide
            simp [spellsIdentifier, refused] at spells
    | literal key value =>
        obtain ⟨delimiter, body, isQuote, -, same⟩ := quote_eq value
        unfold Keyword.value
        dsimp only
        rw [same]
        refine ⟨delimiter, _, rfl, ?_⟩
        rcases isQuote with rfl | rfl <;> decide
  obtain ⟨c, behind, whole, noEquals⟩ := begins
  have equals : Scans [] [.bracket ')'] ('=' :: (keyword.value ++ rest))
      ((.operator, "=") :: keyword.valueSpelling :: spelled) := by
    rw [whole] at scanned ⊢
    exact Scans.equals round (Or.inl rfl) noEquals scanned
  have key : Scans [] [.bracket ')'] ([' '] ++ (keyword.key.toList ++ '=' :: (keyword.value ++ rest)))
      ((.name, keyword.key) :: (.operator, "=") :: keyword.valueSpelling :: spelled) :=
    Scans.name rfl (Or.inr rfl) (spellsIdentifier_of_isIdentifier wellformed.key)
      (endsName_cons (by decide) _) equals
  have comma := Scans.comma round key
  unfold Keyword.text Keyword.spelling
  simpa using comma

theorem scans_keywords {keywords : List Keyword}
    (wellformed : ∀ keyword ∈ keywords, keyword.Wellformed) :
    EndsName (keywords.flatMap Keyword.text ++ [')']) ∧
      Scans [] [.bracket ')'] (keywords.flatMap Keyword.text ++ [')'])
        (keywords.flatMap Keyword.spelling ++ [(.operator, ")")]) := by
  induction keywords with
  | nil => exact ⟨endsName_cons (by decide) [], Scans.closing (Or.inl rfl) .nil⟩
  | cons keyword rest inductionHypothesis =>
      obtain ⟨ends, scans⟩ := inductionHypothesis fun other member =>
        wellformed other (List.mem_cons_of_mem _ member)
      rw [List.flatMap_cons, List.flatMap_cons, List.append_assoc, List.append_assoc]
      exact ⟨endsName_cons (by decide) _,
        scans_keyword (wellformed keyword List.mem_cons_self) ends scans⟩

/-! ## The call -/

section
variable {token : Token}

theorem isOperand_of_spelling {keyword : Keyword} (wellformed : keyword.Wellformed)
    (spelled : token.spelling = keyword.valueSpelling) : IsOperand token := by
  cases keyword with
  | literal key value => exact .literal (Prod.mk.inj spelled).1
  | word key value =>
      obtain ⟨kind, text⟩ := Prod.mk.inj spelled
      rcases (wellformed.value key value rfl).2 with is | constant
      · exact .name (isNameToken_of_spelling is spelled)
      · exact .constant kind (text ▸ constant)

end

theorem arguments_of_spelling {keywords : List Keyword}
    (wellformed : ∀ keyword ∈ keywords, keyword.Wellformed) {tokens : List Token}
    (spelled : tokens.map Token.spelling = keywords.flatMap Keyword.spelling)
    {stage : Inner.ArgumentStage} (noMapping : stage ≠ .mapping) : Arguments stage tokens := by
  induction keywords generalizing tokens stage with
  | nil =>
      rw [List.flatMap_nil, List.map_eq_nil_iff] at spelled
      exact spelled ▸ .nil
  | cons keyword rest inductionHypothesis =>
      rw [List.flatMap_cons] at spelled
      obtain ⟨comma, tokens, rfl, isComma, spelled⟩ := List.map_eq_cons_iff.1 spelled
      obtain ⟨key, tokens, rfl, isKey, spelled⟩ := List.map_eq_cons_iff.1 spelled
      obtain ⟨equals, tokens, rfl, isEquals, spelled⟩ := List.map_eq_cons_iff.1 spelled
      obtain ⟨value, tokens, rfl, isValue, spelled⟩ := List.map_eq_cons_iff.1 spelled
      have here := wellformed keyword List.mem_cons_self
      refine .keyword noMapping (isOperator_of_spelling isComma)
        (isNameToken_of_spelling here.key isKey) (isOperator_of_spelling isEquals)
        (isOperand_of_spelling here isValue) ?_
      exact inductionHypothesis
        (fun other member => wellformed other (List.mem_cons_of_mem _ member)) spelled (by simp)

theorem isPlainSpelling_keywords (keywords : List Keyword) :
    (keywords.flatMap Keyword.spelling).all isPlainSpelling = true := by
  rw [List.all_flatMap]
  refine List.all_eq_true.2 fun keyword _ => ?_
  cases keyword with
  | word key value => rfl
  | literal key value =>
      have quoted := isPlainSpelling_quote value
      unfold Keyword.spelling Keyword.valueSpelling
      simp only [List.all_cons, quoted]
      rfl

/-- The spellings of a call of the runtime, with a name and keywords. -/
def callSpelling (runtime function : String) (keywords : List Keyword) :
    List (TokenKind × String) :=
  (.name, runtime) :: (.operator, ".") :: (.name, "PyCFunction") :: (.operator, "(") ::
    (.name, function) :: (keywords.flatMap Keyword.spelling ++ [(.operator, ")")])

section
variable {runtime function : String} {keywords : List Keyword}
  (isRuntime : isIdentifier runtime = true) (isFunction : isIdentifier function = true)
  (wellformed : ∀ keyword ∈ keywords, keyword.Wellformed)
include isRuntime isFunction wellformed

theorem scans_call :
    Scans [] [] (runtime.toList ++ '.' :: ("PyCFunction".toList ++
      '(' :: (function.toList ++ (keywords.flatMap Keyword.text ++ [')']))))
      (callSpelling runtime function keywords) := by
  obtain ⟨ends, scans⟩ := scans_keywords wellformed
  have first := Scans.name rfl (Or.inl rfl) (spellsIdentifier_of_isIdentifier isFunction) ends scans
  have opened := Scans.opening bracketed_nil (Or.inl ⟨rfl, rfl⟩) first
  exact Scans.member isRuntime (by decide) bracketed_nil (Or.inl rfl) (endsName_cons (by decide) _)
    opened

/-- The call is one expression. -/
theorem reads_call {tokens : List Token}
    (spelled : tokens.map Token.spelling = callSpelling runtime function keywords) :
    ∃ shape, Reads (Inner.starExpressions (.ofDepth (tokens.length + 1))) tokens shape [] := by
  obtain ⟨base, tokens, rfl, isBase, spelled⟩ := List.map_eq_cons_iff.1 spelled
  obtain ⟨point, tokens, rfl, isPoint, spelled⟩ := List.map_eq_cons_iff.1 spelled
  obtain ⟨member, tokens, rfl, isMember, spelled⟩ := List.map_eq_cons_iff.1 spelled
  obtain ⟨opening, tokens, rfl, isOpening, spelled⟩ := List.map_eq_cons_iff.1 spelled
  obtain ⟨argument, tokens, rfl, isArgument, spelled⟩ := List.map_eq_cons_iff.1 spelled
  obtain ⟨arguments, last, rfl, areArguments, spelled⟩ := List.map_eq_append_iff.1 spelled
  obtain ⟨closing, none, rfl, isClosing, empty⟩ := List.map_eq_cons_iff.1 spelled
  obtain rfl := List.map_eq_nil_iff.1 empty
  have base' := isNameToken_of_spelling isRuntime isBase
  have closing' := isOperator_of_spelling isClosing
  obtain ⟨depth, count⟩ : ∃ depth, (base :: point :: member :: opening :: argument ::
      (arguments ++ [closing])).length + 1 = depth + 2 := ⟨_, rfl⟩
  rw [count]
  have read : ∃ places, Reads (Inner.arguments (.ofDepth (depth + 1)) true)
      (argument :: (arguments ++ [closing])) places [closing] :=
    reads_arguments_of_operand (readsOperands_ofDepth depth)
      (.name (isNameToken_of_spelling isFunction isArgument))
      (arguments_of_spelling wellformed areArguments (by simp)) closing' []
  obtain ⟨shape, call⟩ := reads_memberCall base' (isOperator_of_spelling isPoint)
    (isNameToken_of_spelling (by decide) isMember) (isOperator_of_spelling isOpening) closing' read
    stops_nil.endsOperand
  have begins := (IsOperand.name base').begins
  have expression := reads_expressionOf begins stops_nil call
  exact ⟨shape, reads_starExpressions_ofDepth begins.noOperator
    (reads_looksAt_nil _) expression⟩

/-- **A call with a name and keywords can be read.** -/
theorem exists_ofExpression_eq {text : String}
    (written : text.toList = runtime.toList ++ '.' :: ("PyCFunction".toList ++
      '(' :: (function.toList ++ (keywords.flatMap Keyword.text ++ [')'])))) :
    ∃ phrase, Phrase.ofExpression text = .ok phrase ∧
      phrase.map Lexeme.text = (callSpelling runtime function keywords).map Prod.snd := by
  obtain ⟨c, more, letters, starts⟩ := begins_of_isIdentifier isRuntime
  have scans := scans_call isRuntime isFunction wellformed
  rw [letters] at written scans
  refine ofExpression_of_reads written (isCode_of_starts starts) scans ?_
    fun tokens spelled => reads_call isRuntime isFunction wellformed spelled
  unfold callSpelling
  simp only [List.all_cons, List.all_append, isPlainSpelling_keywords, isPlainSpelling,
    List.all_nil, Bool.and_self]

end

/-! ## Wrappers -/

def callKeywords (function : String) (options : Options) : List Keyword :=
  [.literal "name" (Points.ofString (options.externalName.getD function)),
    .word "module" Wrapper.parameter] ++
  (match options.textSignature with
    | none => []
    | some signature => match signature.value with
      | none => [.word "text_signature" "None"]
      | some text => [.literal "text_signature" text]) ++
  if options.passModule then [.word "pass_module" "True"] else []

theorem callKeywords_wellformed (function : String) (options : Options) :
    ∀ keyword ∈ callKeywords function options, keyword.Wellformed := by
  have literal : ∀ key value, isIdentifier key = true → (Keyword.literal key value).Wellformed :=
    fun key value is => ⟨is, fun _ _ same => nomatch same⟩
  have word : ∀ key value, isIdentifier key = true → spellsIdentifier value.toList = true →
      (isIdentifier value = true ∨ value = "None" ∨ value = "True") →
      (Keyword.word key value).Wellformed := by
    intro key value is spells operand
    refine ⟨is, fun key' value' same => ?_⟩
    obtain ⟨rfl, rfl⟩ := Keyword.word.inj same
    exact ⟨spells, operand⟩
  intro keyword member
  unfold callKeywords at member
  rcases List.mem_append.1 member with member | flag
  · rcases List.mem_append.1 member with fixed | signature
    · rcases List.mem_cons.1 fixed with rfl | fixed
      · exact literal _ _ (by decide)
      · obtain rfl := List.mem_singleton.1 fixed
        exact word _ _ (by decide) (by decide) (Or.inl (by decide))
    · split at signature
      · cases signature
      · split at signature
        · obtain rfl := List.mem_singleton.1 signature
          exact word _ _ (by decide) (by decide) (Or.inr (Or.inl rfl))
        · obtain rfl := List.mem_singleton.1 signature
          exact literal _ _ (by decide)
  · split at flag
    · obtain rfl := List.mem_singleton.1 flag
      exact word _ _ (by decide) (by decide) (Or.inr (Or.inr rfl))
    · cases flag

theorem fragments_append (first second : List Fragment) :
    Fragment.renderAll (first ++ second) =
      Fragment.renderAll first ++ Fragment.renderAll second := by
  induction first with
  | nil => rw [List.nil_append, Fragment.renderAll, String.empty_append]
  | cons fragment rest inductionHypothesis =>
      rw [List.cons_append, Fragment.renderAll, Fragment.renderAll, inductionHypothesis,
        String.append_assoc]

/-- The options follow the keywords that are always there. -/
theorem optionArguments_toList (options : Options) :
    (Fragment.renderAll (Wrapper.optionArguments options)).toList =
      ((match options.textSignature with
        | none => []
        | some signature => match signature.value with
          | none => [Keyword.word "text_signature" "None"]
          | some text => [.literal "text_signature" text]) ++
        if options.passModule then [.word "pass_module" "True"] else []).flatMap Keyword.text := by
  have signed : ", text_signature=".toList = ',' :: ' ' :: ("text_signature".toList ++ ['=']) := by
    decide
  have passed : ", pass_module=True".toList =
      ',' :: ' ' :: ("pass_module".toList ++ '=' :: "True".toList) := by decide
  have flag : (Fragment.renderAll
      (if options.passModule then [.fixed ", pass_module=True"] else [])).toList =
      (if options.passModule then [Keyword.word "pass_module" "True"] else []).flatMap
        Keyword.text := by
    cases options.passModule with
    | false => rfl
    | true =>
        simp only [if_true, Fragment.renderAll, Fragment.render, String.append_empty, passed,
          List.flatMap_singleton]
        rfl
  unfold Wrapper.optionArguments
  rw [fragments_append, String.toList_append, List.flatMap_append, flag]
  congr 1
  cases options.textSignature with
  | none => rfl
  | some signature =>
      dsimp only
      cases signature.value with
      | none =>
          simp only [Fragment.renderAll, Fragment.render, String.append_empty,
            String.toList_append, signed, List.flatMap_singleton]
          rfl
      | some text =>
          simp only [Fragment.renderAll, Fragment.render, String.append_empty,
            String.toList_append, signed, List.flatMap_singleton]
          simp [Keyword.text, Keyword.key, Keyword.value]

/-- The text of the call. -/
theorem call_toList (runtime function : String) (options : Options) :
    (Fragment.renderAll (Wrapper.call runtime function options)).toList =
      runtime.toList ++ '.' :: ("PyCFunction".toList ++ '(' :: (function.toList ++
        ((callKeywords function options).flatMap Keyword.text ++ [')']))) := by
  have member : ".PyCFunction(".toList = '.' :: ("PyCFunction".toList ++ ['(']) := by decide
  have module : ", module=".toList = ',' :: ' ' :: ("module".toList ++ ['=']) := by decide
  have closing : ")".toList = [')'] := by decide
  have external : Keyword.text (.literal "name"
      (Points.ofString (options.externalName.getD function))) =
      ", name=".toList ++ (quoteString (options.externalName.getD function)).toList := by
    simp [Keyword.text, Keyword.key, Keyword.value, quoteString]
  have parameter : Keyword.text (.word "module" Wrapper.parameter) =
      ", module=".toList ++ Wrapper.parameter.toList := by
    rw [module]
    rfl
  unfold Wrapper.call callKeywords
  rw [fragments_append, fragments_append, String.toList_append, String.toList_append,
    optionArguments_toList]
  simp only [Fragment.renderAll, Fragment.render, String.append_empty, String.toList_append,
    List.flatMap_append, List.flatMap_cons, external, parameter, member, closing,
    List.append_assoc, List.cons_append, List.nil_append]

/-- A wrapper is built with a call of these tokens, unless a function that is to receive the module
has no parameter for it. -/
theorem build_of_spelling {runtime : String} {function : Function} (options : Options)
    (isRuntime : isIdentifier runtime = true)
    (isFunction : isIdentifier function.signature.name = true) :
    if options.passModule && !function.signature.takesPositional then
      Wrapper.build runtime function options =
        .error (.broken (.grammar (.noModuleParameter function.signature.name) none))
    else ∃ code, Wrapper.build runtime function options = .ok (Wrapper.define function code) ∧
      code.map Lexeme.text = (callSpelling runtime function.signature.name
        (callKeywords function.signature.name options)).map Prod.snd := by
  obtain ⟨code, read, texts⟩ := exists_ofExpression_eq isRuntime isFunction
    (callKeywords_wellformed function.signature.name options)
    (call_toList runtime function.signature.name options)
  unfold Wrapper.build
  dsimp only
  split
  · rfl
  · rw [read]
    exact ⟨code, rfl, texts⟩

/-- **Building a wrapper fails by one rule only**: a function that is to receive the module needs a
parameter for it. -/
theorem build_of_identifiers {runtime : String} {function : Function} (options : Options)
    (isRuntime : isIdentifier runtime = true)
    (isFunction : isIdentifier function.signature.name = true) :
    (∃ wrapper, Wrapper.build runtime function options = .ok wrapper) ∨
      Wrapper.build runtime function options =
        .error (.broken (.grammar (.noModuleParameter function.signature.name) none)) := by
  have built := build_of_spelling options isRuntime isFunction
  split at built
  · exact Or.inr built
  · obtain ⟨code, built, -⟩ := built
    exact Or.inl ⟨_, built⟩

end ModuleGlue.Expansion
