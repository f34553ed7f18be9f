import ModuleGlue.Proofs.Directive.QuotedTexts
import ModuleGlue.Proofs.Expansion.EntryPointReading
import ModuleGlue.Proofs.Expansion.WrapperCall

/-!
Contract: texts come through the generation of code as they are.

A text is written as a literal, and what reads the literal gets the text back: the lexer of
annotation arguments, and whoever evaluates the calls in wrappers and the assignments in entry
points.

Main statement: `generated_texts`.

Owns: calls as lists of arguments, and the values that their tokens have.

Does not own: how literals are written and read, and how generated code is read.
-/

namespace ModuleGlue.Expansion

open ModuleGlue.Text
open ModuleGlue.Directive (Cursor Options TextSignature textSignatureKey tokenize)
open ModuleGlue.Source

/-! ## Calls -/

/-- What a token of generated code stands for: a name or a constant, or a text. -/
inductive Operand where
  | word (word : String)
  | text (points : Points)

inductive Operand.IsToken : Operand → String → Prop
  | word {token : String} (spells : spellsIdentifier token.toList = true) :
      IsToken (.word token) token
  | text {token : String} {points : Points} (value : literalValue? token.toList = some points) :
      IsToken (.text points) token

inductive CallArgument where
  | position (operand : Operand)
  | keyword (key : String) (operand : Operand)

/-- The tokens are those of the argument. -/
inductive CallArgument.IsWritten : CallArgument → List String → Prop
  | position {operand : Operand} {token : String} (is : operand.IsToken token) :
      IsWritten (.position operand) [token]
  | keyword {key token : String} {operand : Operand} (is : operand.IsToken token) :
      IsWritten (.keyword key operand) [key, "=", token]

/-- The tokens are those of the arguments, with commas between them. -/
inductive AreWritten : List CallArgument → List String → Prop
  | last {argument : CallArgument} {tokens : List String} (written : argument.IsWritten tokens) :
      AreWritten [argument] tokens
  | cons {argument : CallArgument} {arguments : List CallArgument} {tokens others : List String}
      (written : argument.IsWritten tokens) (areWritten : AreWritten arguments others) :
      AreWritten (argument :: arguments) (tokens ++ "," :: others)

/-- The tokens are those of a call of the runtime with the given arguments. -/
def IsCallOf (runtime : String) (arguments : List CallArgument) (tokens : List String) : Prop :=
  ∃ written, AreWritten arguments written ∧
    tokens = runtime :: "." :: "PyCFunction" :: "(" :: (written ++ [")"])

/-- The value of a text signature; it may be that there is to be none. -/
def signatureOperand (signature : TextSignature) : Operand :=
  match signature.value with
  | none => .word "None"
  | some points => .text points

/-- The arguments that the call in a wrapper is to have. -/
def callArguments (function : String) (options : Options) : List CallArgument :=
  [.position (.word function),
    .keyword "name" (.text (.ofString (options.externalName.getD function))),
    .keyword "module" (.word Wrapper.parameter)] ++
  (options.textSignature.toList.map fun signature =>
    .keyword "text_signature" (signatureOperand signature)) ++
  if options.passModule then [.keyword "pass_module" (.word "True")] else []

/-- What a wrapper gives back: a call, behind a copy of the function. -/
def Wrapper.Returns (wrapper : Wrapper) (function : Function) (runtime : String)
    (arguments : List CallArgument) : Prop :=
  ∃ code, wrapper.definition.body = .block .plain none
      [(function.withLeading []).toStatement,
        .line [] [⟨.other, verbatim "return " ++ code, []⟩] .plain] [] ∧
    IsCallOf runtime arguments (code.map Lexeme.text)

/-- No text is written as the constant. -/
theorem not_isToken_none (points : Points) : ¬ (Operand.text points).IsToken "None" := by
  intro is
  cases is with
  | text value =>
      have none : literalValue? "None".toList = none := by decide
      rw [none] at value
      cases value

namespace Keyword

def operand : Keyword → Operand
  | word _ value => .word value
  | literal _ value => .text value

def argument (keyword : Keyword) : CallArgument := .keyword keyword.key keyword.operand

theorem isWritten {keyword : Keyword} (wellformed : keyword.Wellformed) :
    keyword.argument.IsWritten [keyword.key, "=", keyword.valueSpelling.2] := by
  cases keyword with
  | word key value => exact .keyword (.word (wellformed.value key value rfl).1)
  | literal key value =>
      refine .keyword (.text ?_)
      show literalValue? (String.ofList (quote value)).toList = some value
      rw [String.toList_ofList, literalValue?_quote]

end Keyword

/-- Keywords behind another argument. -/
theorem areWritten_keywords {keywords : List Keyword}
    (wellformed : ∀ keyword ∈ keywords, keyword.Wellformed) {argument : CallArgument}
    {tokens : List String} (written : argument.IsWritten tokens) :
    AreWritten (argument :: keywords.map Keyword.argument)
      (tokens ++ (keywords.flatMap Keyword.spelling).map Prod.snd) := by
  induction keywords generalizing argument tokens with
  | nil =>
      simp only [List.flatMap_nil, List.map_nil, List.append_nil]
      exact .last written
  | cons keyword rest inductionHypothesis =>
      have others := inductionHypothesis
        (fun other member => wellformed other (List.mem_cons_of_mem _ member))
        (Keyword.isWritten (wellformed keyword List.mem_cons_self))
      rw [List.flatMap_cons, List.map_append]
      exact .cons written others

/-- The keywords of the call are the arguments behind the function. -/
theorem callArguments_eq (function : String) (options : Options) :
    callArguments function options =
      .position (.word function) :: (callKeywords function options).map Keyword.argument := by
  have flag : (if options.passModule then
      [CallArgument.keyword "pass_module" (.word "True")] else []) =
      (if options.passModule then [Keyword.word "pass_module" "True"] else []).map
        Keyword.argument := by
    cases options.passModule <;> rfl
  unfold callArguments callKeywords
  rw [flag, List.map_append, List.map_append]
  cases options.textSignature with
  | none => rfl
  | some signature =>
      obtain ⟨value, span⟩ := signature
      cases value <;> rfl

/-- With a call of these tokens, a wrapper gives back the call that it is to give back. -/
theorem define_returns {runtime : String} {function : Function} {options : Options} {code : Phrase}
    (isFunction : isIdentifier function.signature.name = true)
    (texts : code.map Lexeme.text = (callSpelling runtime function.signature.name
      (callKeywords function.signature.name options)).map Prod.snd) :
    (Wrapper.define function code).Returns function runtime
      (callArguments function.signature.name options) := by
  have first : (CallArgument.position (.word function.signature.name)).IsWritten
      [function.signature.name] := .position (.word (spellsIdentifier_of_isIdentifier isFunction))
  have written := areWritten_keywords
    (callKeywords_wellformed function.signature.name options) first
  rw [← callArguments_eq] at written
  refine ⟨code, rfl, _, written, ?_⟩
  rw [texts]
  unfold callSpelling
  simp only [List.map_cons, List.map_append, List.map_nil, List.cons_append, List.nil_append]

/-- **The call in a wrapper** has the arguments it is to have. There is a wrapper unless a function
that is to receive the module has no parameter for it. -/
theorem build_returns {runtime : String} {function : Function} (options : Options)
    (isRuntime : isIdentifier runtime = true)
    (isFunction : isIdentifier function.signature.name = true) :
    if options.passModule && !function.signature.takesPositional then
      Wrapper.build runtime function options =
        .error (.broken (.grammar (.noModuleParameter function.signature.name) none))
    else ∃ wrapper, Wrapper.build runtime function options = .ok wrapper ∧
      wrapper.Returns function runtime (callArguments function.signature.name options) := by
  have built := build_of_spelling options isRuntime isFunction
  split
  · rename_i broken
    rw [if_pos broken] at built
    exact built
  · rename_i kept
    rw [if_neg kept] at built
    obtain ⟨code, built, texts⟩ := built
    exact ⟨_, built, define_returns isFunction texts⟩

/-! ## Entry points -/

namespace EntryPoint

/-- The two literals denote the name, with the null character behind it, and the documentation. -/
structure Denote (entryPoint : EntryPoint) (nameText documentationText : String) : Prop where
  name : literalValue? nameText.toList = some (terminated (.ofString entryPoint.name))
  documentation : literalValue? documentationText.toList = some entryPoint.documentation

theorem denote (entryPoint : EntryPoint) :
    entryPoint.Denote (String.ofList (quote entryPoint.nameValue))
      (String.ofList (quote entryPoint.documentation)) := by
  constructor
  · rw [String.toList_ofList, literalValue?_quote]
    rfl
  · rw [String.toList_ofList, literalValue?_quote]

/-- The two statements that hold the literals, as they stand in an expansion. -/
def AssignsIn (entryPoint : EntryPoint) (body : Suite) : Prop :=
  ∃ nameText documentationText, entryPoint.Denote nameText documentationText ∧
    ∃ front others, body = .block .plain none
      (front :: simpleLine ("NAME = " ++ nameText) ::
        simpleLine ("DOC = " ++ documentationText) :: others) []

theorem definition_assigns (entryPoint : EntryPoint) :
    entryPoint.AssignsIn entryPoint.definition.body := by
  refine ⟨_, _, entryPoint.denote, Template.statement (.documentation prose),
    Template.statements (entryPoint.body.drop 3), ?_⟩
  have assigned : ∀ target text : String, Fragment.renderAll
      [.assign target, .fixed (" = " ++ text)] = target ++ " = " ++ text := by
    intro target text
    simp only [Fragment.renderAll, Fragment.render, String.append_empty, String.append_assoc]
  unfold definition body
  simp only [Template.statements, Template.statement, assigned]
  rfl

/-- The code has the two literals on a line each, at one indentation. -/
def KeepsLines (entryPoint : EntryPoint) : Prop :=
  ∃ nameText documentationText, entryPoint.Denote nameText documentationText ∧
    ∃ above margin below, (∀ c ∈ margin, c = ' ') ∧
      splitLines entryPoint.code.toList =
        above ++ ([margin ++ ("NAME = " ++ nameText).toList,
          margin ++ ("DOC = " ++ documentationText).toList] ++ below)

theorem keepsLines (entryPoint : EntryPoint) : entryPoint.KeepsLines := by
  obtain ⟨above, margin, below, spaces, lines⟩ := entryPoint.splitLines_code
  exact ⟨_, _, entryPoint.denote, above, margin, below, spaces, lines⟩

/-- The statements of a function are those of the entry point, with the two literals. -/
def IsBodyOf (entryPoint : EntryPoint) (body : Suite) : Prop :=
  ∃ nameText documentationText, entryPoint.Denote nameText documentationText ∧
    ∃ statements, body = .block .plain none statements [] ∧
      HaveForms (entryPoint.statementForms nameText documentationText) statements

/-- **What is read from the code of an entry point** has the two literals, whatever the name is,
provided that it is an entry point of that name. If the name can be one, it is. -/
theorem parse_isBodyOf {entryPoint : EntryPoint}
    (isRuntime : isIdentifier entryPoint.runtime = true)
    (isInitializer : isIdentifier entryPoint.initializer = true)
    (terminates : entryPoint.documentation.getLast? = some terminator) :
    (isIdentifier (entryPointName entryPoint.name) = true →
      ∃ function, entryPoint.parse = .ok function ∧
        function.signature.name = entryPointName entryPoint.name) ∧
    ∀ function, entryPoint.parse = .ok function →
      function.signature.name = entryPointName entryPoint.name →
      entryPoint.IsBodyOf function.body := by
  constructor
  · intro isName
    obtain ⟨signature, _, read, named, -⟩ :=
      parse_of_identifiers isName isRuntime isInitializer terminates
    exact ⟨_, read, named⟩
  · intro function read named
    have isName := isIdentifier_of_parse read
    rw [named] at isName
    obtain ⟨_, statements, same, -, -, forms⟩ :=
      parse_of_identifiers isName isRuntime isInitializer terminates
    obtain rfl := Except.ok.inj (read.symm.trans same)
    exact ⟨_, _, entryPoint.denote, statements, rfl, forms⟩

end EntryPoint

/-! ## Main statement -/

/-- **Texts come through the generation of code as they are.** A quoted text is one token of an
annotation argument, and the value of the option that it is given as. The call in a wrapper has the
function, the names and the options for its arguments; the constant for no text signature is no
text. The code of every entry point has the name and the documentation on a line each, which its
margin does not reach; what is read from the code assigns them, and so does what an expansion
writes. -/
theorem generated_texts :
    (∀ text origin, ∃ token, tokenize (quoteString text) origin = [token] ∧
      token.kind = .string ∧ token.stringValue = .ok (.ofString text)) ∧
    (∀ text origin, ∃ options,
      Options.parse (.ofSource (textSignatureKey ++ quoteString text) origin) = .ok options ∧
        options.textSignature.map TextSignature.value = some (some (.ofString text))) ∧
    (∀ runtime function options, isIdentifier runtime = true →
      isIdentifier function.signature.name = true →
      if options.passModule && !function.signature.takesPositional then
        Wrapper.build runtime function options =
          .error (.broken (.grammar (.noModuleParameter function.signature.name) none))
      else ∃ wrapper, Wrapper.build runtime function options = .ok wrapper ∧
        wrapper.Returns function runtime (callArguments function.signature.name options)) ∧
    (∀ points, ¬ (Operand.text points).IsToken "None") ∧
    (∀ entryPoint : EntryPoint, entryPoint.KeepsLines ∧
      entryPoint.AssignsIn entryPoint.definition.body ∧
      (isIdentifier entryPoint.runtime = true → isIdentifier entryPoint.initializer = true →
        entryPoint.documentation.getLast? = some terminator →
        (isIdentifier (entryPointName entryPoint.name) = true →
          ∃ function, entryPoint.parse = .ok function ∧
            function.signature.name = entryPointName entryPoint.name) ∧
        ∀ function, entryPoint.parse = .ok function →
          function.signature.name = entryPointName entryPoint.name →
          entryPoint.IsBodyOf function.body)) := by
  refine ⟨?_, Options.parse_textSignature, fun _ _ options isRuntime isFunction =>
    build_returns options isRuntime isFunction, not_isToken_none, ?_⟩
  · intro text origin
    obtain ⟨token, tokens, isString, -, value⟩ := Directive.tokenize_quoteString text origin
    exact ⟨token, tokens, isString, value⟩
  · intro entryPoint
    exact ⟨entryPoint.keepsLines, entryPoint.definition_assigns,
      fun isRuntime isInitializer terminates =>
        EntryPoint.parse_isBodyOf isRuntime isInitializer terminates⟩

/-- A function that receives the module, and whose text signature is the text `None` rather than none
at all; and a module whose documentation has quotes of both kinds and a line feed. -/
theorem generated_texts_sample :
    (∃ wrapper, Wrapper.build "_pyglue"
        ⟨⟨[], [], []⟩, ⟨"add", true, verbatim "def add(module):", none⟩, .inline [] .plain⟩
        ⟨none, some ⟨some (.ofString "None"), none⟩, true, [], [.textSignature, .passModule]⟩ =
          .ok wrapper ∧
      wrapper.Returns
        ⟨⟨[], [], []⟩, ⟨"add", true, verbatim "def add(module):", none⟩, .inline [] .plain⟩
        "_pyglue" [.position (.word "add"), .keyword "name" (.text (.ofString "add")),
          .keyword "module" (.word "_pyglue_module"),
          .keyword "text_signature" (.text (.ofString "None")),
          .keyword "pass_module" (.word "True")]) ∧
    ∃ function,
      EntryPoint.parse ⟨"init", "demo", terminated (.ofString "it's \"here\"\n"), "_pyglue"⟩ =
        .ok function ∧
      EntryPoint.IsBodyOf ⟨"init", "demo", terminated (.ofString "it's \"here\"\n"), "_pyglue"⟩
        function.body := by
  obtain ⟨-, -, calls, -, entries⟩ := generated_texts
  have call := calls "_pyglue"
    ⟨⟨[], [], []⟩, ⟨"add", true, verbatim "def add(module):", none⟩, .inline [] .plain⟩
    ⟨none, some ⟨some (.ofString "None"), none⟩, true, [], [.textSignature, .passModule]⟩
    (by decide) (by decide)
  have terminates : (terminated (.ofString "it's \"here\"\n")).getLast? = some terminator :=
    List.getLast?_concat
  have entry := (entries ⟨"init", "demo", terminated (.ofString "it's \"here\"\n"), "_pyglue"⟩).2.2
    (by decide) (by decide) terminates
  obtain ⟨function, read, named⟩ := entry.1 (by decide)
  exact ⟨call, function, read, entry.2 function read named⟩

end ModuleGlue.Expansion
