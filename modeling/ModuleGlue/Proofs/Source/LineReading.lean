import ModuleGlue.Source.Clause
import ModuleGlue.Proofs.Source.CallReading

/-!
Contract: reading one line of generated code.

Main statements: `ofTokens_of_expressionStatement` and `ofTokens_of_return` (a simple statement that
takes all tokens of a line is the line), `ofTokens_of_header` (so is a header).

Owns: assignments, returned values, documentation, headers of functions and of conditions.

Does not own: the expressions in them.
-/

namespace ModuleGlue.Source

open ModuleGlue.Text
open Reader

/-! ## Simple statements -/

/-- The words at which no expression statement begins. -/
def lineWords : List String :=
  headerWords ++ ["match", "pass", "break", "continue", "return", "raise", "global", "nonlocal",
    "del", "assert", "import", "from", "yield", "type"]

/-- A token at which an expression statement begins. -/
structure BeginsPlainly (token : Token) : Prop where
  noOperator : token.kind ≠ .operator
  noWord : ∀ word ∈ lineWords, isKeyword word token = false

section
variable {inner : Inner} {token : Token} {tokens rest : List Token} {form : SmallForm}

theorem beginsPlainly_of_string (kind : token.kind = .string) : BeginsPlainly token :=
  ⟨by simp [kind], fun word _ => isKeyword_of_kind (by simp [kind]) word⟩

theorem beginsPlainly_of_name (kind : token.kind = .name) (apart : token.text ∉ lineWords) :
    BeginsPlainly token := by
  refine ⟨by simp [kind], ?_⟩
  intro word member
  have other : token.text ≠ word := fun same => apart (same ▸ member)
  simp [isKeyword, other]

/-- A statement that begins with none of the words is an expression statement. -/
theorem reads_smallStatement (begins : BeginsPlainly token)
    (read : Reads (expressionStatement inner) (token :: tokens) form rest) :
    Reads (smallStatement inner) (token :: tokens) form rest := by
  have absent : ∀ word ∈ lineWords,
      Reads (optionalKeyword word) (token :: tokens) false (token :: tokens) :=
    fun word member => reads_optionalKeyword_of_not (begins.noWord word member) tokens
  have noYield : Reads (atKeyword "yield") (token :: tokens) false (token :: tokens) :=
    reads_atKeyword_of_not (begins.noWord "yield" (by decide)) tokens
  have noType : Reads atTypeDefinition (token :: tokens) false (token :: tokens) := by
    have refused := begins.noWord "type" (by decide)
    unfold Reads atTypeDefinition
    cases tokens with
    | nil => rfl
    | cons second others =>
        have both : (isKeyword "type" token && isNameToken second) = false := by simp [refused]
        rw [← both]
        rfl
  refine (absent "pass" (by decide)).bind ((absent "break" (by decide)).bind
    ((absent "continue" (by decide)).bind ?_))
  refine (absent "return" (by decide)).bind ((absent "raise" (by decide)).bind ?_)
  refine (absent "global" (by decide)).bind ((absent "nonlocal" (by decide)).bind ?_)
  refine (absent "del" (by decide)).bind ((absent "assert" (by decide)).bind ?_)
  refine (absent "import" (by decide)).bind ((absent "from" (by decide)).bind ?_)
  exact noYield.bind (noType.bind read)

/-- A list of expressions that takes all tokens is an expression statement. -/
theorem reads_expressionStatement {shape : Shape}
    (read : Reads inner.starExpressions tokens shape []) :
    ∃ form, Reads (expressionStatement inner) tokens form [] := by
  have absent : ∀ text, Reads (atOperator text) [] false [] := fun text => reads_looksAt_nil _
  have noUpdate : Reads (Inner.atOneOf updateOperators) [] false [] := reads_looksAt_nil _
  cases literals : shape.asLiterals? with
  | none =>
      refine ⟨.other, read.bind ((reads_optionalOperator_of_none (absent ":")).bind (noUpdate.bind
        ((absent "=").bind ?_)))⟩
      rw [literals]
      exact reads_pure _ []
  | some pieces =>
      refine ⟨.literals pieces, read.bind ((reads_optionalOperator_of_none (absent ":")).bind
        (noUpdate.bind ((absent "=").bind ?_)))⟩
      rw [literals]
      exact reads_pure _ []

/-- What may be assigned to, an equals sign, and a list of expressions are an assignment. -/
theorem reads_assignment {target value : Shape} {equals first : Token} {values : List Token}
    (isEquals : isOperator "=" equals = true) (noYield : isKeyword "yield" first = false)
    (assignable : target.isAssignable = true)
    (left : Reads inner.starExpressions tokens target (equals :: first :: values))
    (right : Reads inner.starExpressions (first :: values) value []) :
    Reads (expressionStatement inner) tokens .other [] := by
  have noColon : isOperator ":" equals = false := isOperator_ne isEquals (by decide)
  have noUpdate : Reads (Inner.atOneOf updateOperators) (equals :: first :: values) false
      (equals :: first :: values) := by
    have stops := stops_of_isOperator (first :: values) isEquals (by decide)
    exact stops.endsOperand.reads_atOneOf (by decide)
  have item : Reads (do
      operator "="
      let yields ← atKeyword "yield"
      let value ← inner.yieldOrExpressions
      return if yields then Shape.other else value) (equals :: first :: values) value [] :=
    (reads_operator isEquals _).bind ((reads_atKeyword_of_not noYield values).bind
      (((reads_optionalKeyword_of_not noYield values).bind right).bind (reads_pure value [])))
  have run := reads_many_of_one (reads_atOperator isEquals _) item (reads_looksAt_nil _)
  refine left.bind ((reads_optionalOperator_of_not noColon _).bind (noUpdate.bind
    ((reads_atOperator isEquals _).bind ?_)))
  rw [assignable]
  exact (reads_pure () _).bind (run.bind ((reads_pure () []).bind (reads_pure _ [])))

/-- A primary that may be assigned to, an equals sign, and a primary are an assignment. -/
theorem reads_assignment_of_primaries {depth : Nat} {target value : Shape} {equals first : Token}
    {values : List Token} (isTarget : BeginsOperand token) (isEquals : isOperator "=" equals = true)
    (isValue : BeginsOperand first) (noYield : isKeyword "yield" first = false)
    (assignable : target.isAssignable = true)
    (left : Reads (Inner.primary (.ofDepth depth)) (token :: tokens) target
      (equals :: first :: values))
    (right : Reads (Inner.primary (.ofDepth depth)) (first :: values) value []) :
    Reads (expressionStatement (.ofDepth (depth + 1))) (token :: tokens) .other [] := by
  have stops := stops_of_isOperator (first :: values) isEquals (by decide)
  have noComma : isOperator "," equals = false := isOperator_ne isEquals (by decide)
  apply reads_assignment isEquals noYield assignable
  · exact reads_starExpressions_ofDepth isTarget.noOperator (reads_atOperator_of_not noComma _)
      (reads_expressionOf isTarget stops left)
  · exact reads_starExpressions_ofDepth isValue.noOperator (reads_looksAt_nil _)
      (reads_expressionOf isValue stops_nil right)

/-- An expression begins with a name. -/
theorem reads_startsExpression (is : isNameToken token = true) (tokens : List Token) :
    Reads startsExpression (token :: tokens) true (token :: tokens) := by
  have kind := (kind_of_isNameToken is).1
  refine (reads_looksAt _ token tokens).trans ?_
  simp [kind, is]

/-- A value is returned. -/
theorem reads_return {shape : Shape} {word first : Token} {values : List Token}
    (isReturn : isKeyword "return" word = true)
    (begins : Reads startsExpression (first :: values) true (first :: values))
    (read : Reads inner.starExpressions (first :: values) shape []) :
    Reads (smallStatement inner) (word :: first :: values) .other [] := by
  have absent : ∀ text, "return" ≠ text →
      Reads (optionalKeyword text) (word :: first :: values) false (word :: first :: values) :=
    fun text apart => reads_optionalKeyword_of_not (isKeyword_ne isReturn apart) _
  refine (absent "pass" (by decide)).bind ((absent "break" (by decide)).bind
    ((absent "continue" (by decide)).bind ?_))
  refine (reads_optionalKeyword isReturn _).bind (begins.bind ?_)
  exact read.bind (reads_pure _ [])

/-! ## Lines -/

theorem Reads.captured {α : Type} {reader : Reader α} {value : α}
    (read : Reads reader tokens value rest) :
    Reads (Source.captured reader) tokens (value, tokens.take (tokens.length - rest.length))
      rest := by
  have pending : Reads (get : Reader (List Token)) tokens tokens tokens := rfl
  exact pending.bind (read.bind ((reads_left rest).bind (reads_pure _ rest)))

theorem take_all (tokens : List Token) :
    tokens.take (tokens.length - ([] : List Token).length) = tokens := by
  simp

/-- A simple statement that takes all tokens of a line is the line. -/
theorem reads_simpleLine (read : Reads (smallStatement inner) tokens form []) :
    Reads (simpleLine inner) tokens (.simple [⟨form, (Phrase.ofTokens tokens).flush, []⟩]) [] := by
  have taken := read.captured
  rw [take_all] at taken
  have none : Reads (Source.captured (optionalOperator ";")) [] (false, []) [] :=
    (reads_optionalOperator_of_none (reads_looksAt_nil _)).captured
  have statements : Reads (smallStatements inner (tokens.length + 1)) tokens
      [⟨form, Phrase.ofTokens tokens, []⟩] [] := by
    refine taken.bind (none.bind ?_)
    exact reads_pure _ []
  exact (reads_left tokens).bind (statements.bind (reads_pure _ []))

/-- The readers with which a line is read. -/
theorem ofTokens_of_reads {line : ParsedLine}
    (read : Reads (parsedLine false (.ofDepth (tokens.length + 1))) tokens line []) :
    ParsedLine.ofTokens false tokens = some line := by
  have run : (readWith (parsedLine false)).run tokens = some (line, []) :=
    (reads_left tokens).bind read
  unfold ParsedLine.ofTokens
  rw [run]
  rfl

/-- **An expression statement that takes all tokens of a line is the line.** -/
theorem ofTokens_of_expressionStatement (begins : BeginsPlainly token)
    (read : Reads (expressionStatement (.ofDepth ((token :: tokens).length + 1)))
      (token :: tokens) form []) :
    ParsedLine.ofTokens false (token :: tokens) =
      some (.simple [⟨form, (Phrase.ofTokens (token :: tokens)).flush, []⟩]) := by
  have noHeader : (token.kind == .name && headerWords.contains token.text) = false := by
    by_cases kind : token.kind = .name
    · have apart : token.text ∉ headerWords := by
        intro member
        have refused := begins.noWord token.text (List.mem_append_left _ member)
        simp [isKeyword, kind] at refused
      simpa [kind] using apart
    · simp [kind]
  have absent : Reads (looksAt fun token => token.kind == .name && headerWords.contains token.text)
      (token :: tokens) false (token :: tokens) := noHeader ▸ reads_looksAt _ token tokens
  apply ofTokens_of_reads
  refine (reads_atOperator_of_not (isOperator_of_kind begins.noOperator "@") _).bind ?_
  refine absent.bind ?_
  refine (reads_atKeyword_of_not (begins.noWord "match" (by decide)) tokens).bind ?_
  exact reads_simpleLine (reads_smallStatement begins read)

/-- **A returned value is a line.** -/
theorem ofTokens_of_return {shape : Shape} {word first : Token} {values : List Token}
    (isReturn : isKeyword "return" word = true)
    (begins : Reads startsExpression (first :: values) true (first :: values))
    (read : Reads (Inner.starExpressions (.ofDepth ((word :: first :: values).length + 1)))
      (first :: values) shape []) :
    ParsedLine.ofTokens false (word :: first :: values) =
      some (.simple [⟨.other, (Phrase.ofTokens (word :: first :: values)).flush, []⟩]) := by
  have kind := (spelled_of_isKeyword isReturn).1
  have text : word.text = "return" := by
    simpa [isKeyword, kind] using isReturn
  have noHeader : (word.kind == .name && headerWords.contains word.text) = false := by
    rw [kind, text]
    decide
  have absent : Reads (looksAt fun token => token.kind == .name && headerWords.contains token.text)
      (word :: first :: values) false (word :: first :: values) :=
    noHeader ▸ reads_looksAt _ word (first :: values)
  apply ofTokens_of_reads
  refine (reads_atOperator_of_not (isOperator_of_kind (by simp [kind]) "@") _).bind ?_
  refine absent.bind ?_
  refine (reads_atKeyword_of_not (isKeyword_ne isReturn (by decide)) _).bind ?_
  exact reads_simpleLine (reads_return isReturn begins read)

/-! ## Headers -/

/-- **A header that takes all tokens of a line is the line.** -/
theorem ofTokens_of_header {kind : HeaderKind} (isWord : token.kind = .name)
    (isHeader : token.text ∈ headerWords)
    (read : Reads (reservedHeader (.ofDepth ((token :: tokens).length + 1))) (token :: tokens)
      kind []) :
    ParsedLine.ofTokens false (token :: tokens) =
      some (.header kind (Phrase.ofTokens (token :: tokens)).flush none) := by
  have header : (token.kind == .name && headerWords.contains token.text) = true := by
    simp [isWord, isHeader]
  have pending : Reads (looksAt fun token => token.kind == .name && headerWords.contains token.text)
      (token :: tokens) true (token :: tokens) := header ▸ reads_looksAt _ token tokens
  have taken := read.captured
  rw [take_all] at taken
  apply ofTokens_of_reads
  refine (reads_atOperator_of_not (isOperator_of_kind (by simp [isWord]) "@") _).bind ?_
  refine pending.bind ?_
  exact taken.bind (reads_pure _ [])

/-- The header of a function without parameters. -/
theorem reads_functionHeader {word function opening closing colon : Token}
    (isWord : isKeyword "def" word = true) (isFunction : isNameToken function = true)
    (isOpening : isOperator "(" opening = true) (isClosing : isOperator ")" closing = true)
    (isColon : isOperator ":" colon = true) :
    Reads (reservedHeader inner) [word, function, opening, closing, colon]
      (.function function.text false) [] := by
  have noParameters : Reads (typeParameters inner) [opening, closing, colon] ()
      [opening, closing, colon] :=
    (reads_optionalOperator_of_not (isOperator_ne isOpening (by decide)) _).bind (reads_pure () _)
  have parameters : Reads (inner.parameters true ")") [closing, colon] false [closing, colon] :=
    (reads_atOperator isClosing _).bind (reads_pure false _)
  have header : Reads (functionHeader inner) [function, opening, closing, colon]
      (.function function.text false) [] := by
    refine (reads_name isFunction _).bind (noParameters.bind ((reads_operator isOpening _).bind ?_))
    refine parameters.bind ((reads_operator isClosing _).bind ?_)
    refine (reads_optionalOperator_of_not (isOperator_ne isColon (by decide)) _).bind ?_
    exact (reads_operator isColon _).bind (reads_pure _ _)
  refine (reads_optionalKeyword_of_not (isKeyword_ne isWord (by decide)) _).bind ?_
  exact (reads_optionalKeyword isWord _).bind header

/-- The header of a condition. -/
theorem reads_conditionHeader {word first second colon : Token} {shape : Shape}
    (isWord : isKeyword "if" word = true) (noName : isNameToken first = false)
    (isColon : isOperator ":" colon = true)
    (read : Reads inner.expression (first :: second :: tokens) shape [colon]) :
    Reads (reservedHeader inner) (word :: first :: second :: tokens) .ifTest [] := by
  have absent : ∀ text, "if" ≠ text → Reads (optionalKeyword text)
      (word :: first :: second :: tokens) false (word :: first :: second :: tokens) :=
    fun text apart => reads_optionalKeyword_of_not (isKeyword_ne isWord apart) _
  have noNamed : Reads Inner.atNamed (first :: second :: tokens) false
      (first :: second :: tokens) := by
    have refused : (isNameToken first && isOperator ":=" second) = false := by simp [noName]
    unfold Reads Inner.atNamed
    rw [← refused]
    rfl
  have named : Reads inner.named (first :: second :: tokens) shape [colon] := noNamed.bind read
  refine (absent "async" (by decide)).bind ((absent "def" (by decide)).bind ?_)
  refine (absent "class" (by decide)).bind ((absent "for" (by decide)).bind ?_)
  refine (absent "except" (by decide)).bind ((absent "with" (by decide)).bind ?_)
  refine (reads_optionalKeyword isWord _).bind ?_
  exact named.bind ((reads_operator isColon []).bind (reads_pure _ []))

/-! ## Anonymous functions -/

/-- An anonymous function of one parameter. -/
theorem reads_lambda {word parameter colon : Token} {shape : Shape}
    (isWord : isKeyword "lambda" word = true) (isParameter : isNameToken parameter = true)
    (isColon : isOperator ":" colon = true) (read : Reads inner.expression tokens shape rest) :
    Reads inner.expressionOf (word :: parameter :: colon :: tokens) .other rest := by
  have noOperator := (IsOperand.name isParameter).begins.noOperator
  have absent : ∀ text, Reads (optionalOperator text) (parameter :: colon :: tokens) false
      (parameter :: colon :: tokens) :=
    fun text => reads_optionalOperator_of_not (isOperator_of_kind noOperator text) _
  have behind : ∀ text, ":" ≠ text →
      Reads (optionalOperator text) (colon :: tokens) false (colon :: tokens) :=
    fun text apart => reads_optionalOperator_of_not (isOperator_ne isColon apart) _
  have first : Reads (inner.parameter false ⟨0, false, false, false, false, false⟩)
      (parameter :: colon :: tokens) ⟨1, false, false, false, false, false⟩ (colon :: tokens) := by
    refine (reads_pure () _).bind ((absent "/").bind ((absent "**").bind ((absent "*").bind ?_)))
    refine (reads_name isParameter _).bind ((reads_pure () _).bind ?_)
    exact (behind "=" (by decide)).bind ((reads_pure () _).bind (reads_pure _ _))
  have more : Reads (inner.moreParameters false ":" (colon :: tokens).length
      ⟨1, false, false, false, false, false⟩) (colon :: tokens)
      ⟨1, false, false, false, false, false⟩ (colon :: tokens) :=
    (behind "," (by decide)).bind (reads_pure _ _)
  have parameters : Reads (inner.parameters false ":") (parameter :: colon :: tokens) true
      (colon :: tokens) := by
    refine (reads_atOperator_of_not (isOperator_of_kind noOperator ":") _).bind ?_
    refine first.bind ((reads_left _).bind (more.bind ?_))
    exact (reads_pure () _).bind (reads_pure _ _)
  have function : Reads inner.lambda (word :: parameter :: colon :: tokens) .other rest :=
    (reads_keyword isWord _).bind (parameters.bind ((reads_operator isColon _).bind
      (read.bind (reads_pure _ _))))
  exact (reads_atKeyword isWord _).bind function

end

end ModuleGlue.Source
