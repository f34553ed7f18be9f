import ModuleGlue.Source.Expression

/-!
Contract: reading operands.

A reader is run on some tokens and leaves the rest of them. What it makes of an operand depends on
the token behind it only: in generated code an operand stands in front of an operator that ends the
expression, or of a word, or at the end of its line.

Main statements: `reads_expressionOf` (a primary is an expression), `reads_operand` (so is a name, a
constant or a literal).

Owns: how readings follow each other, where expressions end, and the operands of one token.

Does not own: what is made of several tokens.
-/

namespace ModuleGlue.Source

open ModuleGlue.Text
open Reader

/-! ## Readers -/

/-- A reader takes some tokens, up to a rest, and gives a value. -/
def Reads {α : Type} (reader : Reader α) (tokens : List Token) (value : α) (rest : List Token) :
    Prop :=
  reader.run tokens = some (value, rest)

section
variable {α β : Type}

theorem Reads.bind {reader : Reader α} {next : α → Reader β} {tokens middle rest : List Token}
    {value : α} {result : β} (first : Reads reader tokens value middle)
    (second : Reads (next value) middle result rest) :
    Reads (reader >>= next) tokens result rest := by
  unfold Reads at first second ⊢
  rw [StateT.run_bind, first]
  exact second

theorem reads_pure (value : α) (tokens : List Token) :
    Reads (pure value : Reader α) tokens value tokens := rfl

theorem reads_left (tokens : List Token) : Reads left tokens tokens.length tokens := rfl

theorem reads_tokenIf {accepts : Token → Bool} {token : Token} (accepted : accepts token = true)
    (rest : List Token) : Reads (tokenIf accepts) (token :: rest) token rest := by
  change (if accepts token then _ else _ : Reader Token).run _ = _
  rw [if_pos accepted]
  rfl

theorem reads_looksAt (accepts : Token → Bool) (token : Token) (rest : List Token) :
    Reads (looksAt accepts) (token :: rest) (accepts token) (token :: rest) := rfl

theorem reads_looksAt_nil (accepts : Token → Bool) : Reads (looksAt accepts) [] false [] := rfl

/-- Nothing is taken where no operator or word of the kind is pending. -/
theorem reads_optionalOperator_of_none {text : String} {tokens : List Token}
    (absent : Reads (atOperator text) tokens false tokens) :
    Reads (optionalOperator text) tokens false tokens :=
  absent.bind (reads_pure false tokens)

theorem reads_optionalKeyword_of_none {text : String} {tokens : List Token}
    (absent : Reads (atKeyword text) tokens false tokens) :
    Reads (optionalKeyword text) tokens false tokens :=
  absent.bind (reads_pure false tokens)

theorem reads_operator {text : String} {token : Token} (is : isOperator text token = true)
    (rest : List Token) : Reads (operator text) (token :: rest) () rest :=
  (reads_tokenIf is rest).bind (reads_pure () rest)

theorem reads_atOperator {text : String} {token : Token} (is : isOperator text token = true)
    (rest : List Token) : Reads (atOperator text) (token :: rest) true (token :: rest) :=
  is ▸ reads_looksAt (isOperator text) token rest

theorem reads_atOperator_of_not {text : String} {token : Token}
    (isNot : isOperator text token = false) (rest : List Token) :
    Reads (atOperator text) (token :: rest) false (token :: rest) :=
  isNot ▸ reads_looksAt (isOperator text) token rest

theorem reads_optionalOperator {text : String} {token : Token}
    (is : isOperator text token = true) (rest : List Token) :
    Reads (optionalOperator text) (token :: rest) true rest :=
  (reads_atOperator is rest).bind ((reads_operator is rest).bind (reads_pure true rest))

theorem reads_optionalOperator_of_not {text : String} {token : Token}
    (isNot : isOperator text token = false) (rest : List Token) :
    Reads (optionalOperator text) (token :: rest) false (token :: rest) :=
  reads_optionalOperator_of_none (reads_atOperator_of_not isNot rest)

theorem reads_keyword {text : String} {token : Token} (is : isKeyword text token = true)
    (rest : List Token) : Reads (keyword text) (token :: rest) () rest :=
  (reads_tokenIf is rest).bind (reads_pure () rest)

theorem reads_atKeyword {text : String} {token : Token} (is : isKeyword text token = true)
    (rest : List Token) : Reads (atKeyword text) (token :: rest) true (token :: rest) :=
  is ▸ reads_looksAt (isKeyword text) token rest

theorem reads_atKeyword_of_not {text : String} {token : Token}
    (isNot : isKeyword text token = false) (rest : List Token) :
    Reads (atKeyword text) (token :: rest) false (token :: rest) :=
  isNot ▸ reads_looksAt (isKeyword text) token rest

theorem reads_optionalKeyword {text : String} {token : Token}
    (is : isKeyword text token = true) (rest : List Token) :
    Reads (optionalKeyword text) (token :: rest) true rest :=
  (reads_atKeyword is rest).bind ((reads_keyword is rest).bind (reads_pure true rest))

theorem reads_optionalKeyword_of_not {text : String} {token : Token}
    (isNot : isKeyword text token = false) (rest : List Token) :
    Reads (optionalKeyword text) (token :: rest) false (token :: rest) :=
  reads_optionalKeyword_of_none (reads_atKeyword_of_not isNot rest)

theorem reads_name {token : Token} (is : isNameToken token = true) (rest : List Token) :
    Reads name (token :: rest) token.text rest :=
  (reads_tokenIf is rest).bind (reads_pure token.text rest)

/-- No item is read where none is pending. -/
theorem reads_many_of_none {continues : Reader Bool} {item : Reader α} {tokens : List Token}
    (absent : Reads continues tokens false tokens) :
    Reads (many continues item) tokens [] tokens := by
  refine (reads_left tokens).bind ?_
  cases tokens.length with
  | zero => exact reads_pure [] tokens
  | succ fuel => exact absent.bind (reads_pure [] tokens)

/-- One item is read where no other is pending behind it. -/
theorem reads_many_of_one {continues : Reader Bool} {item : Reader α} {token : Token}
    {tokens rest : List Token} {value : α}
    (pending : Reads continues (token :: tokens) true (token :: tokens))
    (read : Reads item (token :: tokens) value rest) (absent : Reads continues rest false rest) :
    Reads (many continues item) (token :: tokens) [value] rest := by
  have others : Reads (whileAt continues item tokens.length) rest [] rest := by
    cases tokens.length with
    | zero => exact reads_pure [] rest
    | succ fuel => exact absent.bind (reads_pure [] rest)
  exact (reads_left _).bind (pending.bind (read.bind (others.bind (reads_pure _ rest))))

end

section
variable {token : Token}

/-- A token that is no operator is none with any text. -/
theorem isOperator_of_kind (noOperator : token.kind ≠ .operator) (text : String) :
    isOperator text token = false := by
  simp [isOperator, noOperator]

theorem isKeyword_of_kind (noWord : token.kind ≠ .name) (text : String) :
    isKeyword text token = false := by
  simp [isKeyword, noWord]

theorem spelled_of_isOperator {text : String} (is : isOperator text token = true) :
    token.kind = .operator ∧ token.text = text := by
  simpa [isOperator] using is

theorem spelled_of_isKeyword {text : String} (is : isKeyword text token = true) :
    token.kind = .name ∧ token.text = text := by
  simpa [isKeyword] using is

/-- An operator is none with another text. -/
theorem isOperator_ne {text other : String} (is : isOperator text token = true)
    (apart : text ≠ other) : isOperator other token = false := by
  simp [isOperator, (spelled_of_isOperator is).2, apart]

theorem isKeyword_ne {text other : String} (is : isKeyword text token = true)
    (apart : text ≠ other) : isKeyword other token = false := by
  simp [isKeyword, (spelled_of_isKeyword is).2, apart]

end

/-! ## Where an expression ends -/

/-- The operators that end the expressions in generated code. -/
def stopTexts : List String := [",", ")", "]", ":", "="]

/-- Nothing follows, or an operator that ends an expression. -/
def Stops (rest : List Token) : Prop :=
  ∀ token ∈ rest.head?, token.kind = .operator ∧ token.text ∈ stopTexts

/-- Nothing follows that goes on with an operand of an arithmetic operator: nothing at all, an
operator that ends the expression, or a word. -/
def EndsOperand (rest : List Token) : Prop :=
  ∀ token ∈ rest.head?, token.kind = .name ∨ token.kind = .operator ∧ token.text ∈ stopTexts

section
variable {rest : List Token}

theorem Stops.endsOperand (stops : Stops rest) : EndsOperand rest :=
  fun token first => Or.inr (stops token first)

/-- A condition that is satisfied neither by a word nor by such an operator does not hold there. -/
theorem EndsOperand.reads_looksAt (ends : EndsOperand rest) {accepts : Token → Bool}
    (refuses : ∀ token : Token, token.kind = .name ∨
      token.kind = .operator ∧ token.text ∈ stopTexts → accepts token = false) :
    Reads (looksAt accepts) rest false rest := by
  cases rest with
  | nil => rfl
  | cons token others =>
      exact refuses token (ends token rfl) ▸ Source.reads_looksAt accepts token others

theorem EndsOperand.reads_atOperator (ends : EndsOperand rest) {text : String}
    (apart : text ∉ stopTexts) : Reads (atOperator text) rest false rest := by
  apply ends.reads_looksAt
  intro token follows
  rcases follows with kind | ⟨-, stop⟩
  · simp [isOperator, kind]
  · have other : token.text ≠ text := fun same => apart (same ▸ stop)
    simp [isOperator, other]

theorem EndsOperand.reads_atOneOf (ends : EndsOperand rest) {operators : List String}
    (apart : ∀ text ∈ stopTexts, text ∉ operators) :
    Reads (Inner.atOneOf operators) rest false rest := by
  apply ends.reads_looksAt
  intro token follows
  rcases follows with kind | ⟨-, stop⟩
  · simp [kind]
  · simp [apart token.text stop]

theorem Stops.reads_atKeyword (stops : Stops rest) (text : String) :
    Reads (atKeyword text) rest false rest := by
  cases rest with
  | nil => rfl
  | cons token others =>
      have kind := (stops token rfl).1
      exact reads_atKeyword_of_not (isKeyword_of_kind (by simp [kind]) text) others

end

/-! ## Operands -/

/-- A token at which an operand begins: no operator, and no word that begins something else. -/
structure BeginsOperand (token : Token) : Prop where
  noOperator : token.kind ≠ .operator
  noNegation : isKeyword "not" token = false
  noFunction : isKeyword "lambda" token = false
  noAwait : isKeyword "await" token = false

section
variable {inner : Inner} {token : Token} {tokens rest : List Token} {shape : Shape}

/-- An operand behind which no operator follows is a chain of one. -/
theorem reads_chain {operators : List String} {operand : Reader Shape} (ends : EndsOperand rest)
    (apart : ∀ text ∈ stopTexts, text ∉ operators) (read : Reads operand tokens shape rest) :
    Reads (Inner.chain operators operand) tokens shape rest :=
  read.bind ((reads_many_of_none (ends.reads_atOneOf apart)).bind (reads_pure shape rest))

theorem reads_joined {word : String} {operand : Reader Shape} (stops : Stops rest)
    (read : Reads operand tokens shape rest) :
    Reads (Inner.joined word operand) tokens shape rest :=
  read.bind ((reads_many_of_none (stops.reads_atKeyword word)).bind (reads_pure shape rest))

/-- A primary behind which no operator follows is an operand of a comparison. -/
theorem reads_arithmetic (begins : BeginsOperand token) (ends : EndsOperand rest)
    (read : Reads inner.primary (token :: tokens) shape rest) :
    Reads inner.arithmetic (token :: tokens) shape rest := by
  have power : Reads inner.power (token :: tokens) shape rest :=
    read.bind ((reads_optionalOperator_of_none
      (ends.reads_atOperator (by decide))).bind (reads_pure shape rest))
  have unsigned :
      Reads (Inner.atOneOf ["+", "-", "~"]) (token :: tokens) false (token :: tokens) := by
    have refused : (token.kind == .operator && ["+", "-", "~"].contains token.text) = false := by
      simp [begins.noOperator]
    exact refused ▸ reads_looksAt _ token tokens
  have signed : Reads inner.signed (token :: tokens) shape rest :=
    (reads_many_of_none unsigned).bind (power.bind (reads_pure shape rest))
  unfold Inner.arithmetic
  iterate 6 refine reads_chain ends (by decide) ?_
  exact signed

/-- A comparison in front of the end of an expression is the expression. -/
theorem reads_expressionOf_comparison (begins : BeginsOperand token) (stops : Stops rest)
    (read : Reads inner.comparison (token :: tokens) shape rest) :
    Reads inner.expressionOf (token :: tokens) shape rest := by
  have negated : Reads (atKeyword "not") (token :: tokens) false (token :: tokens) :=
    reads_atKeyword_of_not begins.noNegation tokens
  have negation : Reads inner.negation (token :: tokens) shape rest :=
    (reads_many_of_none negated).bind (read.bind (reads_pure shape rest))
  have disjunction : Reads inner.disjunctionOf (token :: tokens) shape rest :=
    reads_joined stops (reads_joined stops negation)
  have anonymous : Reads (atKeyword "lambda") (token :: tokens) false (token :: tokens) :=
    reads_atKeyword_of_not begins.noFunction tokens
  exact anonymous.bind (disjunction.bind ((reads_optionalKeyword_of_none
    (stops.reads_atKeyword "if")).bind (reads_pure shape rest)))

theorem Stops.reads_atComparison (stops : Stops rest) :
    Reads Inner.atComparison rest false rest :=
  (stops.endsOperand.reads_atOneOf (by decide)).bind
    ((stops.reads_atKeyword "in").bind ((stops.reads_atKeyword "is").bind
      ((stops.reads_atKeyword "not").bind (reads_pure false rest))))

/-- **A primary in front of the end of an expression is an expression.** -/
theorem reads_expressionOf (begins : BeginsOperand token) (stops : Stops rest)
    (read : Reads inner.primary (token :: tokens) shape rest) :
    Reads inner.expressionOf (token :: tokens) shape rest :=
  reads_expressionOf_comparison begins stops
    ((reads_arithmetic begins stops.endsOperand read).bind
      ((reads_many_of_none stops.reads_atComparison).bind (reads_pure shape rest)))

end

/-! ## Names, constants and literals -/

/-- A token that is an operand by itself: a plain literal, a constant, or a name. -/
inductive IsOperand (token : Token) : Prop
  | literal (kind : token.kind = .string)
  | constant (kind : token.kind = .name) (text : token.text = "None" ∨ token.text = "True")
  | name (is : isNameToken token = true)

section
variable {token : Token}

theorem kind_of_isNameToken (is : isNameToken token = true) :
    token.kind = .name ∧ reservedWords.contains token.text = false := by
  simpa [isNameToken] using is

theorem isKeyword_of_isNameToken {word : String} (reserved : reservedWords.contains word = true)
    (is : isNameToken token = true) : isKeyword word token = false := by
  have apart : token.text ≠ word := by
    intro same
    rw [← same, (kind_of_isNameToken is).2] at reserved
    cases reserved
  simp [isKeyword, apart]

theorem IsOperand.begins (is : IsOperand token) : BeginsOperand token := by
  cases is with
  | literal kind =>
      have noWord : token.kind ≠ .name := by simp [kind]
      exact ⟨by simp [kind], isKeyword_of_kind noWord _, isKeyword_of_kind noWord _,
        isKeyword_of_kind noWord _⟩
  | constant kind text =>
      have apart : ∀ word, word ≠ "None" → word ≠ "True" → isKeyword word token = false := by
        intro word noNone noTrue
        rcases text with text | text
        · simp [isKeyword, text, Ne.symm noNone]
        · simp [isKeyword, text, Ne.symm noTrue]
      exact ⟨by simp [kind], apart _ (by decide) (by decide), apart _ (by decide) (by decide),
        apart _ (by decide) (by decide)⟩
  | name is =>
      exact ⟨by simp [(kind_of_isNameToken is).1], isKeyword_of_isNameToken (by decide) is,
        isKeyword_of_isNameToken (by decide) is, isKeyword_of_isNameToken (by decide) is⟩

variable {inner : Inner} {rest : List Token}

/-- A name is an atom, whatever follows. -/
theorem reads_atom_of_name (is : isNameToken token = true) (rest : List Token) :
    Reads inner.atom (token :: rest) (.name token.text) rest := by
  obtain ⟨kind, unreserved⟩ := kind_of_isNameToken is
  have apart : ["None", "True", "False"].contains token.text = false := by
    rw [Bool.eq_false_iff]
    intro constant
    have reserved : ∀ word ∈ ["None", "True", "False"], reservedWords.contains word = true := by
      decide
    rw [reserved token.text (by simpa using constant)] at unreserved
    cases unreserved
  have pending :
      Reads (get : Reader (List Token)) (token :: rest) (token :: rest) (token :: rest) := rfl
  refine pending.bind ?_
  dsimp only
  rw [kind]
  dsimp only
  rw [if_neg (by rw [apart]; decide)]
  exact (reads_name is rest).bind (reads_pure _ rest)

theorem reads_atom (is : IsOperand token) (ends : EndsOperand rest) :
    ∃ shape, Reads inner.atom (token :: rest) shape rest := by
  have pending :
      Reads (get : Reader (List Token)) (token :: rest) (token :: rest) (token :: rest) := rfl
  cases is with
  | literal kind =>
      have first : Reads Inner.atLiteral (token :: rest) true (token :: rest) := by
        have accepted : (token.kind == .string || token.kind == .formatStart) = true := by
          simp [kind]
        exact accepted ▸ reads_looksAt _ token rest
      have last : Reads Inner.atLiteral rest false rest :=
        ends.reads_looksAt fun token follows => by
          rcases follows with kind | ⟨kind, -⟩ <;> simp [kind]
      have piece : Reads inner.literalPiece (token :: rest) ⟨token.text, false⟩ rest := by
        refine (reads_tokenIf (by simp [kind]) rest).bind ?_
        rw [if_pos (by simp [kind])]
        exact reads_pure _ rest
      have run : Reads (many Inner.atLiteral inner.literalPiece) (token :: rest)
          [⟨token.text, false⟩] rest := reads_many_of_one first piece last
      refine ⟨.literals [⟨token.text, false⟩], pending.bind ?_⟩
      dsimp only
      rw [kind]
      exact run.bind (reads_pure _ rest)
  | constant kind text =>
      have constant : ["None", "True", "False"].contains token.text = true := by
        rcases text with text | text <;> rw [text] <;> decide
      have word : Reads (keyword token.text) (token :: rest) () rest :=
        reads_keyword (by simp [isKeyword, kind]) rest
      refine ⟨.other, pending.bind ?_⟩
      dsimp only
      rw [kind]
      dsimp only
      rw [if_pos constant]
      exact word.bind (reads_pure _ rest)
  | name is => exact ⟨_, reads_atom_of_name is rest⟩

/-- No trailer follows where an operand ends. -/
theorem reads_trailers_of_ends (ends : EndsOperand rest) (fuel : Nat) (shape : Shape) :
    Reads (inner.trailers fuel shape) rest shape rest := by
  have absent : Reads Inner.atTrailer rest false rest :=
    (ends.reads_atOperator (by decide)).bind
      ((ends.reads_atOperator (by decide)).bind
        ((ends.reads_atOperator (by decide)).bind (reads_pure false rest)))
  cases fuel with
  | zero => exact reads_pure shape rest
  | succ fuel => exact absent.bind (reads_pure shape rest)

theorem reads_primary {tokens middle : List Token} {base shape : Shape}
    (begins : BeginsOperand token) (atom : Reads inner.atom (token :: tokens) base middle)
    (trailers : Reads (inner.trailers middle.length base) middle shape rest) :
    Reads inner.primary (token :: tokens) shape rest := by
  exact (reads_optionalKeyword_of_not begins.noAwait tokens).bind (atom.bind
    ((reads_left middle).bind (trailers.bind (reads_pure shape rest))))

/-- A name, a constant or a literal is a primary. -/
theorem reads_primary_of_operand (is : IsOperand token) (ends : EndsOperand rest) :
    ∃ shape, Reads inner.primary (token :: rest) shape rest := by
  obtain ⟨shape, atom⟩ : ∃ shape, Reads inner.atom (token :: rest) shape rest := reads_atom is ends
  exact ⟨shape, reads_primary is.begins atom (reads_trailers_of_ends ends _ shape)⟩

/-- **A name, a constant or a literal is an expression.** -/
theorem reads_operand (is : IsOperand token) (stops : Stops rest) :
    ∃ shape, Reads inner.expressionOf (token :: rest) shape rest := by
  obtain ⟨shape, primary⟩ : ∃ shape, Reads inner.primary (token :: rest) shape rest :=
    reads_primary_of_operand is stops.endsOperand
  exact ⟨shape, reads_expressionOf is.begins stops primary⟩

/-- One operand is in another, or is not. -/
theorem reads_notIn {negation word container : Token} (isElement : IsOperand token)
    (isNegation : isKeyword "not" negation = true) (isWord : isKeyword "in" word = true)
    (isContainer : IsOperand container) (stops : Stops rest) :
    ∃ shape, Reads inner.expressionOf (token :: negation :: word :: container :: rest) shape rest := by
  have ends : EndsOperand (negation :: word :: container :: rest) := by
    intro first member
    obtain rfl := Option.some.inj member
    exact Or.inl (spelled_of_isKeyword isNegation).1
  obtain ⟨left, element⟩ : ∃ shape, Reads inner.primary
      (token :: negation :: word :: container :: rest) shape _ :=
    reads_primary_of_operand isElement ends
  obtain ⟨right, behind⟩ : ∃ shape, Reads inner.primary (container :: rest) shape rest :=
    reads_primary_of_operand isContainer stops.endsOperand
  have pending : Reads Inner.atComparison (negation :: word :: container :: rest) true
      (negation :: word :: container :: rest) :=
    (ends.reads_atOneOf (by decide)).bind
      ((reads_atKeyword_of_not (isKeyword_ne isNegation (by decide)) _).bind
        ((reads_atKeyword_of_not (isKeyword_ne isNegation (by decide)) _).bind
          ((reads_atKeyword isNegation _).bind (reads_pure true _))))
  have operator : Reads Inner.comparisonOperator (negation :: word :: container :: rest) ()
      (container :: rest) :=
    (reads_optionalKeyword_of_not (isKeyword_ne isNegation (by decide)) _).bind
      ((reads_optionalKeyword_of_not (isKeyword_ne isNegation (by decide)) _).bind
        ((reads_optionalKeyword isNegation _).bind (reads_keyword isWord _)))
  have item : Reads (do Inner.comparisonOperator; inner.arithmetic)
      (negation :: word :: container :: rest) right rest :=
    operator.bind (reads_arithmetic isContainer.begins stops.endsOperand behind)
  have other := reads_many_of_one pending item stops.reads_atComparison
  exact ⟨_, reads_expressionOf_comparison isElement.begins stops
    ((reads_arithmetic isElement.begins ends element).bind (other.bind (reads_pure _ rest)))⟩

/-- An expression is a list of one, unless a comma follows it. -/
theorem reads_starExpressions (noOperator : token.kind ≠ .operator)
    (noComma : Reads (atOperator ",") rest false rest)
    (read : Reads inner.expression (token :: tokens) shape rest) :
    Reads inner.starExpressions (token :: tokens) shape rest := by
  have item : Reads (inner.starOr inner.expression) (token :: tokens) shape rest :=
    (reads_optionalOperator_of_not (isOperator_of_kind noOperator "*") _).bind read
  have last : Reads (commaList endsExpressions (inner.starOr inner.expression) rest.length) rest
      ([], false) rest := by
    cases rest.length with
    | zero => exact reads_pure _ rest
    | succ fuel => exact noComma.bind (reads_pure _ rest)
  have listed : Reads (items endsExpressions (inner.starOr inner.expression)) (token :: tokens)
      ([shape], false) rest :=
    item.bind ((reads_left rest).bind (last.bind (reads_pure _ rest)))
  exact listed.bind (reads_pure shape rest)

/-- The readers of some depth read what is no deeper than one step. -/
theorem reads_starExpressions_ofDepth {depth : Nat} (noOperator : token.kind ≠ .operator)
    (noComma : Reads (atOperator ",") rest false rest)
    (read : Reads (Inner.expressionOf (.ofDepth depth)) (token :: tokens) shape rest) :
    Reads (Inner.starExpressions (.ofDepth (depth + 1))) (token :: tokens) shape rest :=
  reads_starExpressions noOperator noComma read

end

end ModuleGlue.Source
