import ModuleGlue.Proofs.Source.OperandReading

/-!
Contract: reading members, items and calls.

Main statements: `reads_arguments` (an argument by position, and others behind it), `reads_member`,
`reads_item`, `reads_memberCall` (a name with what goes on with it is a primary).

Owns: what stands behind a name in generated code.

Does not own: which calls are generated.
-/

namespace ModuleGlue.Source

open ModuleGlue.Text
open Reader

/-! ## Arguments -/

/-- Arguments behind the first one, each behind a comma: operands, then operands with keywords. The
stage tells what stands in front of them. -/
inductive Arguments : Inner.ArgumentStage → List Token → Prop
  | nil {stage : Inner.ArgumentStage} : Arguments stage []
  | position {comma value : Token} {others : List Token} (isComma : isOperator "," comma = true)
      (isValue : IsOperand value) (follows : Arguments .positional others) :
      Arguments .positional (comma :: value :: others)
  | keyword {stage : Inner.ArgumentStage} {comma key equals value : Token} {others : List Token}
      (noMapping : stage ≠ .mapping) (isComma : isOperator "," comma = true)
      (isKey : isNameToken key = true) (isEquals : isOperator "=" equals = true)
      (isValue : IsOperand value) (follows : Arguments .keyword others) :
      Arguments stage (comma :: key :: equals :: value :: others)

section
variable {inner : Inner} {tokens rest : List Token} {shape : Shape}

/-- Names, constants and literals are read as expressions. -/
def ReadsOperands (inner : Inner) : Prop :=
  ∀ token rest, IsOperand token → Stops rest →
    ∃ shape, Reads inner.expression (token :: rest) shape rest

/-- The readers of a depth of at least two read names, constants and literals. -/
theorem readsOperands_ofDepth (depth : Nat) : ReadsOperands (.ofDepth (depth + 1)) :=
  fun _ _ is stops => reads_operand is stops

theorem stops_of_isOperator {token : Token} {text : String} (rest : List Token)
    (is : isOperator text token = true) (stop : text ∈ stopTexts) : Stops (token :: rest) := by
  intro first member
  obtain rfl := Option.some.inj member
  obtain ⟨kind, same⟩ := spelled_of_isOperator is
  exact ⟨kind, same ▸ stop⟩

theorem stops_nil : Stops [] :=
  fun _ member => nomatch member

/-- A comma or a closing parenthesis follows an argument. -/
def EndsArgument (token : Token) : Prop :=
  isOperator "," token = true ∨ isOperator ")" token = true

theorem EndsArgument.isOperator_eq_false {token : Token} (ends : EndsArgument token) {text : String}
    (noComma : text ≠ ",") (noClosing : text ≠ ")") : isOperator text token = false := by
  rcases ends with isComma | isClosing
  · exact isOperator_ne isComma (Ne.symm noComma)
  · exact isOperator_ne isClosing (Ne.symm noClosing)

theorem EndsArgument.stops {token : Token} (ends : EndsArgument token) (rest : List Token) :
    Stops (token :: rest) := by
  rcases ends with isComma | isClosing
  · exact stops_of_isOperator rest isComma (by decide)
  · exact stops_of_isOperator rest isClosing (by decide)

/-- What is behind an argument begins with the end of the argument. -/
theorem Arguments.endsArgument {stage : Inner.ArgumentStage} {arguments : List Token}
    (written : Arguments stage arguments) {closing : Token}
    (isClosing : isOperator ")" closing = true) (rest : List Token) :
    ∃ first others, arguments ++ closing :: rest = first :: others ∧ EndsArgument first := by
  cases written with
  | nil => exact ⟨closing, rest, rfl, Or.inr isClosing⟩
  | position isComma _ _ => exact ⟨_, _, rfl, Or.inl isComma⟩
  | keyword _ isComma _ _ _ _ => exact ⟨_, _, rfl, Or.inl isComma⟩

theorem Arguments.stops {stage : Inner.ArgumentStage} {arguments : List Token}
    (written : Arguments stage arguments) {closing : Token}
    (isClosing : isOperator ")" closing = true) (rest : List Token) :
    Stops (arguments ++ closing :: rest) := by
  obtain ⟨first, others, behind, ends⟩ := written.endsArgument isClosing rest
  rw [behind]
  exact ends.stops others

/-- An argument by position: an expression that begins with no operator, and is neither named nor
has a keyword. -/
theorem reads_position {first second : Token} (noOperator : first.kind ≠ .operator)
    (noKeyword : (isNameToken first && isOperator "=" second) = false)
    (noNamed : (isNameToken first && isOperator ":=" second) = false)
    (read : Reads inner.expression (first :: second :: tokens) shape rest) :
    Reads (inner.argument .positional) (first :: second :: tokens) .positional rest := by
  have keyword : Reads Inner.atKeywordArgument (first :: second :: tokens) false
      (first :: second :: tokens) := by
    unfold Reads Inner.atKeywordArgument
    rw [← noKeyword]
    rfl
  have pending : Reads Inner.atNamed (first :: second :: tokens) false
      (first :: second :: tokens) := by
    unfold Reads Inner.atNamed
    rw [← noNamed]
    rfl
  have named : Reads inner.named (first :: second :: tokens) shape rest := pending.bind read
  refine (reads_optionalOperator_of_not (isOperator_of_kind noOperator "**") _).bind ?_
  refine (reads_atOperator_of_not (isOperator_of_kind noOperator "*") _).bind ?_
  exact keyword.bind ((reads_pure () _).bind (named.bind (reads_pure _ _)))

theorem reads_position_of_operand (reads : ReadsOperands inner) {value second : Token}
    (isValue : IsOperand value) (ends : EndsArgument second) (others : List Token) :
    Reads (inner.argument .positional) (value :: second :: others) .positional
      (second :: others) := by
  obtain ⟨shape, read⟩ := reads value (second :: others) isValue (ends.stops others)
  have noEquals : isOperator "=" second = false := ends.isOperator_eq_false (by decide) (by decide)
  have noNamed : isOperator ":=" second = false := ends.isOperator_eq_false (by decide) (by decide)
  exact reads_position isValue.begins.noOperator (by simp [noEquals]) (by simp [noNamed]) read

/-- One keyword with its value. -/
theorem reads_keywordArgument (reads : ReadsOperands inner) {key equals value : Token}
    (isKey : isNameToken key = true) (isEquals : isOperator "=" equals = true)
    (isValue : IsOperand value) (stops : Stops rest) {stage : Inner.ArgumentStage}
    (noMapping : stage ≠ .mapping) :
    Reads (inner.argument stage) (key :: equals :: value :: rest) .keyword rest := by
  have noOperator := (IsOperand.name isKey).begins.noOperator
  have keyword : Reads Inner.atKeywordArgument (key :: equals :: value :: rest) true
      (key :: equals :: value :: rest) := by
    have accepted : (isNameToken key && isOperator "=" equals) = true := by simp [isKey, isEquals]
    unfold Reads Inner.atKeywordArgument
    rw [← accepted]
    rfl
  obtain ⟨shape, read⟩ := reads value rest isValue stops
  refine (reads_optionalOperator_of_not (isOperator_of_kind noOperator "**") _).bind ?_
  refine (reads_atOperator_of_not (isOperator_of_kind noOperator "*") _).bind ?_
  refine keyword.bind ?_
  refine (reads_name isKey _).bind ((reads_operator isEquals _).bind (read.bind ?_))
  rw [if_neg noMapping]
  exact reads_pure _ rest

/-- The arguments behind the first one are read up to the closing parenthesis. -/
theorem reads_moreArguments (reads : ReadsOperands inner) {stage : Inner.ArgumentStage}
    {arguments : List Token} (written : Arguments stage arguments) {closing : Token}
    (isClosing : isOperator ")" closing = true) {fuel : Nat} (enough : arguments.length ≤ fuel) :
    Reads (inner.moreArguments fuel stage) (arguments ++ closing :: rest) () (closing :: rest) := by
  induction written generalizing fuel with
  | nil =>
      cases fuel with
      | zero => exact reads_pure () _
      | succ fuel =>
          have noComma : isOperator "," closing = false := isOperator_ne isClosing (by decide)
          exact (reads_optionalOperator_of_not noComma rest).bind (reads_pure () _)
  | @position comma value others isComma isValue follows inductionHypothesis =>
      simp only [List.length_cons] at enough
      obtain ⟨fuel, rfl⟩ := Nat.exists_eq_succ_of_ne_zero (by omega : fuel ≠ 0)
      obtain ⟨second, more, behind, ends⟩ := follows.endsArgument isClosing rest
      have more' := @inductionHypothesis fuel (by omega)
      refine (reads_optionalOperator isComma _).bind ?_
      refine (reads_atOperator_of_not (isOperator_of_kind isValue.begins.noOperator ")") _).bind ?_
      rw [behind] at more'
      simp only [behind, List.append_eq]
      exact (reads_position_of_operand reads isValue ends more).bind more'
  | @keyword stage comma key equals value others noMapping isComma isKey isEquals isValue follows
      inductionHypothesis =>
      simp only [List.length_cons] at enough
      obtain ⟨fuel, rfl⟩ := Nat.exists_eq_succ_of_ne_zero (by omega : fuel ≠ 0)
      have noOperator := (IsOperand.name isKey).begins.noOperator
      refine (reads_optionalOperator isComma _).bind ?_
      refine (reads_atOperator_of_not (isOperator_of_kind noOperator ")") _).bind ?_
      refine (reads_keywordArgument reads isKey isEquals isValue (follows.stops isClosing rest)
        noMapping).bind ?_
      exact inductionHypothesis (by omega)

/-- **An argument by position and others behind it are read up to the closing parenthesis.** -/
theorem reads_arguments (reads : ReadsOperands inner) {first : Token}
    (noOperator : first.kind ≠ .operator) {arguments : List Token}
    (written : Arguments .positional arguments) {closing : Token}
    (isClosing : isOperator ")" closing = true)
    (argument : Reads (inner.argument .positional) (first :: tokens) .positional
      (arguments ++ closing :: rest)) :
    ∃ places, Reads (inner.arguments true) (first :: tokens) places (closing :: rest) := by
  have stops := written.stops isClosing rest
  have noComprehension : Reads Inner.atComprehension (arguments ++ closing :: rest) false
      (arguments ++ closing :: rest) :=
    (stops.reads_atKeyword "for").bind ((stops.reads_atKeyword "async").bind (reads_pure false _))
  have enough : arguments.length ≤ (arguments ++ closing :: rest).length := by
    rw [List.length_append]
    exact Nat.le_add_right _ _
  have more : Reads (inner.moreArguments (arguments ++ closing :: rest).length .positional)
      (arguments ++ closing :: rest) () (closing :: rest) :=
    reads_moreArguments reads written isClosing enough
  refine ⟨some (arguments ++ closing :: rest).length, ?_⟩
  refine (reads_atOperator_of_not (isOperator_of_kind noOperator ")") _).bind (argument.bind ?_)
  exact noComprehension.bind ((reads_left _).bind (more.bind (reads_pure _ _)))

theorem reads_arguments_of_operand (reads : ReadsOperands inner) {first : Token}
    (isFirst : IsOperand first) {arguments : List Token}
    (written : Arguments .positional arguments) {closing : Token}
    (isClosing : isOperator ")" closing = true) (rest : List Token) :
    ∃ places, Reads (inner.arguments true) (first :: (arguments ++ closing :: rest)) places
      (closing :: rest) := by
  refine reads_arguments reads isFirst.begins.noOperator written isClosing ?_
  obtain ⟨second, others, behind, ends⟩ := written.endsArgument isClosing rest
  rw [behind]
  exact reads_position_of_operand reads isFirst ends others

/-! ## What goes on with a primary -/

theorem reads_atTrailer {token : Token} (is : isOperator "." token = true ∨
    isOperator "(" token = true ∨ isOperator "[" token = true) (tokens : List Token) :
    Reads Inner.atTrailer (token :: tokens) true (token :: tokens) := by
  have accepted :
      (isOperator "." token || isOperator "(" token || isOperator "[" token) = true := by
    rcases is with is | is | is <;> simp [is]
  exact accepted ▸ rfl

theorem reads_trailers_of_one {fuel : Nat} {base next : Shape} {middle : List Token}
    (pending : Reads Inner.atTrailer tokens true tokens)
    (trailer : Reads (inner.trailer base) tokens next middle)
    (others : Reads (inner.trailers fuel next) middle shape rest) :
    Reads (inner.trailers (fuel + 1) base) tokens shape rest :=
  pending.bind (trailer.bind others)

theorem reads_trailer_of_member {point member : Token} (isPoint : isOperator "." point = true)
    (isMember : isNameToken member = true) (tokens : List Token) (base : Shape) :
    Reads (inner.trailer base) (point :: member :: tokens) .member tokens :=
  (reads_optionalOperator isPoint _).bind ((reads_name isMember _).bind (reads_pure _ _))

theorem reads_trailer_of_call {opening closing : Token} (isOpening : isOperator "(" opening = true)
    (isClosing : isOperator ")" closing = true) {firstEnd : Option Nat}
    (read : Reads (inner.arguments true) tokens firstEnd (closing :: rest)) (base : Shape) :
    ∃ result, Reads (inner.trailer base) (opening :: tokens) result rest := by
  have noPoint : isOperator "." opening = false := isOperator_ne isOpening (by decide)
  exact ⟨_, (reads_optionalOperator_of_not noPoint tokens).bind
    ((reads_optionalOperator isOpening _).bind ((reads_left _).bind (read.bind ((reads_left _).bind
      ((reads_operator isClosing _).bind (reads_pure _ _))))))⟩

/-- An item, found by a literal. -/
theorem reads_trailer_of_item (reads : ReadsOperands inner) {opening key closing : Token}
    (isOpening : isOperator "[" opening = true) (isKey : key.kind = .string)
    (isClosing : isOperator "]" closing = true) (rest : List Token) (base : Shape) :
    Reads (inner.trailer base) (opening :: key :: closing :: rest) .member rest := by
  have noOperator : key.kind ≠ .operator := by simp [isKey]
  have noName : isNameToken key = false := by simp [isNameToken, isKey]
  obtain ⟨shape, read⟩ := reads key (closing :: rest) (.literal isKey)
    (stops_of_isOperator rest isClosing (by decide))
  have noNamed : Reads Inner.atNamed (key :: closing :: rest) false (key :: closing :: rest) := by
    have refused : (isNameToken key && isOperator ":=" closing) = false := by simp [noName]
    unfold Reads Inner.atNamed
    rw [← refused]
    rfl
  have slice : Reads inner.slice (key :: closing :: rest) () (closing :: rest) := by
    refine (reads_optionalOperator_of_not (isOperator_of_kind noOperator "*") _).bind ?_
    refine noNamed.bind ((reads_atOperator_of_not (isOperator_of_kind noOperator ":") _).bind ?_)
    exact read.bind ((reads_optionalOperator_of_not (isOperator_ne isClosing (by decide)) _).bind
      (reads_pure _ _))
  have last : Reads (commaList (atOperator "]") inner.slice (closing :: rest).length)
      (closing :: rest) ([], false) (closing :: rest) :=
    (reads_atOperator_of_not (isOperator_ne isClosing (by decide)) _).bind (reads_pure _ _)
  have listed : Reads (items (atOperator "]") inner.slice) (key :: closing :: rest) ([()], false)
      (closing :: rest) :=
    slice.bind ((reads_left _).bind (last.bind (reads_pure _ _)))
  have subscript : Reads inner.subscript (key :: closing :: rest) () rest :=
    listed.bind (reads_operator isClosing rest)
  refine (reads_optionalOperator_of_not (isOperator_ne isOpening (by decide)) _).bind ?_
  refine (reads_optionalOperator_of_not (isOperator_ne isOpening (by decide)) _).bind ?_
  exact (reads_operator isOpening _).bind (subscript.bind (reads_pure _ _))

/-! ## Names with what goes on with them -/

section
variable {base : Token} (isBase : isNameToken base = true)
include isBase

/-- A name with what goes on with it is a primary. -/
theorem reads_primary_of_name
    (trailers : Reads (inner.trailers tokens.length (.name base.text)) tokens shape rest) :
    Reads inner.primary (base :: tokens) shape rest :=
  reads_primary (IsOperand.name isBase).begins (reads_atom_of_name isBase tokens) trailers

/-- A member of a name is a primary. -/
theorem reads_member {point member : Token} (isPoint : isOperator "." point = true)
    (isMember : isNameToken member = true) (ends : EndsOperand rest) :
    Reads inner.primary (base :: point :: member :: rest) .member rest :=
  reads_primary_of_name isBase (reads_trailers_of_one (reads_atTrailer (Or.inl isPoint) _)
    (reads_trailer_of_member isPoint isMember rest _) (reads_trailers_of_ends ends _ _))

/-- So is an item of a name. -/
theorem reads_item (reads : ReadsOperands inner) {opening key closing : Token}
    (isOpening : isOperator "[" opening = true) (isKey : key.kind = .string)
    (isClosing : isOperator "]" closing = true) (ends : EndsOperand rest) :
    Reads inner.primary (base :: opening :: key :: closing :: rest) .member rest :=
  reads_primary_of_name isBase (reads_trailers_of_one
    (reads_atTrailer (Or.inr (Or.inr isOpening)) _)
    (reads_trailer_of_item reads isOpening isKey isClosing rest _)
    (reads_trailers_of_ends ends _ _))

/-- **A call of a member of a name is a primary.** -/
theorem reads_memberCall {point member opening closing : Token}
    (isPoint : isOperator "." point = true) (isMember : isNameToken member = true)
    (isOpening : isOperator "(" opening = true) (isClosing : isOperator ")" closing = true)
    (arguments : ∃ places, Reads (inner.arguments true) tokens places (closing :: rest))
    (ends : EndsOperand rest) :
    ∃ shape, Reads inner.primary (base :: point :: member :: opening :: tokens) shape rest := by
  obtain ⟨places, read⟩ := arguments
  obtain ⟨shape, called⟩ : ∃ shape, Reads (inner.trailer .member) (opening :: tokens) shape rest :=
    reads_trailer_of_call isOpening isClosing read .member
  refine ⟨shape, reads_primary_of_name isBase ?_⟩
  exact reads_trailers_of_one (reads_atTrailer (Or.inl isPoint) _)
    (reads_trailer_of_member isPoint isMember (opening :: tokens) _)
    (reads_trailers_of_one (reads_atTrailer (Or.inr (Or.inl isOpening)) _) called
      (reads_trailers_of_ends ends _ _))

end

end

end ModuleGlue.Source
