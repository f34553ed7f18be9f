import ModuleGlue.Expansion.EntryPoint
import ModuleGlue.Proofs.Source.LineReading
import ModuleGlue.Proofs.Source.TextReading

/-!
Contract: the lines of an entry point, one by one.

Main statements: for each line, what it is scanned to (`scans_header` and its likes), and what its
tokens are read as (`parsed_header` and its likes).

Owns: the texts of the lines, and the spellings of their tokens.

Does not own: how the lines are nested.
-/

namespace ModuleGlue.Expansion.EntryPoint

open ModuleGlue.Text
open ModuleGlue.Source
open ModuleGlue.Source.Reader (isNameToken)

/-! ## Texts -/

variable (entryPoint : EntryPoint)

def headerText : List Char :=
  "def".toList ++ ' ' :: ((entryPointName entryPoint.name).toList ++ ['(', ')', ':'])

/-- The documentation between its quotes, with the indentation of its lines. -/
def proseText : List Char := "\n    ".toList ++
  ("This autogenerated function is called by the python interpreter when importing".toList ++
    ("\n    ".toList ++ ("the module.".toList ++ "\n    ".toList)))

def documentationText : List Char := '"' :: '"' :: '"' :: (proseText ++ ['"', '"', '"'])

def literalText (target : String) (value : Points) : List Char :=
  target.toList ++ ' ' :: '=' :: ' ' :: quote value

def cellText : List Char :=
  "cell".toList ++ ' ' :: '=' :: ' ' ::
    ((entryPointName entryPoint.name).toList ++ '.' :: "__dict__".toList)

def conditionText : List Char :=
  "if".toList ++ ' ' :: (cellKey.toList ++ ' ' :: ("not".toList ++ ' ' ::
    ("in".toList ++ ' ' :: ("cell".toList ++ [':']))))

def itemText : List Char := "cell".toList ++ '[' :: (cellKey.toList ++ [']'])

def definitionText : List Char :=
  itemText ++ ' ' :: '=' :: ' ' :: (entryPoint.runtime.toList ++ '.' :: ("ModuleDef".toList ++
    '(' :: ("NAME".toList ++ ',' :: ' ' :: ("DOC".toList ++ [')']))))

def selectionText : List Char := "MODULE_DEF".toList ++ ' ' :: '=' :: ' ' :: itemText

def resultText : List Char :=
  "return".toList ++ ' ' :: (entryPoint.runtime.toList ++ '.' :: ("handle_panic".toList ++ '(' ::
    ("lambda".toList ++ ' ' :: ("_py".toList ++ ':' :: ' ' :: ("MODULE_DEF".toList ++ '.' ::
      ("make_module".toList ++ '(' :: ("_py".toList ++ ',' :: ' ' ::
        (entryPoint.initializer.toList ++ [')', ')']))))))))

/-! ## Spellings -/

def headerSpelling : List (TokenKind × String) :=
  [(.name, "def"), (.name, entryPointName entryPoint.name), (.operator, "("), (.operator, ")"),
    (.operator, ":")]

def documentationSpelling : List (TokenKind × String) :=
  [(.string, String.ofList documentationText)]

def literalSpelling (target : String) (value : Points) : List (TokenKind × String) :=
  [(.name, target), (.operator, "="), (.string, String.ofList (quote value))]

def cellSpelling : List (TokenKind × String) :=
  [(.name, "cell"), (.operator, "="), (.name, entryPointName entryPoint.name), (.operator, "."),
    (.name, "__dict__")]

def conditionSpelling : List (TokenKind × String) :=
  [(.name, "if"), (.string, cellKey), (.name, "not"), (.name, "in"), (.name, "cell"),
    (.operator, ":")]

def itemSpelling : List (TokenKind × String) :=
  [(.name, "cell"), (.operator, "["), (.string, cellKey), (.operator, "]")]

def definitionSpelling : List (TokenKind × String) :=
  itemSpelling ++ [(.operator, "="), (.name, entryPoint.runtime), (.operator, "."),
    (.name, "ModuleDef"), (.operator, "("), (.name, "NAME"), (.operator, ","), (.name, "DOC"),
    (.operator, ")")]

def selectionSpelling : List (TokenKind × String) :=
  (.name, "MODULE_DEF") :: (.operator, "=") :: itemSpelling

def resultSpelling : List (TokenKind × String) :=
  [(.name, "return"), (.name, entryPoint.runtime), (.operator, "."), (.name, "handle_panic"),
    (.operator, "("), (.name, "lambda"), (.name, "_py"), (.operator, ":"), (.name, "MODULE_DEF"),
    (.operator, "."), (.name, "make_module"), (.operator, "("), (.name, "_py"), (.operator, ","),
    (.name, entryPoint.initializer), (.operator, ")"), (.operator, ")")]

/-! ## Scanning -/

section
variable {behind rest layout : List Char} {frames : List Source.Frame}
  {spelled : List (TokenKind × String)}

/-- A word in front of a text that ends it. -/
theorem scans_word {word : String} {c : Char} (spells : spellsIdentifier word.toList = true)
    (ends : (continuesName c || c == '"' || c == '\'') = false) (bracketed : Bracketed frames)
    (blank : Blank layout) (others : Scans behind frames (c :: rest) spelled) :
    Scans behind frames (layout ++ (word.toList ++ c :: rest)) ((.name, word) :: spelled) :=
  Scans.name bracketed.expression blank spells (endsName_cons ends rest) others

/-- What follows an equals sign between blanks. -/
theorem scans_assigned (others : Scans behind [] (' ' :: rest) spelled) :
    Scans behind [] (' ' :: '=' :: ' ' :: rest) ((.operator, "=") :: spelled) :=
  @Scans.equals behind [] [' '] rest ' ' spelled bracketed_nil (Or.inr rfl) (by decide) others

/-- The key of the cell. -/
theorem scans_cellKey {c : Char} (bracketed : Bracketed frames) (blank : Blank layout)
    (noDouble : c ≠ '"') (noSingle : c ≠ '\'') (others : Scans behind frames (c :: rest) spelled) :
    Scans behind frames (layout ++ (cellKey.toList ++ c :: rest)) ((.string, cellKey) :: spelled) := by
  have quoted : QuotedBody '"' "__pyglue_module_def__".toList := .of_plain (by decide)
  exact Scans.quoted (Or.inr rfl) quoted bracketed.expression blank noDouble noSingle others

/-- The item of the cell. -/
theorem scans_item {c : Char} (blank : Blank layout)
    (others : Scans behind [] (c :: rest) spelled) :
    Scans behind [] (layout ++ (itemText ++ c :: rest)) (itemSpelling ++ spelled) := by
  have closed : Scans behind [.bracket ']'] (']' :: c :: rest) ((.operator, "]") :: spelled) :=
    Scans.closing (Or.inr rfl) others
  have square : Bracketed [.bracket ']'] := bracketed_nil.opened (Or.inr rfl)
  have key := scans_cellKey square (Or.inl rfl) (by decide) (by decide) closed
  have opened := Scans.opening bracketed_nil (Or.inr ⟨rfl, rfl⟩) key
  have name := @scans_word behind _ layout [] _ "cell" '[' (by decide) (by decide) bracketed_nil
    blank opened
  unfold itemText itemSpelling
  simp only [List.append_assoc, List.cons_append, List.nil_append]
  exact name

end

/-! ### The lines -/

section
variable {entryPoint} (rest : List Char)

theorem scans_header (isName : isIdentifier (entryPointName entryPoint.name) = true) :
    Scans rest [] (entryPoint.headerText ++ '\n' :: rest) entryPoint.headerSpelling := by
  have colon := Scans.colon bracketed_nil (by decide) (Scans.feed rest)
  have closed : Scans rest [.bracket ')'] (')' :: ':' :: '\n' :: rest) _ :=
    Scans.closing (Or.inl rfl) colon
  have opened := Scans.opening bracketed_nil (Or.inl ⟨rfl, rfl⟩) closed
  have name := scans_word (spellsIdentifier_of_isIdentifier isName) (by decide) bracketed_nil
    (Or.inr rfl) opened
  have word := @scans_word rest _ [] [] _ "def" ' ' (by decide) (by decide) bracketed_nil
    (Or.inl rfl) name
  unfold headerText headerSpelling
  simp only [List.append_assoc, List.cons_append, List.nil_append]
  exact word

theorem scans_documentation :
    Scans rest [] (documentationText ++ '\n' :: rest) documentationSpelling := by
  have literal := @Scans.documentation rest [] proseText ('\n' :: rest) [] rfl (by decide)
    (by decide) (Scans.feed rest)
  unfold documentationText documentationSpelling documentationText
  simp only [List.append_assoc, List.cons_append, List.nil_append]
  exact literal

theorem scans_literal {target : String} (spells : spellsIdentifier target.toList = true)
    (value : Points) :
    Scans rest [] (literalText target value ++ '\n' :: rest) (literalSpelling target value) := by
  have literal := @Scans.quote rest [] [' '] rest value '\n' [] rfl (Or.inr rfl) (by decide)
    (by decide) (Scans.feed rest)
  have name := @scans_word rest _ [] [] _ target ' ' spells (by decide) bracketed_nil (Or.inl rfl)
    (scans_assigned literal)
  unfold literalText literalSpelling
  simp only [List.append_assoc, List.cons_append]
  exact name

theorem scans_cell (isName : isIdentifier (entryPointName entryPoint.name) = true) :
    Scans rest [] (entryPoint.cellText ++ '\n' :: rest) entryPoint.cellSpelling := by
  have member := @Scans.member rest [' '] ('\n' :: rest) [] _ "__dict__" [] isName (by decide)
    bracketed_nil (Or.inr rfl) (endsName_cons (by decide) _) (Scans.feed rest)
  have name := @scans_word rest _ [] [] _ "cell" ' ' (by decide) (by decide) bracketed_nil
    (Or.inl rfl) (scans_assigned member)
  unfold cellText cellSpelling
  simp only [List.append_assoc, List.cons_append]
  exact name

theorem scans_condition : Scans rest [] (conditionText ++ '\n' :: rest) conditionSpelling := by
  have blank : Blank [' '] := Or.inr rfl
  have colon := Scans.colon bracketed_nil (by decide) (Scans.feed rest)
  have cell := @scans_word rest _ [' '] [] _ "cell" ':' (by decide) (by decide) bracketed_nil blank
    colon
  have word := @scans_word rest _ [' '] [] _ "in" ' ' (by decide) (by decide) bracketed_nil blank
    cell
  have negation := @scans_word rest _ [' '] [] _ "not" ' ' (by decide) (by decide) bracketed_nil
    blank word
  have key := @scans_cellKey rest _ [' '] [] _ ' ' bracketed_nil blank (by decide) (by decide)
    negation
  have condition := @scans_word rest _ [] [] _ "if" ' ' (by decide) (by decide) bracketed_nil
    (Or.inl rfl) key
  unfold conditionText conditionSpelling
  simp only [List.append_assoc, List.cons_append, List.nil_append]
  exact condition

theorem scans_definition (isRuntime : isIdentifier entryPoint.runtime = true) :
    Scans rest [] (entryPoint.definitionText ++ '\n' :: rest) entryPoint.definitionSpelling := by
  have round : Bracketed [.bracket ')'] := bracketed_nil.opened (Or.inl rfl)
  have closed : Scans rest [.bracket ')'] (')' :: '\n' :: rest) _ :=
    Scans.closing (Or.inl rfl) (Scans.feed rest)
  have documentation := @scans_word rest _ [' '] _ _ "DOC" ')' (by decide) (by decide) round
    (Or.inr rfl) closed
  have name := @scans_word rest _ [] _ _ "NAME" ',' (by decide) (by decide) round (Or.inl rfl)
    (Scans.comma round documentation)
  have opened := Scans.opening bracketed_nil (Or.inl ⟨rfl, rfl⟩) name
  have member := @Scans.member rest [' '] _ [] _ "ModuleDef" _ isRuntime (by decide) bracketed_nil
    (Or.inr rfl) (endsName_cons (by decide) _) opened
  have item := @scans_item rest _ [] _ ' ' (Or.inl rfl) (scans_assigned member)
  unfold definitionText definitionSpelling
  simp only [List.append_assoc, List.cons_append, List.nil_append]
  exact item

theorem scans_selection : Scans rest [] (selectionText ++ '\n' :: rest) selectionSpelling := by
  have item := @scans_item rest _ [' '] _ '\n' (Or.inr rfl) (Scans.feed rest)
  have name := @scans_word rest _ [] [] _ "MODULE_DEF" ' ' (by decide) (by decide) bracketed_nil
    (Or.inl rfl) (scans_assigned item)
  unfold selectionText selectionSpelling
  simp only [List.append_assoc, List.cons_append]
  exact name

theorem scans_result (isRuntime : isIdentifier entryPoint.runtime = true)
    (isInitializer : isIdentifier entryPoint.initializer = true) :
    Scans rest [] (entryPoint.resultText ++ '\n' :: rest) entryPoint.resultSpelling := by
  have round : Bracketed [.bracket ')'] := bracketed_nil.opened (Or.inl rfl)
  have inner : Bracketed [.bracket ')', .bracket ')'] := round.opened (Or.inl rfl)
  have closed : Scans rest [.bracket ')'] (')' :: '\n' :: rest) _ :=
    Scans.closing (Or.inl rfl) (Scans.feed rest)
  have closed' : Scans rest [.bracket ')', .bracket ')'] (')' :: ')' :: '\n' :: rest) _ :=
    Scans.closing (Or.inl rfl) closed
  have initializer := scans_word (spellsIdentifier_of_isIdentifier isInitializer) (by decide) inner
    (Or.inr rfl) closed'
  have argument := @scans_word rest _ [] _ _ "_py" ',' (by decide) (by decide) inner (Or.inl rfl)
    (Scans.comma inner initializer)
  have opened := Scans.opening round (Or.inl ⟨rfl, rfl⟩) argument
  have made := @Scans.member rest [' '] _ _ "MODULE_DEF" "make_module" _ (by decide) (by decide)
    round (Or.inr rfl) (endsName_cons (by decide) _) opened
  have colon := Scans.colon round (by decide) made
  have parameter := @scans_word rest _ [' '] _ _ "_py" ':' (by decide) (by decide) round
    (Or.inr rfl) colon
  have word := @scans_word rest _ [] _ _ "lambda" ' ' (by decide) (by decide) round (Or.inl rfl)
    parameter
  have opened' := Scans.opening bracketed_nil (Or.inl ⟨rfl, rfl⟩) word
  have handler := @Scans.member rest [' '] _ [] _ "handle_panic" _ isRuntime (by decide)
    bracketed_nil (Or.inr rfl) (endsName_cons (by decide) _) opened'
  have result := @scans_word rest _ [] [] _ "return" ' ' (by decide) (by decide) bracketed_nil
    (Or.inl rfl) handler
  unfold resultText resultSpelling
  simp only [List.append_assoc, List.cons_append, List.nil_append]
  exact result

end

/-! ## Reading -/

section
variable {entryPoint} {tokens : List Token}

def IsStatement (tokens : List Token) : Prop :=
  ∃ form, ParsedLine.ofTokens false tokens =
    some (.simple [⟨form, (Phrase.ofTokens tokens).flush, []⟩])

/-- A line that is one statement, and neither documentation nor an import. -/
def IsOther (tokens : List Token) : Prop :=
  ParsedLine.ofTokens false tokens = some (.simple [⟨.other, (Phrase.ofTokens tokens).flush, []⟩])

theorem beginsPlainly_of_spelling {token : Token} {word : String}
    (spelled : token.spelling = (.name, word)) (apart : word ∉ lineWords) : BeginsPlainly token := by
  obtain ⟨kind, same⟩ := Prod.mk.inj spelled
  exact beginsPlainly_of_name kind (same ▸ apart)

theorem kind_of_spelling {token : Token} {kind : TokenKind} {text : String}
    (spelled : token.spelling = (kind, text)) : token.kind = kind :=
  (Prod.mk.inj spelled).1

theorem parsed_header (isName : isIdentifier (entryPointName entryPoint.name) = true)
    (spelled : tokens.map Token.spelling = entryPoint.headerSpelling) :
    ParsedLine.ofTokens false tokens = some (.header
      (.function (entryPointName entryPoint.name) false) (Phrase.ofTokens tokens).flush none) := by
  obtain ⟨word, tokens, rfl, isWord, spelled⟩ := List.map_eq_cons_iff.1 spelled
  obtain ⟨name, tokens, rfl, isFunction, spelled⟩ := List.map_eq_cons_iff.1 spelled
  obtain ⟨opening, tokens, rfl, isOpening, spelled⟩ := List.map_eq_cons_iff.1 spelled
  obtain ⟨closing, tokens, rfl, isClosing, spelled⟩ := List.map_eq_cons_iff.1 spelled
  obtain ⟨colon, tokens, rfl, isColon, spelled⟩ := List.map_eq_cons_iff.1 spelled
  obtain rfl := List.map_eq_nil_iff.1 spelled
  have text : name.text = entryPointName entryPoint.name := (Prod.mk.inj isFunction).2
  have header : Reads (reservedHeader (.ofDepth 6)) [word, name, opening, closing, colon]
      (.function name.text false) [] :=
    reads_functionHeader (isKeyword_of_spelling isWord) (isNameToken_of_spelling isName isFunction)
      (isOperator_of_spelling isOpening) (isOperator_of_spelling isClosing)
      (isOperator_of_spelling isColon)
  rw [text] at header
  have isDef : word.text = "def" := (Prod.mk.inj isWord).2
  exact ofTokens_of_header (kind_of_spelling isWord) (isDef ▸ by decide) header

theorem parsed_documentation (spelled : tokens.map Token.spelling = documentationSpelling) :
    IsStatement tokens := by
  obtain ⟨literal, tokens, rfl, isLiteral, spelled⟩ := List.map_eq_cons_iff.1 spelled
  obtain rfl := List.map_eq_nil_iff.1 spelled
  have kind := kind_of_spelling isLiteral
  obtain ⟨shape, operand⟩ : ∃ shape, Reads (Inner.expressionOf (.ofDepth 1)) [literal] shape [] :=
    reads_operand (.literal kind) stops_nil
  have expressions := reads_starExpressions_ofDepth (by simp [kind]) (reads_looksAt_nil _) operand
  obtain ⟨form, statement⟩ := reads_expressionStatement expressions
  exact ⟨form, ofTokens_of_expressionStatement (beginsPlainly_of_string kind) statement⟩

theorem parsed_literal {target : String} (isTarget : isIdentifier target = true)
    (apart : target ∉ lineWords) {value : Points}
    (spelled : tokens.map Token.spelling = literalSpelling target value) : IsOther tokens := by
  obtain ⟨name, tokens, rfl, isName, spelled⟩ := List.map_eq_cons_iff.1 spelled
  obtain ⟨equals, tokens, rfl, isEquals, spelled⟩ := List.map_eq_cons_iff.1 spelled
  obtain ⟨literal, tokens, rfl, isLiteral, spelled⟩ := List.map_eq_cons_iff.1 spelled
  obtain rfl := List.map_eq_nil_iff.1 spelled
  have kind := kind_of_spelling isLiteral
  have name' : IsOperand name := .name (isNameToken_of_spelling isTarget isName)
  have equals' := isOperator_of_spelling isEquals
  have ends := (stops_of_isOperator [literal] equals' (by decide)).endsOperand
  have left : Reads (Inner.primary (.ofDepth 3)) [name, equals, literal] (.name name.text)
      [equals, literal] :=
    reads_primary_of_name (isNameToken_of_spelling isTarget isName)
      (reads_trailers_of_ends ends _ _)
  obtain ⟨shape, right⟩ : ∃ shape, Reads (Inner.primary (.ofDepth 3)) [literal] shape [] :=
    reads_primary_of_operand (.literal kind) stops_nil.endsOperand
  have statement := reads_assignment_of_primaries name'.begins equals'
    (IsOperand.literal kind).begins (isKeyword_of_kind (by simp [kind]) _) rfl left right
  exact ofTokens_of_expressionStatement (beginsPlainly_of_spelling isName apart) statement

theorem parsed_cell (isName : isIdentifier (entryPointName entryPoint.name) = true)
    (spelled : tokens.map Token.spelling = entryPoint.cellSpelling) : IsOther tokens := by
  obtain ⟨cell, tokens, rfl, isCell, spelled⟩ := List.map_eq_cons_iff.1 spelled
  obtain ⟨equals, tokens, rfl, isEquals, spelled⟩ := List.map_eq_cons_iff.1 spelled
  obtain ⟨name, tokens, rfl, isFunction, spelled⟩ := List.map_eq_cons_iff.1 spelled
  obtain ⟨point, tokens, rfl, isPoint, spelled⟩ := List.map_eq_cons_iff.1 spelled
  obtain ⟨member, tokens, rfl, isMember, spelled⟩ := List.map_eq_cons_iff.1 spelled
  obtain rfl := List.map_eq_nil_iff.1 spelled
  have cell' : isNameToken cell = true := isNameToken_of_spelling (by decide) isCell
  have name' : isNameToken name = true := isNameToken_of_spelling isName isFunction
  have equals' := isOperator_of_spelling isEquals
  have ends := (stops_of_isOperator [name, point, member] equals' (by decide)).endsOperand
  have left : Reads (Inner.primary (.ofDepth 5)) [cell, equals, name, point, member]
      (.name cell.text) [equals, name, point, member] :=
    reads_primary_of_name cell' (reads_trailers_of_ends ends _ _)
  have right : Reads (Inner.primary (.ofDepth 5)) [name, point, member] .member [] :=
    reads_member name' (isOperator_of_spelling isPoint)
      (isNameToken_of_spelling (by decide) isMember) stops_nil.endsOperand
  have statement := reads_assignment_of_primaries (IsOperand.name cell').begins equals'
    (IsOperand.name name').begins (isKeyword_of_isNameToken (by decide) name') rfl left right
  exact ofTokens_of_expressionStatement (beginsPlainly_of_spelling isCell (by decide)) statement

theorem parsed_condition (spelled : tokens.map Token.spelling = conditionSpelling) :
    ParsedLine.ofTokens false tokens =
      some (.header .ifTest (Phrase.ofTokens tokens).flush none) := by
  obtain ⟨word, tokens, rfl, isWord, spelled⟩ := List.map_eq_cons_iff.1 spelled
  obtain ⟨key, tokens, rfl, isKey, spelled⟩ := List.map_eq_cons_iff.1 spelled
  obtain ⟨negation, tokens, rfl, isNegation, spelled⟩ := List.map_eq_cons_iff.1 spelled
  obtain ⟨element, tokens, rfl, isElement, spelled⟩ := List.map_eq_cons_iff.1 spelled
  obtain ⟨cell, tokens, rfl, isCell, spelled⟩ := List.map_eq_cons_iff.1 spelled
  obtain ⟨colon, tokens, rfl, isColon, spelled⟩ := List.map_eq_cons_iff.1 spelled
  obtain rfl := List.map_eq_nil_iff.1 spelled
  have colon' := isOperator_of_spelling isColon
  have kind := kind_of_spelling isKey
  obtain ⟨shape, condition⟩ : ∃ shape, Reads (Inner.expressionOf (.ofDepth 6))
      [key, negation, element, cell, colon] shape [colon] :=
    reads_notIn (.literal kind) (isKeyword_of_spelling isNegation) (isKeyword_of_spelling isElement)
      (.name (isNameToken_of_spelling (by decide) isCell))
      (stops_of_isOperator [] colon' (by decide))
  have header : Reads (reservedHeader (.ofDepth 7)) [word, key, negation, element, cell, colon]
      .ifTest [] :=
    reads_conditionHeader (isKeyword_of_spelling isWord) (by simp [isNameToken, kind]) colon'
      condition
  have isIf : word.text = "if" := (Prod.mk.inj isWord).2
  exact ofTokens_of_header (kind_of_spelling isWord) (isIf ▸ by decide) header

theorem parsed_definition (isRuntime : isIdentifier entryPoint.runtime = true)
    (spelled : tokens.map Token.spelling = entryPoint.definitionSpelling) : IsOther tokens := by
  obtain ⟨cell, tokens, rfl, isCell, spelled⟩ := List.map_eq_cons_iff.1 spelled
  obtain ⟨bracket, tokens, rfl, isBracket, spelled⟩ := List.map_eq_cons_iff.1 spelled
  obtain ⟨key, tokens, rfl, isKey, spelled⟩ := List.map_eq_cons_iff.1 spelled
  obtain ⟨bracket', tokens, rfl, isBracket', spelled⟩ := List.map_eq_cons_iff.1 spelled
  obtain ⟨equals, tokens, rfl, isEquals, spelled⟩ := List.map_eq_cons_iff.1 spelled
  obtain ⟨runtime, tokens, rfl, isBase, spelled⟩ := List.map_eq_cons_iff.1 spelled
  obtain ⟨point, tokens, rfl, isPoint, spelled⟩ := List.map_eq_cons_iff.1 spelled
  obtain ⟨member, tokens, rfl, isMember, spelled⟩ := List.map_eq_cons_iff.1 spelled
  obtain ⟨opening, tokens, rfl, isOpening, spelled⟩ := List.map_eq_cons_iff.1 spelled
  obtain ⟨name, tokens, rfl, isName, spelled⟩ := List.map_eq_cons_iff.1 spelled
  obtain ⟨comma, tokens, rfl, isComma, spelled⟩ := List.map_eq_cons_iff.1 spelled
  obtain ⟨documentation, tokens, rfl, isDocumentation, spelled⟩ := List.map_eq_cons_iff.1 spelled
  obtain ⟨closing, tokens, rfl, isClosing, spelled⟩ := List.map_eq_cons_iff.1 spelled
  obtain rfl := List.map_eq_nil_iff.1 spelled
  have cell' : isNameToken cell = true := isNameToken_of_spelling (by decide) isCell
  have runtime' : isNameToken runtime = true := isNameToken_of_spelling isRuntime isBase
  have equals' := isOperator_of_spelling isEquals
  have closing' := isOperator_of_spelling isClosing
  have ends := (stops_of_isOperator [runtime, point, member, opening, name, comma, documentation,
    closing] equals' (by decide)).endsOperand
  have left : Reads (Inner.primary (.ofDepth 13)) [cell, bracket, key, bracket', equals, runtime,
      point, member, opening, name, comma, documentation, closing] .member
      [equals, runtime, point, member, opening, name, comma, documentation, closing] :=
    reads_item cell' (readsOperands_ofDepth 12) (isOperator_of_spelling isBracket)
      (kind_of_spelling isKey) (isOperator_of_spelling isBracket') ends
  have arguments : ∃ places, Reads (Inner.arguments (.ofDepth 13) true)
      (name :: ([comma, documentation] ++ [closing])) places [closing] :=
    reads_arguments_of_operand (readsOperands_ofDepth 12)
      (.name (isNameToken_of_spelling (by decide) isName))
      (.position (isOperator_of_spelling isComma)
        (.name (isNameToken_of_spelling (by decide) isDocumentation)) .nil) closing' []
  obtain ⟨shape, right⟩ := reads_memberCall runtime' (isOperator_of_spelling isPoint)
    (isNameToken_of_spelling (by decide) isMember) (isOperator_of_spelling isOpening) closing'
    arguments stops_nil.endsOperand
  have statement := reads_assignment_of_primaries (IsOperand.name cell').begins equals'
    (IsOperand.name runtime').begins (isKeyword_of_isNameToken (by decide) runtime') rfl left right
  exact ofTokens_of_expressionStatement (beginsPlainly_of_spelling isCell (by decide)) statement

theorem parsed_selection (spelled : tokens.map Token.spelling = selectionSpelling) :
    IsOther tokens := by
  obtain ⟨name, tokens, rfl, isName, spelled⟩ := List.map_eq_cons_iff.1 spelled
  obtain ⟨equals, tokens, rfl, isEquals, spelled⟩ := List.map_eq_cons_iff.1 spelled
  obtain ⟨cell, tokens, rfl, isCell, spelled⟩ := List.map_eq_cons_iff.1 spelled
  obtain ⟨bracket, tokens, rfl, isBracket, spelled⟩ := List.map_eq_cons_iff.1 spelled
  obtain ⟨key, tokens, rfl, isKey, spelled⟩ := List.map_eq_cons_iff.1 spelled
  obtain ⟨bracket', tokens, rfl, isBracket', spelled⟩ := List.map_eq_cons_iff.1 spelled
  obtain rfl := List.map_eq_nil_iff.1 spelled
  have name' : isNameToken name = true := isNameToken_of_spelling (by decide) isName
  have cell' : isNameToken cell = true := isNameToken_of_spelling (by decide) isCell
  have equals' := isOperator_of_spelling isEquals
  have ends := (stops_of_isOperator [cell, bracket, key, bracket'] equals' (by decide)).endsOperand
  have left : Reads (Inner.primary (.ofDepth 6)) [name, equals, cell, bracket, key, bracket']
      (.name name.text) [equals, cell, bracket, key, bracket'] :=
    reads_primary_of_name name' (reads_trailers_of_ends ends _ _)
  have right : Reads (Inner.primary (.ofDepth 6)) [cell, bracket, key, bracket'] .member [] :=
    reads_item cell' (readsOperands_ofDepth 5) (isOperator_of_spelling isBracket)
      (kind_of_spelling isKey) (isOperator_of_spelling isBracket') stops_nil.endsOperand
  have statement := reads_assignment_of_primaries (IsOperand.name name').begins equals'
    (IsOperand.name cell').begins (isKeyword_of_isNameToken (by decide) cell') rfl left right
  exact ofTokens_of_expressionStatement (beginsPlainly_of_spelling isName (by decide)) statement

theorem parsed_result (isRuntime : isIdentifier entryPoint.runtime = true)
    (isInitializer : isIdentifier entryPoint.initializer = true)
    (spelled : tokens.map Token.spelling = entryPoint.resultSpelling) : IsOther tokens := by
  obtain ⟨word, tokens, rfl, isWord, spelled⟩ := List.map_eq_cons_iff.1 spelled
  obtain ⟨runtime, tokens, rfl, isBase, spelled⟩ := List.map_eq_cons_iff.1 spelled
  obtain ⟨point, tokens, rfl, isPoint, spelled⟩ := List.map_eq_cons_iff.1 spelled
  obtain ⟨handler, tokens, rfl, isHandler, spelled⟩ := List.map_eq_cons_iff.1 spelled
  obtain ⟨opening, tokens, rfl, isOpening, spelled⟩ := List.map_eq_cons_iff.1 spelled
  obtain ⟨function, tokens, rfl, isFunction, spelled⟩ := List.map_eq_cons_iff.1 spelled
  obtain ⟨parameter, tokens, rfl, isParameter, spelled⟩ := List.map_eq_cons_iff.1 spelled
  obtain ⟨colon, tokens, rfl, isColon, spelled⟩ := List.map_eq_cons_iff.1 spelled
  obtain ⟨made, tokens, rfl, isMade, spelled⟩ := List.map_eq_cons_iff.1 spelled
  obtain ⟨point', tokens, rfl, isPoint', spelled⟩ := List.map_eq_cons_iff.1 spelled
  obtain ⟨maker, tokens, rfl, isMaker, spelled⟩ := List.map_eq_cons_iff.1 spelled
  obtain ⟨opening', tokens, rfl, isOpening', spelled⟩ := List.map_eq_cons_iff.1 spelled
  obtain ⟨argument, tokens, rfl, isArgument, spelled⟩ := List.map_eq_cons_iff.1 spelled
  obtain ⟨comma, tokens, rfl, isComma, spelled⟩ := List.map_eq_cons_iff.1 spelled
  obtain ⟨initializer, tokens, rfl, isLast, spelled⟩ := List.map_eq_cons_iff.1 spelled
  obtain ⟨closing', tokens, rfl, isClosing', spelled⟩ := List.map_eq_cons_iff.1 spelled
  obtain ⟨closing, tokens, rfl, isClosing, spelled⟩ := List.map_eq_cons_iff.1 spelled
  obtain rfl := List.map_eq_nil_iff.1 spelled
  have runtime' : isNameToken runtime = true := isNameToken_of_spelling isRuntime isBase
  have made' : isNameToken made = true := isNameToken_of_spelling (by decide) isMade
  have parameter' : isNameToken parameter = true := isNameToken_of_spelling (by decide) isParameter
  have isLambda := isKeyword_of_spelling isFunction
  have outer := isOperator_of_spelling isClosing
  have inner := isOperator_of_spelling isClosing'
  have stops := stops_of_isOperator [] outer (by decide)
  -- The call inside the anonymous function.
  have arguments : ∃ places, Reads (Inner.arguments (.ofDepth 15) true)
      (argument :: ([comma, initializer] ++ [closing', closing])) places [closing', closing] :=
    reads_arguments_of_operand (readsOperands_ofDepth 14)
      (.name (isNameToken_of_spelling (by decide) isArgument))
      (.position (isOperator_of_spelling isComma)
        (.name (isNameToken_of_spelling isInitializer isLast)) .nil) inner [closing]
  obtain ⟨shape, making⟩ := reads_memberCall made' (isOperator_of_spelling isPoint')
    (isNameToken_of_spelling (by decide) isMaker) (isOperator_of_spelling isOpening') inner
    arguments stops.endsOperand
  have body := reads_expressionOf (IsOperand.name made').begins stops making
  -- The function is the argument of the call around it.
  have anonymous : Reads (Inner.expressionOf (.ofDepth 16)) [function, parameter, colon, made,
      point', maker, opening', argument, comma, initializer, closing', closing] .other [closing] :=
    reads_lambda isLambda parameter' (isOperator_of_spelling isColon) body
  have noName : isNameToken function = false := by
    have reserved : reservedWords.contains "lambda" = true := by decide
    rw [← Bool.not_eq_true]
    intro is
    rw [isKeyword_of_isNameToken reserved is] at isLambda
    cases isLambda
  have noOperator : function.kind ≠ .operator := by simp [kind_of_spelling isFunction]
  have position : Reads (Inner.argument (.ofDepth 17) .positional) [function, parameter, colon,
      made, point', maker, opening', argument, comma, initializer, closing', closing] .positional
      ([] ++ [closing]) :=
    reads_position noOperator (by simp [noName]) (by simp [noName]) anonymous
  obtain ⟨shape', call⟩ := reads_memberCall runtime' (isOperator_of_spelling isPoint)
    (isNameToken_of_spelling (by decide) isHandler) (isOperator_of_spelling isOpening) outer
    (reads_arguments (readsOperands_ofDepth 16) noOperator .nil outer position)
    stops_nil.endsOperand
  have begins := (IsOperand.name runtime').begins
  have value := reads_starExpressions_ofDepth begins.noOperator (reads_looksAt_nil _)
    (reads_expressionOf begins stops_nil call)
  have starts : Reads startsExpression [runtime, point, handler, opening, function, parameter, colon,
      made, point', maker, opening', argument, comma, initializer, closing', closing] true
      [runtime, point, handler, opening, function, parameter, colon, made, point', maker, opening',
        argument, comma, initializer, closing', closing] :=
    reads_startsExpression runtime' _
  exact ofTokens_of_return (isKeyword_of_spelling isWord) starts value

end

end ModuleGlue.Expansion.EntryPoint
