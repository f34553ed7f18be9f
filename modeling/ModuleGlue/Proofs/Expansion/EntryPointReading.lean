import ModuleGlue.Proofs.Expansion.EntryPointCode
import ModuleGlue.Proofs.Expansion.EntryPointLines
import ModuleGlue.Proofs.Source.FunctionNames
import ModuleGlue.Proofs.Source.LineNesting

/-!
Contract: reading the code of an entry point.

Main statement: `parse_of_identifiers` (for parts that are identifiers the code is a function, of
which each statement is known by its texts).

Owns: the code as logical lines, and how they are nested.

Does not own: what a line is read as.
-/

namespace ModuleGlue.Expansion.EntryPoint

open ModuleGlue.Text
open ModuleGlue.Source

/-! ## The code as lines -/

variable (entryPoint : EntryPoint)

def fourSpaces : List Char := "    ".toList

def eightSpaces : List Char := fourSpaces ++ fourSpaces

def nameValue : Points := terminated (.ofString entryPoint.name)

/-- The lines below the documentation, each with its indentation. -/
def linesBehind : List (List Char × List Char) :=
  [(fourSpaces, literalText "NAME" entryPoint.nameValue),
    (fourSpaces, literalText "DOC" entryPoint.documentation), (fourSpaces, entryPoint.cellText),
    (fourSpaces, conditionText), (eightSpaces, entryPoint.definitionText),
    (fourSpaces, selectionText), (fourSpaces, entryPoint.resultText)]

/-- The lines of the code as they are read: the documentation is one of them. -/
def logicalLines : List (List Char × List Char) :=
  ([], entryPoint.headerText) :: (fourSpaces, documentationText) :: entryPoint.linesBehind

def outerLevel : Level := ⟨fourSpaces, 4, 4⟩

def innerLevel : Level := ⟨eightSpaces, 8, 8⟩

/-- The tokens of each line, and how deep the line stands. -/
def outlines : List Outline :=
  [⟨0, [], entryPoint.headerSpelling⟩, ⟨1, fourSpaces, documentationSpelling⟩,
    ⟨1, fourSpaces, literalSpelling "NAME" entryPoint.nameValue⟩,
    ⟨1, fourSpaces, literalSpelling "DOC" entryPoint.documentation⟩,
    ⟨1, fourSpaces, entryPoint.cellSpelling⟩, ⟨1, fourSpaces, conditionSpelling⟩,
    ⟨2, eightSpaces, entryPoint.definitionSpelling⟩, ⟨1, fourSpaces, selectionSpelling⟩,
    ⟨1, fourSpaces, entryPoint.resultSpelling⟩]

def writtenLines : List (List Char) :=
  entryPoint.headerText :: ((documentationLines prose).map (fourSpaces ++ ·.toList) ++
    entryPoint.linesBehind.map fun line => line.1 ++ line.2)

theorem writtenLines_eq :
    (entryPoint.header :: Template.linesAll "    " entryPoint.body).map String.toList =
      entryPoint.writtenLines := by
  unfold writtenLines linesBehind headerText literalText cellText conditionText definitionText
    selectionText resultText itemText nameValue eightSpaces fourSpaces
  simp only [EntryPoint.header, body, prose, documentationLines, Template.linesAll, Template.lines,
    Fragment.renderAll, Fragment.render, List.map_cons, List.map_nil, String.toList_append,
    String.toList_ofList, String.append_empty, List.append_assoc, List.cons_append, List.nil_append]
  rfl

/-- The last line ends with a parenthesis. -/
theorem resultText_closes : [')'] <:+ entryPoint.resultText := by
  have behind : ∀ (front : List Char) (c : Char) {text : List Char}, [')'] <:+ text →
      [')'] <:+ front ++ c :: text :=
    fun front c text closes => (closes.trans (List.suffix_cons c text)).trans
      (List.suffix_append front _)
  unfold resultText
  refine behind _ _ (behind _ _ (behind _ _ (behind _ _ (behind _ _ (behind [] _ ?_)))))
  exact behind _ _ (behind _ _ (behind _ _ (behind [] _ (behind _ _ (List.suffix_refl _)))))

variable {entryPoint}

/-- Each line begins with code, behind its indentation. -/
theorem writtenLines_code : ∀ line ∈ entryPoint.writtenLines, line.all isIndentation = false := by
  simp only [writtenLines, documentationLines, prose, linesBehind, List.map_cons, List.map_nil,
    List.cons_append, List.nil_append, List.forall_mem_cons]
  exact ⟨rfl, rfl, rfl, rfl, rfl, rfl, rfl, rfl, rfl, rfl, rfl, rfl, List.forall_mem_nil _⟩

section
variable (isName : isIdentifier (entryPointName entryPoint.name) = true)
  (isRuntime : isIdentifier entryPoint.runtime = true)
  (isInitializer : isIdentifier entryPoint.initializer = true)
include isName isRuntime isInitializer

theorem writtenLines_noFeed : ∀ line ∈ entryPoint.writtenLines, '\n' ∉ line := by
  have name := notMem_of_isIdentifier isName (by decide : continuesName '\n' = false)
  have runtime := notMem_of_isIdentifier isRuntime (by decide : continuesName '\n' = false)
  have initializer := notMem_of_isIdentifier isInitializer
    (by decide : continuesName '\n' = false)
  have quoted : ∀ points, '\n' ∉ quote points := fun points => notMem_quote points (by decide)
  unfold writtenLines linesBehind headerText literalText cellText conditionText definitionText
    selectionText resultText itemText eightSpaces
  simp only [documentationLines, prose, List.map_cons, List.map_nil, List.cons_append,
    List.nil_append, List.forall_mem_cons, List.not_mem_nil, false_implies, implies_true, and_true]
  simp only [List.mem_append, List.mem_cons, name, runtime, initializer, quoted, false_or]
  refine ⟨?_, ?_, ?_, ?_, ?_, ?_, ?_, ?_, ?_, ?_, ?_, ?_⟩ <;> decide

/-- **The code of identifiers**, line by line as it is read. -/
theorem code_of_identifiers :
    entryPoint.code.toList =
      entryPoint.logicalLines.flatMap fun line => line.1 ++ (line.2 ++ ['\n']) := by
  have eight : "        " = "    " ++ "    " := by decide
  have lines : (("    " ++ entryPoint.header) ::
      Template.linesAll "        " entryPoint.body).map String.toList =
        entryPoint.writtenLines.map (fourSpaces ++ ·) := by
    rw [eight, linesAll_append, ← writtenLines_eq]
    simp [fourSpaces]
  have feed : "\n".toList = ['\n'] := by decide
  have text : entryPoint.code.toList = trimBlanks (dropMargin ('\n' ::
      (joinLines (entryPoint.writtenLines.map (fourSpaces ++ ·)) ++ '\n' :: [' ', ' ']))) ++
        ['\n'] := by
    unfold code
    dsimp only
    rw [← lines]
    simp only [String.toList_append, String.toList_ofList, String.toList_intercalate, feed]
    rfl
  have front : entryPoint.headerText = 'd' ::
      ("ef ".toList ++ ((entryPointName entryPoint.name).toList ++ ['(', ')', ':'])) := by
    simp [headerText]
  obtain ⟨before, ends⟩ : ∃ before, joinLines entryPoint.writtenLines = before ++ [')'] := by
    apply List.getLast?_eq_some_iff.1
    have result : (fourSpaces ++ entryPoint.resultText).getLast? = some ')' := by
      obtain ⟨text, closed⟩ := entryPoint.resultText_closes
      rw [← closed, List.getLast?_append, List.getLast?_append]
      rfl
    have split : entryPoint.writtenLines =
        entryPoint.writtenLines.dropLast ++ [fourSpaces ++ entryPoint.resultText] := rfl
    have others : entryPoint.writtenLines.dropLast ≠ [] := List.cons_ne_nil _ _
    rw [split, joinLines_append others (List.cons_ne_nil _ _), joinLines_singleton,
      List.getLast?_append, List.getLast?_cons, result]
    rfl
  have begins : entryPoint.writtenLines = ('d' :: ("ef ".toList ++
      ((entryPointName entryPoint.name).toList ++ ['(', ')', ':']))) ::
        entryPoint.writtenLines.tail := congrArg (· :: entryPoint.writtenLines.tail) front
  have trimmed : trimBlanks (dropMargin ('\n' ::
      (joinLines (entryPoint.writtenLines.map (fourSpaces ++ ·)) ++ '\n' :: [' ', ' ']))) =
        joinLines entryPoint.writtenLines :=
    trimmed_indented (by decide) (by decide) begins (by decide) ends (by decide)
      (writtenLines_noFeed isName isRuntime isInitializer) writtenLines_code
  have documentation : ((documentationLines prose).map (fourSpaces ++ ·.toList)).flatMap
      (· ++ ['\n']) = fourSpaces ++ (documentationText ++ ['\n']) := by decide
  rw [text, trimmed, joinLines_feed (begins ▸ List.cons_ne_nil _ _)]
  unfold writtenLines logicalLines
  rw [List.flatMap_cons, List.flatMap_append, documentation, List.flatMap_map, List.flatMap_cons,
    List.flatMap_cons]
  simp only [List.append_assoc, List.nil_append]

/-! ## The lines as tokens -/

theorem scansLines_code : ScansLines [] entryPoint.code.toList entryPoint.outlines := by
  have isIndent : fourSpaces.all isIndent = true := by decide
  have isIndent' : eightSpaces.all Source.isIndent = true := by decide
  have stays : adjustLevels fourSpaces [outerLevel] = some [outerLevel] := rfl
  have opens : adjustLevels fourSpaces [] = some [outerLevel] := rfl
  have opens' : adjustLevels eightSpaces [outerLevel] = some [innerLevel, outerLevel] := rfl
  have closes : adjustLevels fourSpaces [innerLevel, outerLevel] = some [outerLevel] := rfl
  have result := ScansLines.line isIndent rfl stays (scans_result [] isRuntime isInitializer)
    (.nil _)
  have selection := ScansLines.line isIndent rfl closes (scans_selection _) result
  have definition := ScansLines.line isIndent' rfl opens' (scans_definition _ isRuntime) selection
  have condition := ScansLines.line isIndent rfl stays (scans_condition _) definition
  have cell := ScansLines.line isIndent rfl stays (scans_cell _ isName) condition
  have literal := ScansLines.line isIndent rfl stays
    (scans_literal _ (by decide : spellsIdentifier "DOC".toList = true) entryPoint.documentation)
    cell
  have name := ScansLines.line isIndent rfl stays
    (scans_literal _ (by decide : spellsIdentifier "NAME".toList = true) entryPoint.nameValue)
    literal
  have documentation := ScansLines.line isIndent rfl opens (scans_documentation _) name
  have top : adjustLevels [] [] = some [] := rfl
  have header := ScansLines.line rfl rfl top (scans_header _ isName) documentation
  rw [code_of_identifiers isName isRuntime isInitializer]
  unfold logicalLines linesBehind
  simp only [List.flatMap_cons, List.flatMap_nil, List.append_nil, List.append_assoc,
    List.nil_append, List.cons_append]
  exact header

/-- The name of the entry point stands on the first line, so this line has no break within. -/
theorem usualBreak_code : usualBreak entryPoint.code.toList = ['\n'] := by
  have name : (entryPointName entryPoint.name).toList.all (!isBreak ·) = true := by
    rw [List.all_eq_true]
    intro c member
    rw [Bool.not_eq_true', ← Bool.not_eq_true]
    intro breaks
    have either : c = '\r' ∨ c = '\n' := by simpa [isBreak] using breaks
    rcases either with rfl | rfl
    · exact notMem_of_isIdentifier isName (by decide) member
    · exact notMem_of_isIdentifier isName (by decide) member
  have unbroken : entryPoint.headerText.all (!isBreak ·) = true := by
    have word : "def".toList.all (!isBreak ·) = true := by decide
    have space : (!isBreak ' ') = true := by decide
    have closing : ['(', ')', ':'].all (!isBreak ·) = true := by decide
    unfold headerText
    simp only [List.all_append, List.all_cons, name, word, space, closing, Bool.and_self]
  rw [code_of_identifiers isName isRuntime isInitializer]
  unfold logicalLines
  rw [List.flatMap_cons, List.nil_append, List.append_assoc]
  exact usualBreak_of_line unbroken _

/-! ## The lines as blocks -/

/-- The code is one line with a block, in which the condition has a block of its own. -/
theorem ofText_code :
    ∃ header documentation name literal cell condition definition selection result : List Token,
      LineTree.ofText entryPoint.code.toList = some ⟨['\n'], fourSpaces,
        [.mk [] header .plain fourSpaces [leaf documentation, leaf name, leaf literal, leaf cell,
          .mk [] condition .plain fourSpaces [leaf definition] [], leaf selection, leaf result] []],
        []⟩ ∧
      [header, documentation, name, literal, cell, condition, definition, selection, result].map
        (List.map Token.spelling) = entryPoint.outlines.map Outline.spelled := by
  obtain ⟨lines, scanned, has⟩ := scansLines_code isName isRuntime isInitializer .origin
    (entryPoint.code.toList.length + 1) (Nat.lt_succ_self _)
  obtain ⟨header, lines, rfl, isHeader, has⟩ := exists_tokens_cons has
  obtain ⟨documentation, lines, rfl, isDocumentation, has⟩ := exists_tokens_cons has
  obtain ⟨name, lines, rfl, isNameLine, has⟩ := exists_tokens_cons has
  obtain ⟨literal, lines, rfl, isLiteral, has⟩ := exists_tokens_cons has
  obtain ⟨cell, lines, rfl, isCell, has⟩ := exists_tokens_cons has
  obtain ⟨condition, lines, rfl, isCondition, has⟩ := exists_tokens_cons has
  obtain ⟨definition, lines, rfl, isDefinition, has⟩ := exists_tokens_cons has
  obtain ⟨selection, lines, rfl, isSelection, has⟩ := exists_tokens_cons has
  obtain ⟨result, lines, rfl, isResult, has⟩ := exists_tokens_cons has
  obtain rfl := List.forall₂_nil_right_iff.1 has
  refine ⟨header, documentation, name, literal, cell, condition, definition, selection, result, ?_,
    ?_⟩
  · unfold LineTree.ofText
    rw [usualBreak_code isName isRuntime isInitializer]
    dsimp only
    rw [scanned]
    rfl
  · simp only [List.map_cons, List.map_nil, isHeader, isDocumentation, isNameLine, isLiteral,
      isCell, isCondition, isDefinition, isSelection, isResult]
    rfl

end

/-! ## The lines as statements -/

/-- A statement on a line of its own, with the given texts. -/
def IsLine (texts : List String) (statement : Statement) : Prop :=
  ∃ form phrase, statement = .line [] [⟨form, phrase, []⟩] .plain ∧
    phrase.map Lexeme.text = texts

def IsCondition (texts inner : List String) (statement : Statement) : Prop :=
  ∃ phrase line, statement = .compound ⟨[], [], []⟩ phrase (.block .plain none [line] []) [] ∧
    phrase.map Lexeme.text = texts ∧ IsLine inner line

/-- Some statements have the given forms, one by one. -/
def HaveForms (forms : List (Statement → Prop)) (statements : List Statement) : Prop :=
  List.Forall₂ (fun form statement => form statement) forms statements

/-- The statements that nested lines form have the given forms. -/
def FormsAs (nodes : List Node) (forms : List (Statement → Prop)) : Prop :=
  ∃ statements, Forms (String.ofList fourSpaces) nodes statements ∧ HaveForms forms statements

section
variable {tokens : List Token} {spelled : List (TokenKind × String)} {nodes : List Node}
  {forms : List (Statement → Prop)}

theorem FormsAs.nil : FormsAs [] [] := ⟨[], .nil, .nil⟩

/-- A line in front of others. -/
theorem FormsAs.line (spellings : tokens.map Token.spelling = spelled) (is : IsStatement tokens)
    (others : FormsAs nodes forms) :
    FormsAs (leaf tokens :: nodes) (IsLine (spelled.map Prod.snd) :: forms) := by
  obtain ⟨form, parsed⟩ := is
  obtain ⟨statements, read, have_⟩ := others
  exact ⟨_, read.line parsed, .cons ⟨form, _, rfl, text_of_ofTokens spellings⟩ have_⟩

/-- A condition in front of other lines. -/
theorem FormsAs.condition {inner : List Token} {written : List (TokenKind × String)}
    (spellings : tokens.map Token.spelling = spelled)
    (parsed : ParsedLine.ofTokens false tokens =
      some (.header .ifTest (Phrase.ofTokens tokens).flush none))
    (spellingsInner : inner.map Token.spelling = written) (is : IsStatement inner)
    (others : FormsAs nodes forms) :
    FormsAs (.mk [] tokens .plain fourSpaces [leaf inner] [] :: nodes)
      (IsCondition (spelled.map Prod.snd) (written.map Prod.snd) :: forms) := by
  obtain ⟨form, parsedInner⟩ := is
  obtain ⟨statements, read, have_⟩ := others
  have body : Forms (String.ofList fourSpaces) [leaf inner] _ := Forms.nil.line parsedInner
  obtain ⟨piece, above, block⟩ := Forms.block parsed (by decide) rfl rfl rfl body read
  refine ⟨_, block, .cons ⟨_, _, ?_, text_of_ofTokens spellings, form, _, rfl,
    text_of_ofTokens spellingsInner⟩ have_⟩
  unfold Piece.begin
  rw [above]

end

variable (entryPoint) in
def statementForms (nameText documentationText : String) : List (Statement → Prop) :=
  [IsLine (documentationSpelling.map Prod.snd), IsLine ["NAME", "=", nameText],
    IsLine ["DOC", "=", documentationText], IsLine (entryPoint.cellSpelling.map Prod.snd),
    IsCondition (conditionSpelling.map Prod.snd) (entryPoint.definitionSpelling.map Prod.snd),
    IsLine (selectionSpelling.map Prod.snd), IsLine (entryPoint.resultSpelling.map Prod.snd)]

variable (entryPoint) in
/-- Each line of the code joins no literals of text and of bytes. -/
theorem plain_outlines : ∀ outline ∈ entryPoint.outlines,
    outline.spelled.all isPlainSpelling = true := by
  have quoted := isPlainSpelling_quote
  have documentation : documentationSpelling.all isPlainSpelling = true := by
    simp [documentationSpelling, isPlainSpelling, documentationText]
  unfold outlines
  simp only [List.forall_mem_cons, literalSpelling, List.all_cons, quoted]
  exact ⟨rfl, documentation, rfl, rfl, rfl, rfl, rfl, rfl, rfl, List.forall_mem_nil _⟩

section
variable (isName : isIdentifier (entryPointName entryPoint.name) = true)
  (isRuntime : isIdentifier entryPoint.runtime = true)
  (isInitializer : isIdentifier entryPoint.initializer = true)
include isName isRuntime isInitializer

/-- The code is one function. -/
theorem ofText_statement :
    ∃ signature statements, signature.name = entryPointName entryPoint.name ∧
      signature.phrase.map Lexeme.text = entryPoint.headerSpelling.map Prod.snd ∧
      Statement.ofText entryPoint.code =
        .ok (.function ⟨[], [], []⟩ signature (.block .plain none statements [])) ∧
      HaveForms (entryPoint.statementForms (String.ofList (quote entryPoint.nameValue))
        (String.ofList (quote entryPoint.documentation))) statements := by
  obtain ⟨header, documentation, name, literal, cell, condition, definition, selection, result,
    read, spelled⟩ := ofText_code isName isRuntime isInitializer
  have plain : ∀ tokens ∈ [header, documentation, name, literal, cell, condition, definition,
      selection, result], mixesLiterals none tokens = false := by
    intro tokens member
    have among := List.mem_map_of_mem (f := List.map Token.spelling) member
    rw [spelled] at among
    obtain ⟨outline, isOutline, same⟩ := List.mem_map.1 among
    exact mixesLiterals_of_plain (same ▸ plain_outlines entryPoint outline isOutline) (by simp)
  simp only [outlines, List.map_cons, List.map_nil, List.cons.injEq, and_true] at spelled
  obtain ⟨isHeader, isDocumentation, isNameLine, isLiteral, isCell, isCondition, isDefinition,
    isSelection, isResult⟩ := spelled
  have results := FormsAs.nil.line isResult ⟨_, parsed_result isRuntime isInitializer isResult⟩
  have selections := results.line isSelection ⟨_, parsed_selection isSelection⟩
  have conditions := selections.condition isCondition (parsed_condition isCondition) isDefinition
    ⟨_, parsed_definition isRuntime isDefinition⟩
  have cells := conditions.line isCell ⟨_, parsed_cell isName isCell⟩
  have literals := cells.line isLiteral ⟨_, parsed_literal (by decide) (by decide) isLiteral⟩
  have names := literals.line isNameLine ⟨_, parsed_literal (by decide) (by decide) isNameLine⟩
  obtain ⟨statements, body, forms⟩ :=
    names.line isDocumentation (parsed_documentation isDocumentation)
  obtain ⟨piece, above, code⟩ := Forms.block (parsed_header isName isHeader) (by simp) rfl rfl rfl
    body .nil
  simp only [Piece.begin, above] at code
  refine ⟨_, statements, ?_, ?_, ofText_of_forms read code ?_, forms⟩
  · rfl
  · exact text_of_ofTokens isHeader
  · simp only [List.forall_mem_cons] at plain
    simp only [Node.anyMixesLiterals, Node.mixesLiterals, leaf, plain, Bool.or_self]

/-- **The code of an entry point is read as a function**, whose statements are known by their
texts. -/
theorem parse_of_identifiers (terminates : entryPoint.documentation.getLast? = some terminator) :
    ∃ signature statements,
      entryPoint.parse = .ok ⟨⟨[], [], []⟩, signature, .block .plain none statements []⟩ ∧
      signature.name = entryPointName entryPoint.name ∧
      signature.phrase.map Lexeme.text = entryPoint.headerSpelling.map Prod.snd ∧
      HaveForms (entryPoint.statementForms (String.ofList (quote entryPoint.nameValue))
        (String.ofList (quote entryPoint.documentation))) statements := by
  obtain ⟨signature, statements, named, header, read, forms⟩ :=
    ofText_statement isName isRuntime isInitializer
  refine ⟨signature, statements, ?_, named, header, forms⟩
  unfold parse
  rw [if_neg (not_not_intro terminates), read]
  rfl

end

/-- A function that is read has an identifier for its name. -/
theorem isIdentifier_of_parse {function : Function} (read : entryPoint.parse = .ok function) :
    isIdentifier function.signature.name = true := by
  unfold parse at read
  split at read
  · cases read
  · split at read
    · cases read
    · rename_i statement code
      have named := isIdentifier_of_statement code
      cases statement with
      | line _ _ _ => cases read
      | compound _ _ _ _ => cases read
      | function head signature body =>
          obtain rfl := Except.ok.inj read
          exact named _ (List.mem_append_right _ (List.mem_singleton_self _))

end ModuleGlue.Expansion.EntryPoint
