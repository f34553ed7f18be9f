import ModuleGlue.Proofs.Directive.NameSpellings
import ModuleGlue.Proofs.Expansion.EntryPointReading
import ModuleGlue.Proofs.Source.NameScopes

/-!
Contract: what the names in an entry point are bound to.

An entry point keeps what it makes in locals, and hands the module's function to the runtime from
within an anonymous function. So a name that is chosen elsewhere is bound where it was meant only if
no local, parameter or entry point has the same name.

Main statement: `parse_resolves` (the names that are looked up in the code, and for each name that is
chosen elsewhere, when it is bound outside of the entry point).

Owns: the mentions in an entry point, and its scopes.

Does not own: how names are bound in general.
-/

namespace ModuleGlue.Expansion

open ModuleGlue.Directive (exists_cons_of_isIdentifier forall_ascii)
open ModuleGlue.Source
open ModuleGlue.Text

/-! ## Mentions in templates -/

mutual

/-- What a part of a line mentions within anonymous functions of the given parameters. -/
def Fragment.mentions (around : List String) : Fragment → List Mention
  | .fixed _ => []
  | .use name => [.lookup name around]
  | .assign name => [.assigned name]
  | .function parameter body => Fragment.allMentions (parameter :: around) body

def Fragment.allMentions (around : List String) : List Fragment → List Mention
  | [] => []
  | fragment :: rest => fragment.mentions around ++ Fragment.allMentions around rest

end

mutual

def Template.mentions : Template → List Mention
  | .simple fragments => Fragment.allMentions [] fragments
  | .documentation _ => []
  | .block header body => Fragment.allMentions [] header ++ Template.allMentions body

def Template.allMentions : List Template → List Mention
  | [] => []
  | template :: rest => template.mentions ++ Template.allMentions rest

end

/-! ## The name of an entry point -/

/-- Does every interval of one list lie within one of another list? Both lists are gone through in
step. -/
def coveredBy : Ranges → Ranges → Bool
  | [], _ => true
  | inner :: rest, outers =>
    let outers := outers.dropWhile fun outer => Nat.blt outer.2 inner.1
    (outers.head?.any fun outer => Nat.ble outer.1 inner.1 && Nat.ble inner.2 outer.2) &&
      coveredBy rest outers

theorem contains_of_coveredBy {inners outers : Ranges} (covered : coveredBy inners outers = true)
    {point : Nat} (inside : inners.contains point = true) : outers.contains point = true := by
  induction inners generalizing outers with
  | nil => cases inside
  | cons inner rest inductionHypothesis =>
      rw [coveredBy, Bool.and_eq_true, Option.any_eq_true] at covered
      obtain ⟨⟨outer, first, covers⟩, others⟩ := covered
      have kept : ∀ interval ∈ outers.dropWhile fun outer => Nat.blt outer.2 inner.1,
          interval ∈ outers := fun _ member => (List.dropWhile_suffix _).subset member
      obtain ⟨interval, member, low, high⟩ := Ranges.contains_iff.1 inside
      rcases List.mem_cons.1 member with rfl | later
      · rw [Bool.and_eq_true, Nat.ble_eq, Nat.ble_eq] at covers
        exact Ranges.contains_iff.2 ⟨outer, kept outer (List.mem_of_mem_head? first),
          covers.1.trans low, high.trans covers.2⟩
      · obtain ⟨found, among, within⟩ := Ranges.contains_iff.1
          (inductionHypothesis others (Ranges.contains_iff.2 ⟨interval, later, low, high⟩))
        exact Ranges.contains_iff.2 ⟨found, kept found among, within⟩

/-- A character that begins identifiers may also follow in them. -/
theorem isIdentifierContinue_of_start {c : Char} (start : isIdentifierStart c = true) :
    isIdentifierContinue c = true := by
  by_cases ascii : c.toNat < 128
  · exact forall_ascii (fun c => isIdentifierStart c = true → isIdentifierContinue c = true)
      (by decide +kernel) ascii start
  · have covered : coveredBy identifierStartTable identifierContinueTable = true := by
      decide +kernel
    unfold isIdentifierStart at start
    unfold isIdentifierContinue
    rw [if_neg ascii] at start ⊢
    exact contains_of_coveredBy covered start

/-- With an identifier for the module, the entry point has one for its name. -/
theorem isIdentifier_entryPointName {name : String} (isName : isIdentifier name = true) :
    isIdentifier (entryPointName name) = true := by
  obtain ⟨first, rest, spelling, -, named⟩ := exists_cons_of_isIdentifier isName
  have continues : ∀ c ∈ name.toList, isIdentifierContinue c = true := by
    rw [spelling]
    exact fun c member => (named c member).elim isIdentifierContinue_of_start id
  have letters : (entryPointName name).toList = 'P' :: ("yInit_".toList ++ name.toList) :=
    String.toList_append
  unfold isIdentifier
  rw [letters, Bool.and_eq_true, Bool.not_eq_true']
  constructor
  · have fixed : "yInit_".toList.all isIdentifierContinue = true := by decide
    rw [spellsIdentifier, List.all_append, fixed, List.all_eq_true.2 continues]
    rfl
  · rw [← Bool.not_eq_true, List.contains_iff_mem]
    intro reserved
    have others : ∀ word ∈ reservedWords, word.toList.head? ≠ some 'P' := by decide
    exact others _ reserved (by rw [letters]; rfl)

/-! ## Mentions in an entry point -/

namespace EntryPoint

/-- What an entry point mentions, in order: its own name once, the runtime twice, and the module's
function within the anonymous function; everything else are its own locals. -/
def mentions (entryPoint : EntryPoint) : List Mention :=
  [.assigned "NAME", .assigned "DOC", .assigned "cell",
    .lookup (entryPointName entryPoint.name) [], .lookup "cell" [], .lookup "cell" [],
    .lookup entryPoint.runtime [], .lookup "NAME" [], .lookup "DOC" [], .assigned "MODULE_DEF",
    .lookup "cell" [], .lookup entryPoint.runtime [], .lookup "MODULE_DEF" ["_py"],
    .lookup "_py" ["_py"], .lookup entryPoint.initializer ["_py"]]

variable {entryPoint : EntryPoint}

theorem allMentions_body : Template.allMentions entryPoint.body = entryPoint.mentions := rfl

theorem mentions_of_isLine {texts : List String} {statement : Statement}
    (line : IsLine texts statement) : statement.mentions = Reading.start.mentions texts := by
  obtain ⟨form, phrase, rfl, texts⟩ := line
  rw [Statement.mentions, List.flatMap_singleton, Phrase.mentions, texts]

theorem mentions_of_isCondition {texts inner : List String} {statement : Statement}
    (condition : IsCondition texts inner statement) :
    statement.mentions = Reading.start.mentions texts ++ Reading.start.mentions inner := by
  obtain ⟨phrase, line, rfl, texts, isLine⟩ := condition
  rw [Statement.mentions, Suite.mentions, Statement.allMentions, mentions_of_isLine isLine,
    Phrase.mentions, texts]
  simp [Statement.allMentions, Statement.mentionsOfClauses]

theorem mentions_prose : Reading.start.mentions (documentationSpelling.map Prod.snd) = [] := by
  have noName : isIdentifier (String.ofList documentationText) = false := by
    unfold isIdentifier spellsIdentifier
    rw [String.toList_ofList]
    rfl
  unfold documentationSpelling
  simp [Reading.mentions, Reading.mention, noName]

/-- The assignment of a literal. -/
theorem mentions_literal (target : String)
    (assigns : ∀ rest, Reading.start.mentions (target :: "=" :: rest) =
      .assigned target :: Reading.start.mentions rest) (value : Points) :
    Reading.start.mentions [target, "=", String.ofList (quote value)] = [.assigned target] := by
  rw [assigns, Reading.mentions_of_literal rfl]
  rfl

section
variable (isName : isIdentifier (entryPointName entryPoint.name) = true)
  (isRuntime : isIdentifier entryPoint.runtime = true)
  (isInitializer : isIdentifier entryPoint.initializer = true)

include isName in
theorem mentions_cell :
    Reading.start.mentions (entryPoint.cellSpelling.map Prod.snd) =
      [.assigned "cell", .lookup (entryPointName entryPoint.name) []] := by
  have assigns : ∀ rest, Reading.start.mentions ("cell" :: "=" :: rest) =
      .assigned "cell" :: Reading.start.mentions rest := fun _ => rfl
  unfold cellSpelling
  simp only [List.map_cons, List.map_nil]
  rw [assigns, Reading.mentions_of_name rfl isName (by decide)]
  rfl

include isRuntime in
theorem mentions_definition :
    Reading.start.mentions (entryPoint.definitionSpelling.map Prod.snd) =
      [.lookup "cell" [], .lookup entryPoint.runtime [], .lookup "NAME" [], .lookup "DOC" []] := by
  have item : ∀ rest, Reading.start.mentions
      ("cell" :: "[" :: cellKey :: "]" :: "=" :: rest) =
        .lookup "cell" [] :: Reading.start.mentions rest := fun _ => rfl
  unfold definitionSpelling itemSpelling
  simp only [List.map_cons, List.map_nil, List.cons_append, List.nil_append]
  rw [item, Reading.mentions_of_name rfl isRuntime (by decide)]
  rfl

include isRuntime isInitializer in
theorem mentions_result :
    Reading.start.mentions (entryPoint.resultSpelling.map Prod.snd) =
      [.lookup entryPoint.runtime [], .lookup "MODULE_DEF" ["_py"], .lookup "_py" ["_py"],
        .lookup entryPoint.initializer ["_py"]] := by
  have word : ∀ rest, Reading.start.mentions ("return" :: rest) = Reading.start.mentions rest :=
    fun _ => rfl
  have inner : ∀ rest, Reading.start.mentions ("." :: "handle_panic" :: "(" :: "lambda" :: "_py" ::
      ":" :: "MODULE_DEF" :: "." :: "make_module" :: "(" :: "_py" :: "," :: rest) =
        .lookup "MODULE_DEF" ["_py"] :: .lookup "_py" ["_py"] ::
          Reading.mentions ⟨2, [(1, "_py")], .operand⟩ rest := fun _ => rfl
  unfold resultSpelling
  simp only [List.map_cons, List.map_nil]
  rw [word, Reading.mentions_of_name rfl isRuntime (by decide), inner,
    Reading.mentions_of_name rfl isInitializer (by decide)]
  rfl

include isName isRuntime isInitializer in
/-- Statements of the given forms mention the names of an entry point. -/
theorem mentions_of_forms {nameValue documentation : Points} {statements : List Statement}
    (forms : HaveForms (entryPoint.statementForms (String.ofList (quote nameValue))
      (String.ofList (quote documentation))) statements) :
    Statement.allMentions statements = entryPoint.mentions := by
  unfold HaveForms statementForms at forms
  simp only [List.forall₂_cons_left_iff, List.forall₂_nil_left_iff] at forms
  obtain ⟨prose, _, isProse, ⟨name, _, isNameLine, ⟨text, _, isText, ⟨cell, _, isCell, ⟨condition, _,
    isCondition, ⟨selection, _, isSelection, ⟨result, _, isResult, rfl, rfl⟩, rfl⟩, rfl⟩, rfl⟩, rfl⟩,
    rfl⟩, rfl⟩ := forms
  have conditionMentions : Reading.start.mentions (conditionSpelling.map Prod.snd) =
    [.lookup "cell" []] := rfl
  have selectionMentions : Reading.start.mentions (selectionSpelling.map Prod.snd) =
    [.assigned "MODULE_DEF", .lookup "cell" []] := rfl
  simp only [Statement.allMentions, mentions_of_isLine isProse, mentions_of_isLine isNameLine,
    mentions_of_isLine isText, mentions_of_isLine isCell, mentions_of_isCondition isCondition,
    mentions_of_isLine isSelection, mentions_of_isLine isResult, mentions_prose, conditionMentions,
    selectionMentions, mentions_literal "NAME" (fun _ => rfl), mentions_literal "DOC" (fun _ => rfl),
    mentions_cell isName, mentions_definition isRuntime, mentions_result isRuntime isInitializer]
  rfl

end

/-! ## Scopes of an entry point -/

def locals : List String := ["NAME", "DOC", "cell", "MODULE_DEF"]

theorem filterMap_mentions :
    entryPoint.mentions.filterMap Mention.binding? =
      locals.map fun name => (name, .assignment) := rfl

section
variable {normal : NormalForm}

/-- No local has the name of an entry point. -/
theorem not_same_local {name : String} (isLocal : name ∈ locals) (module : String) :
    ¬ normal.Same name (entryPointName module) := by
  have letters : (entryPointName module).toList =
      'P' :: 'y' :: ("Init_".toList ++ module.toList) := String.toList_append
  have allAscii : (locals.all fun name => name.toList.all fun c => decide (c.toNat < 128)) = true := by
    decide
  have ascii : ∀ c ∈ name.toList, c.toNat < 128 := fun c member =>
    of_decide_eq_true (List.all_eq_true.1 (List.all_eq_true.1 allAscii name isLocal) c member)
  have others : ∀ name ∈ locals, name.toList.head? ≠ some 'P' := by decide
  intro same
  unfold NormalForm.Same at same
  rw [letters, normal.of_cons _ (by decide) (by decide), normal.of_ascii ascii] at same
  exact others name isLocal (congrArg List.head? same)

/-- An entry point is bound to itself where it looks up its own name. -/
theorem resolve?_own :
    resolve? normal (scopes (entryPointName entryPoint.name) [] entryPoint.mentions [])
      (entryPointName entryPoint.name) = some .itself := by
  unfold scopes
  rw [filterMap_mentions]
  refine (resolve?_cons_of_none (find?_eq_none_iff.2 ?_)).trans
    (resolve?_cons_of_some (find?_append_of_same [] rfl))
  intro binding member
  obtain ⟨name, isLocal, rfl⟩ := List.mem_map.1 member
  exact not_same_local isLocal _

end

/-- What is read from the code of an entry point: its header, what it mentions, and its scopes. -/
theorem exists_parse_eq {entryPoint : EntryPoint} (isName : isIdentifier entryPoint.name = true)
    (isRuntime : isIdentifier entryPoint.runtime = true)
    (isInitializer : isIdentifier entryPoint.initializer = true)
    (terminates : entryPoint.documentation.getLast? = some terminator) :
    ∃ function, entryPoint.parse = .ok function ∧
      function.signature.phrase.map Lexeme.text =
        ["def", entryPointName entryPoint.name, "(", ")", ":"] ∧
      function.body.mentions = entryPoint.mentions ∧
      ∀ normal around name, function.binder? normal [] around name =
        resolve? normal (scopes (entryPointName entryPoint.name) [] entryPoint.mentions around)
          name := by
  have isEntryPoint := isIdentifier_entryPointName isName
  obtain ⟨signature, statements, read, named, header, forms⟩ :=
    parse_of_identifiers isEntryPoint isRuntime isInitializer terminates
  have mentioned : (Suite.block .plain none statements []).mentions = entryPoint.mentions :=
    mentions_of_forms isEntryPoint isRuntime isInitializer forms
  refine ⟨_, read, header, mentioned, ?_⟩
  intro normal around name
  unfold Function.binder?
  rw [mentioned, named]

/-- **What the names in an entry point are bound to.** Its own name is bound to itself. The name of
the runtime is bound outside exactly if neither a local nor the entry point has it; and the name of
the module's function, exactly if the parameter around it has not got it either. The names in the
code are those that the parts of the template tell. -/
theorem parse_resolves (normal : NormalForm) (entryPoint : EntryPoint)
    (isName : isIdentifier entryPoint.name = true)
    (isRuntime : isIdentifier entryPoint.runtime = true)
    (isInitializer : isIdentifier entryPoint.initializer = true)
    (terminates : entryPoint.documentation.getLast? = some terminator) :
    ∃ function, entryPoint.parse = .ok function ∧
      function.signature.phrase.map Lexeme.text =
        ["def", entryPointName entryPoint.name, "(", ")", ":"] ∧
      function.body.mentions = entryPoint.mentions ∧
      Template.allMentions entryPoint.body = entryPoint.mentions ∧
      function.binder? normal [] [] (entryPointName entryPoint.name) = some .itself ∧
      (function.binder? normal [] [] entryPoint.runtime = none ↔
        ∀ other ∈ locals ++ [entryPointName entryPoint.name],
          ¬ normal.Same other entryPoint.runtime) ∧
      (function.binder? normal [] ["_py"] entryPoint.initializer = none ↔
        ∀ other ∈ "_py" :: (locals ++ [entryPointName entryPoint.name]),
          ¬ normal.Same other entryPoint.initializer) := by
  obtain ⟨function, read, header, mentioned, binds⟩ :=
    exists_parse_eq isName isRuntime isInitializer terminates
  refine ⟨function, read, header, mentioned, allMentions_body, ?_⟩
  simp only [binds]
  exact ⟨resolve?_own, resolve?_scopes_eq_none_iff, resolve?_scopes_eq_none_iff⟩

/-- The entry point of a module `demo`. -/
def ofInitializer (initializer : String) : EntryPoint :=
  ⟨initializer, "demo", [terminator], "_pyglue"⟩

theorem parse_resolves_demo :
    isIdentifier (ofInitializer "init_demo").name = true ∧
    isIdentifier (ofInitializer "init_demo").runtime = true ∧
    isIdentifier (ofInitializer "init_demo").initializer = true ∧
    (ofInitializer "init_demo").documentation.getLast? = some terminator ∧
    ∃ function, (ofInitializer "init_demo").parse = .ok function ∧
      function.body.mentions = (ofInitializer "init_demo").mentions ∧
      function.binder? .exact [] [] "PyInit_demo" = some .itself ∧
      function.binder? .exact [] [] "_pyglue" = none ∧
      function.binder? .exact [] ["_py"] "init_demo" = none := by
  refine ⟨by decide, by decide, by decide, by decide, ?_⟩
  obtain ⟨function, read, -, mentioned, -, own, runtime, initializer⟩ :=
    parse_resolves .exact (ofInitializer "init_demo") (by decide) (by decide) (by decide)
      (by decide)
  exact ⟨function, read, mentioned, own, runtime.2 (by decide), initializer.2 (by decide)⟩

/-- A module's function with the name of a local is not what is handed to the runtime. -/
theorem initializer_captured :
    ∃ function, (ofInitializer "cell").parse = .ok function ∧
      function.body.mentions.getLast? = some (.lookup "cell" ["_py"]) ∧
      function.binder? .exact [] ["_py"] "cell" = some .assignment := by
  obtain ⟨function, read, -, mentioned, binds⟩ :=
    exists_parse_eq (show isIdentifier (ofInitializer "cell").name = true by decide) (by decide)
      (by decide) (by decide)
  refine ⟨function, read, ?_, ?_⟩
  · rw [mentioned]
    rfl
  · rw [binds]
    decide

end EntryPoint

end ModuleGlue.Expansion
