import ModuleGlue.Proofs.Expansion.GeneratedTexts
import ModuleGlue.Proofs.Source.NameScopes

/-!
Contract: what the names in a wrapper are bound to.

A wrapper has two names of its own: its parameter, which receives the module, and the function of
which it holds a copy. The copy is defined last, so its name is bound to it whatever else has that
name. The name of the runtime and that of the parameter are bound as they were meant only if the
function has another name.

Decorators, defaults and annotations of the copy are evaluated in the wrapper before the copy is
defined. What they assign, if anything, is left open.

Main statement: `build_resolves` (the names that are looked up in a wrapper, and what each of them is
bound to).

Owns: the mentions in a wrapper, and its scopes.

Does not own: how names are bound in general, and what the arguments of the call are.
-/

namespace ModuleGlue.Expansion

open ModuleGlue.Directive (Options)
open ModuleGlue.Source
open ModuleGlue.Text

/-! ## Mentions in a call -/

def inCall : Reading := ⟨1, [], .operand⟩

namespace Keyword

/-- The value of a keyword mentions a name if it is one. -/
def mentions : Keyword → List Mention
  | word _ value => if isIdentifier value then [.lookup value []] else []
  | literal _ _ => []

end Keyword

/-- A keyword mentions what its value does. -/
theorem mentions_keyword {keyword : Keyword} (wellformed : keyword.Wellformed) {next : String}
    (noEquals : next ≠ "=") (rest : List String) :
    inCall.mentions (keyword.spelling.map Prod.snd ++ next :: rest) =
      keyword.mentions ++ inCall.mentions (next :: rest) := by
  have comma : ∀ rest, inCall.mentions ("," :: rest) = inCall.mentions rest := fun _ => rfl
  have front : ∀ rest, inCall.mentions (keyword.spelling.map Prod.snd ++ rest) =
      inCall.mentions (keyword.valueSpelling.2 :: rest) := by
    intro rest
    unfold Keyword.spelling
    simp only [List.map_cons, List.map_nil, List.cons_append, List.nil_append]
    rw [comma, Reading.mentions_of_key rfl wellformed.key (by decide)]
  rw [front]
  cases keyword with
  | literal key value => exact Reading.mentions_of_literal rfl value _
  | word key value =>
      unfold Keyword.valueSpelling Keyword.mentions
      dsimp only
      rcases (wellformed.value key value rfl).2 with isName | rfl | rfl
      · rw [if_pos isName, Reading.mentions_of_name rfl isName noEquals]
        rfl
      · exact Reading.mentions_of_silent rfl (by decide) (by decide) _
      · exact Reading.mentions_of_silent rfl (by decide) (by decide) _

/-- Behind another argument, keywords go on with a comma or a closing bracket. -/
theorem keywords_eq_cons (keywords : List Keyword) :
    ∃ next rest, next ≠ "=" ∧
      (keywords.flatMap Keyword.spelling ++ [(TokenKind.operator, ")")]).map Prod.snd = next :: rest := by
  cases keywords with
  | nil => exact ⟨")", [], by decide, rfl⟩
  | cons keyword others => exact ⟨",", _, by decide, rfl⟩

theorem mentions_keywords {keywords : List Keyword}
    (wellformed : ∀ keyword ∈ keywords, keyword.Wellformed) :
    inCall.mentions ((keywords.flatMap Keyword.spelling ++ [(TokenKind.operator, ")")]).map Prod.snd) =
      keywords.flatMap Keyword.mentions := by
  induction keywords with
  | nil => rfl
  | cons keyword others inductionHypothesis =>
      obtain ⟨next, rest, noEquals, behind⟩ := keywords_eq_cons others
      have mentioned := inductionHypothesis fun other member =>
        wellformed other (List.mem_cons_of_mem _ member)
      rw [List.flatMap_cons, List.flatMap_cons, List.append_assoc, List.map_append, behind,
        mentions_keyword (wellformed keyword List.mem_cons_self) noEquals, ← behind, mentioned]

/-- A call mentions the runtime, the function, and what its keywords mention. -/
theorem mentions_callSpelling {runtime function : String} {keywords : List Keyword}
    (isRuntime : isIdentifier runtime = true) (isFunction : isIdentifier function = true)
    (wellformed : ∀ keyword ∈ keywords, keyword.Wellformed) :
    Reading.start.mentions ((callSpelling runtime function keywords).map Prod.snd) =
      .lookup runtime [] :: .lookup function [] :: keywords.flatMap Keyword.mentions := by
  have member : ∀ rest, Reading.start.mentions ("." :: "PyCFunction" :: "(" :: rest) =
      inCall.mentions rest := fun _ => rfl
  obtain ⟨next, rest, noEquals, behind⟩ := keywords_eq_cons keywords
  unfold callSpelling
  simp only [List.map_cons]
  rw [Reading.mentions_of_name rfl isRuntime (by decide), member, behind,
    Reading.mentions_of_name rfl isFunction noEquals, ← behind, mentions_keywords wellformed]
  rfl

/-- Of the options none mentions a name. -/
theorem mentions_callKeywords (function : String) (options : Options) :
    (callKeywords function options).flatMap Keyword.mentions =
      [.lookup Wrapper.parameter []] := by
  unfold callKeywords
  rw [List.flatMap_append, List.flatMap_append]
  have fixed : [Keyword.literal "name" (Points.ofString (options.externalName.getD function)),
      .word "module" Wrapper.parameter].flatMap Keyword.mentions =
        [.lookup Wrapper.parameter []] := rfl
  have flag : (if options.passModule then [Keyword.word "pass_module" "True"] else []).flatMap
      Keyword.mentions = [] := by
    cases options.passModule <;> rfl
  rw [fixed, flag, List.append_nil]
  cases options.textSignature with
  | none => rfl
  | some signature =>
      obtain ⟨value, span⟩ := signature
      cases value <;> rfl

/-! ## Wrappers -/

namespace Wrapper

/-- What the wrapper of a function mentions: it defines the copy, and looks up the runtime, the copy
and the module. -/
def mentions (runtime function : String) : List Mention :=
  [.defined function, .lookup runtime [], .lookup function [], .lookup parameter []]

/-- What binds a name where a wrapper returns, if some names are assigned before the copy is
defined. -/
def binder? (normal : NormalForm) (wrapper : Wrapper) (assigned : List String) (name : String) :
    Option Binder :=
  resolve? normal (scopes wrapper.name [parameter]
    (assigned.map .assigned ++ wrapper.definition.body.mentions) []) name

theorem mentions_define {runtime : String} {function : Function} {options : Options} {code : Phrase}
    (isRuntime : isIdentifier runtime = true)
    (isFunction : isIdentifier function.signature.name = true)
    (texts : code.map Lexeme.text = (callSpelling runtime function.signature.name
      (callKeywords function.signature.name options)).map Prod.snd) :
    (define function code).definition.body.mentions =
      mentions runtime function.signature.name := by
  have word : ∀ rest, Reading.start.mentions ("return " :: rest) = Reading.start.mentions rest :=
    Reading.mentions_of_silent rfl (by decide) (by decide)
  have result : Phrase.mentions (verbatim "return " ++ code) =
      [.lookup runtime [], .lookup function.signature.name [], .lookup parameter []] := by
    have front : (verbatim "return " ++ code).map Lexeme.text =
        "return " :: code.map Lexeme.text := rfl
    unfold Phrase.mentions
    rw [front, texts, word, mentions_callSpelling isRuntime isFunction
      (callKeywords_wellformed function.signature.name options), mentions_callKeywords]
  unfold define
  simp only [Suite.mentions, Statement.allMentions, Statement.mentions, Function.toStatement,
    Function.withLeading, List.flatMap_cons, List.flatMap_nil, List.append_nil, result]
  rfl

/-- What is bound in a wrapper, besides its parameter. -/
theorem bindings_eq (runtime function : String) (assigned : List String) :
    (assigned.map Mention.assigned ++ mentions runtime function).filterMap Mention.binding? =
      assigned.map (fun name => (name, Binder.assignment)) ++ [(function, .definition)] := by
  rw [List.filterMap_append, List.filterMap_map]
  congr 1
  exact congrFun List.filterMap_eq_map assigned

section
variable {normal : NormalForm} {wrapper : Wrapper} {runtime function : String}
  (mentioned : wrapper.definition.body.mentions = mentions runtime function)
include mentioned

/-- The scopes where a wrapper returns. -/
theorem scopes_eq (assigned : List String) :
    scopes wrapper.name [parameter] (assigned.map .assigned ++ wrapper.definition.body.mentions) [] =
      [((parameter, .parameter) :: assigned.map fun name => (name, .assignment)) ++
        [(function, .definition)], [(wrapper.name, .itself)]] := by
  unfold scopes
  rw [mentioned, bindings_eq]
  rfl

/-- A name that the function has is bound to the copy. -/
theorem binder?_of_same (assigned : List String) {name : String}
    (same : normal.Same function name) :
    wrapper.binder? normal assigned name = some .definition := by
  unfold binder?
  rw [scopes_eq mentioned]
  exact resolve?_cons_of_some (find?_append_of_same _ same)

/-- The name of the parameter is bound to it exactly if nothing that is bound later has that name. -/
theorem binder?_parameter_iff (assigned : List String) :
    wrapper.binder? normal assigned parameter = some .parameter ↔
      ∀ other ∈ assigned ++ [function], ¬ normal.Same other parameter := by
  have others : ∀ binding ∈ assigned.map (fun name => (name, Binder.assignment)) ++
      [(function, Binder.definition)], binding.2 ≠ Binder.parameter := by
    intro binding member
    rcases List.mem_append.1 member with early | last
    · obtain ⟨name, -, rfl⟩ := List.mem_map.1 early
      nofun
    · obtain rfl := List.mem_singleton.1 last
      nofun
  have own : normal.Same parameter parameter := rfl
  obtain ⟨binder, found⟩ : ∃ binder, Scope.find? normal ((parameter, .parameter) ::
      (assigned.map (fun name => (name, Binder.assignment)) ++ [(function, .definition)]))
      parameter = some binder :=
    Option.ne_none_iff_exists'.1 fun none =>
      find?_eq_none_iff.1 none (parameter, .parameter) List.mem_cons_self own
  unfold binder?
  rw [scopes_eq mentioned, List.cons_append, resolve?_cons_of_some found, ← found,
    find?_cons_eq_some_iff own others]
  simp [or_imp, forall_and]

/-- A name is bound outside of a wrapper exactly if neither the wrapper nor anything in it has that
name. -/
theorem binder?_eq_none_iff (assigned : List String) {name : String} :
    wrapper.binder? normal assigned name = none ↔
      ∀ other ∈ parameter :: (assigned ++ [function, wrapper.name]), ¬ normal.Same other name := by
  have names : boundNames (assigned.map .assigned ++ mentions runtime function) =
      assigned ++ [function] := by
    unfold boundNames
    rw [bindings_eq, List.map_append, List.map_map]
    simp [Function.comp_def]
  unfold binder?
  rw [mentioned, resolve?_scopes_eq_none_iff, names]
  simp

end

end Wrapper

/-! ## Main statement -/

/-- **What the names in a wrapper are bound to.** Its only parameter is that for the module, and it
returns a call of the runtime. In that call the name of the function is bound to the copy. The name
of the parameter is bound to the parameter exactly if the function has another name, and the name of
the runtime is bound outside exactly if it is that of neither the parameter nor the function nor the
wrapper; unless decorators, defaults or annotations of the copy assign these names. -/
theorem build_resolves (normal : NormalForm) (runtime : String) (function : Function)
    (options : Options) (isRuntime : isIdentifier runtime = true)
    (isFunction : isIdentifier function.signature.name = true) :
    if options.passModule && !function.signature.takesPositional then
      Wrapper.build runtime function options =
        .error (.broken (.grammar (.noModuleParameter function.signature.name) none))
    else ∃ wrapper, Wrapper.build runtime function options = .ok wrapper ∧
      wrapper.name = Wrapper.nameOf function.signature.name ∧
      wrapper.definition.signature.phrase =
        verbatim ("def " ++ wrapper.name ++ "(" ++ Wrapper.parameter ++ "):") ∧
      wrapper.Returns function runtime (callArguments function.signature.name options) ∧
      wrapper.definition.body.mentions = Wrapper.mentions runtime function.signature.name ∧
      ∀ assigned,
        (wrapper.binder? normal assigned runtime = none ↔
          ∀ other ∈ Wrapper.parameter :: (assigned ++ [function.signature.name, wrapper.name]),
            ¬ normal.Same other runtime) ∧
        (wrapper.binder? normal assigned Wrapper.parameter = some .parameter ↔
          ∀ other ∈ assigned ++ [function.signature.name],
            ¬ normal.Same other Wrapper.parameter) ∧
        wrapper.binder? normal assigned function.signature.name = some .definition := by
  have built := build_of_spelling options isRuntime isFunction
  split
  · rename_i broken
    rw [if_pos broken] at built
    exact built
  · rename_i kept
    rw [if_neg kept] at built
    obtain ⟨code, built, texts⟩ := built
    have mentioned := Wrapper.mentions_define isRuntime isFunction texts
    exact ⟨_, built, rfl, rfl, define_returns isFunction texts, mentioned, fun assigned =>
      ⟨Wrapper.binder?_eq_none_iff mentioned assigned,
        Wrapper.binder?_parameter_iff mentioned assigned,
        Wrapper.binder?_of_same mentioned assigned rfl⟩⟩

/-- A function of the given name that returns its argument. -/
def identityNamed (name : String) : Function :=
  ⟨⟨[], [], []⟩, ⟨name, true, verbatim ("def " ++ name ++ "(a):"), none⟩,
    .block .plain none [simpleLine "return a"] []⟩

theorem build_resolves_add :
    isIdentifier "_pyglue" = true ∧ isIdentifier (identityNamed "add").signature.name = true ∧
    ∃ wrapper, Wrapper.build "_pyglue" (identityNamed "add") .empty = .ok wrapper ∧
      wrapper.binder? .exact [] "_pyglue" = none ∧
      wrapper.binder? .exact [] Wrapper.parameter = some .parameter ∧
      wrapper.binder? .exact [] "add" = some .definition := by
  obtain ⟨wrapper, built, named, -, -, -, resolved⟩ :=
    build_resolves .exact "_pyglue" (identityNamed "add") .empty (by decide) (by decide)
  obtain ⟨runtime, parameter, copy⟩ := resolved []
  refine ⟨by decide, by decide, wrapper, built, runtime.2 ?_, parameter.2 (by decide), copy⟩
  rw [named]
  decide

/-- A function with the name of the parameter is given to the runtime as the module, and one with the
name of the runtime is taken for the runtime. -/
theorem parameter_captured :
    (∃ wrapper, Wrapper.build "_pyglue" (identityNamed "_pyglue_module") .empty = .ok wrapper ∧
      wrapper.binder? .exact [] Wrapper.parameter = some .definition) ∧
    ∃ wrapper, Wrapper.build "_pyglue" (identityNamed "_pyglue") .empty = .ok wrapper ∧
      wrapper.binder? .exact [] "_pyglue" = some .definition := by
  have captured : ∀ {name : String}, isIdentifier name = true →
      ∃ wrapper, Wrapper.build "_pyglue" (identityNamed name) .empty = .ok wrapper ∧
        wrapper.binder? .exact [] name = some .definition := by
    intro name isName
    have isRuntime : isIdentifier "_pyglue" = true := by decide
    have isFunction : isIdentifier (identityNamed name).signature.name = true := isName
    obtain ⟨code, built, texts⟩ := build_of_spelling .empty isRuntime isFunction
    exact ⟨_, built, Wrapper.binder?_of_same
      (Wrapper.mentions_define isRuntime isFunction texts) [] rfl⟩
  exact ⟨captured (by decide), captured (by decide)⟩

end ModuleGlue.Expansion
