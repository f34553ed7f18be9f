import ModuleGlue.Proofs.Text.Quoted
import ModuleGlue.Source.Tree
import ModuleGlue.Text.CharClass

/-!
Contract: what the names in a function are bound to.

The names that a function assigns or defines are local to it, as its parameters are; the parameter of
an anonymous function is local to that. A name is bound by the innermost scope that has it, and there
by the last binding of it. Two names are the same if they have the same normal form.

The tokens of a line tell where names are mentioned: a name behind a point is a member, a name in
front of an equals sign is assigned or, within brackets, the key of an argument, and any other name
is looked up. This reading covers expressions made of names, literals, members, items, calls and
anonymous functions of one parameter, and statements that assign to names, return, or test.

Main statement: `resolve?_scopes_eq_none_iff` (a name is bound outside of a function exactly if
nothing around the place, in the function or behind its definition has it).

Owns: normal forms, mentions of names, and scopes.

Does not own: the code that is generated.
-/

namespace ModuleGlue.Source

open ModuleGlue.Text (Points isIdentifier quote quote_eq spellsIdentifier)

/-! ## Names that are the same -/

/-- A normal form of texts. An ASCII character is its own normal form, and joins with nothing in
front of it. -/
structure NormalForm where
  of : List Char → List Char
  ascii : ∀ c : Char, c.toNat < 128 → of [c] = [c]
  split : ∀ (front behind : List Char) (c : Char), c.toNat < 128 →
    of (front ++ c :: behind) = of front ++ of (c :: behind)

namespace NormalForm

def exact : NormalForm where
  of := id
  ascii _ _ := rfl
  split _ _ _ _ := rfl

variable (normal : NormalForm)

def Same (name other : String) : Prop := normal.of name.toList = normal.of other.toList

instance (name other : String) : Decidable (normal.Same name other) :=
  inferInstanceAs (Decidable (_ = _))

theorem of_nil : normal.of [] = [] := by
  have split := normal.split [] [] 'a' (by decide)
  rw [List.nil_append, normal.ascii 'a' (by decide)] at split
  exact List.append_left_eq_self.1 split.symm

theorem of_cons {c d : Char} (behind : List Char) (ascii : c.toNat < 128)
    (ascii' : d.toNat < 128) : normal.of (c :: d :: behind) = c :: normal.of (d :: behind) := by
  have split := normal.split [c] behind d ascii'
  rw [normal.ascii c ascii] at split
  exact split

/-- An ASCII text is its own normal form. -/
theorem of_ascii : ∀ {text : List Char}, (∀ c ∈ text, c.toNat < 128) → normal.of text = text
  | [], _ => normal.of_nil
  | [c], all => normal.ascii c (all c List.mem_cons_self)
  | c :: d :: behind, all => by
      rw [normal.of_cons behind (all c (by simp)) (all d (by simp)),
        of_ascii fun e member => all e (List.mem_cons_of_mem _ member)]

end NormalForm

/-! ## Mentions of names -/

inductive Mention where
  /-- The name is looked up, within anonymous functions of these parameters, innermost first. -/
  | lookup (name : String) (around : List String)
  /-- The name is assigned. -/
  | assigned (name : String)
  /-- The name is that of a function which is defined. -/
  | defined (name : String)
deriving DecidableEq, Repr

/-- What a name would be, if it came next. -/
inductive Expected where
  | operand
  | member
  | parameter
deriving DecidableEq, Repr

/-- Where a reading of tokens is: in how many brackets, in which anonymous functions, innermost
first, each with the number of brackets around it, and what it expects. -/
structure Reading where
  depth : Nat
  functions : List (Nat × String)
  expected : Expected
deriving DecidableEq, Repr

namespace Reading

def start : Reading := ⟨0, [], .operand⟩

/-- What a token mentions, if another one follows. -/
def mention (reading : Reading) (token : String) (next : Option String) : List Mention :=
  if reading.expected ≠ .operand || !isIdentifier token then []
  else if next = some "=" then if reading.depth = 0 then [.assigned token] else []
  else [.lookup token (reading.functions.map Prod.snd)]

/-- The reading behind a token. A comma ends the anonymous functions that stand in the same brackets,
and a closing bracket those that stand in it. -/
def after (reading : Reading) (token : String) : Reading :=
  match reading.expected with
  | .member => { reading with expected := .operand }
  | .parameter =>
    { reading with functions := (reading.depth, token) :: reading.functions, expected := .operand }
  | .operand =>
    if token = "lambda" then { reading with expected := .parameter }
    else if token = "." then { reading with expected := .member }
    else if ["(", "[", "\x7b"].contains token then { reading with depth := reading.depth + 1 }
    else if [")", "]", "\x7d"].contains token then
      { reading with
        depth := reading.depth - 1
        functions := reading.functions.filter (·.1 < reading.depth) }
    else if token = "," then
      { reading with functions := reading.functions.filter (·.1 < reading.depth) }
    else reading

/-- The tokens that change a reading of operands. -/
def marks : List String := ["lambda", ".", "(", "[", "\x7b", ")", "]", "\x7d", ","]

def mentions (reading : Reading) : List String → List Mention
  | [] => []
  | token :: rest => reading.mention token rest.head? ++ (reading.after token).mentions rest

section
variable {reading : Reading} {token : String}

theorem after_of_plain (expects : reading.expected = .operand) (plain : token ∉ marks) :
    reading.after token = reading := by
  simp only [marks, List.mem_cons, List.not_mem_nil, or_false, not_or] at plain
  obtain ⟨noWord, noPoint, noRound, noSquare, noBrace, noRound', noSquare', noBrace', noComma⟩ :=
    plain
  unfold after
  rw [expects]
  dsimp only
  rw [if_neg noWord, if_neg noPoint, if_neg (by simp [noRound, noSquare, noBrace]),
    if_neg (by simp [noRound', noSquare', noBrace']), if_neg noComma]

/-- A token that is neither a name nor changes the reading. -/
theorem mentions_of_silent (expects : reading.expected = .operand)
    (noName : isIdentifier token = false) (plain : token ∉ marks) (rest : List String) :
    reading.mentions (token :: rest) = reading.mentions rest := by
  rw [mentions, after_of_plain expects plain]
  simp [mention, noName]

theorem not_mem_marks_of_isIdentifier (isName : isIdentifier token = true) : token ∉ marks := by
  intro member
  have noNames : ∀ mark ∈ marks, isIdentifier mark = false := by decide
  rw [noNames token member] at isName
  cases isName

/-- A name that is looked up. -/
theorem mentions_of_name (expects : reading.expected = .operand) (isName : isIdentifier token = true)
    {next : String} (noEquals : next ≠ "=") (rest : List String) :
    reading.mentions (token :: next :: rest) =
      .lookup token (reading.functions.map Prod.snd) :: reading.mentions (next :: rest) := by
  rw [mentions, after_of_plain expects (not_mem_marks_of_isIdentifier isName)]
  simp [mention, expects, isName, noEquals]

/-- The key of an argument. -/
theorem mentions_of_key (expects : reading.expected = .operand) (isName : isIdentifier token = true)
    (inside : reading.depth ≠ 0) (rest : List String) :
    reading.mentions (token :: "=" :: rest) = reading.mentions rest := by
  rw [mentions, after_of_plain expects (not_mem_marks_of_isIdentifier isName),
    mentions_of_silent expects (by decide) (by decide)]
  simp [mention, inside]

/-- A literal mentions nothing. -/
theorem mentions_of_literal (expects : reading.expected = .operand) (value : Points)
    (rest : List String) :
    reading.mentions (String.ofList (quote value) :: rest) = reading.mentions rest := by
  obtain ⟨delimiter, body, isQuote, -, same⟩ := quote_eq value
  have letters : (String.ofList (quote value)).toList = delimiter :: (body ++ [delimiter]) := by
    rw [String.toList_ofList, same]
  apply mentions_of_silent expects
  · unfold isIdentifier spellsIdentifier
    rw [letters]
    rcases isQuote with rfl | rfl <;> rfl
  · intro member
    have noQuote : ∀ mark ∈ marks, mark.toList.head? ≠ some '"' ∧ mark.toList.head? ≠ some '\'' := by
      decide
    have apart := noQuote _ member
    rw [letters, List.head?_cons] at apart
    rcases isQuote with rfl | rfl
    · exact apart.2 rfl
    · exact apart.1 rfl

end

end Reading

def Phrase.mentions (phrase : Phrase) : List Mention :=
  Reading.start.mentions (phrase.map Lexeme.text)

mutual

/-- What a statement mentions in the scope in which it stands. A function that is defined mentions
its name; what it holds is in a scope of its own. -/
def Statement.mentions : Statement → List Mention
  | .line _ parts _ => parts.flatMap (·.phrase.mentions)
  | .function _ signature _ => [.defined signature.name]
  | .compound _ header body clauses =>
    header.mentions ++ (body.mentions ++ Statement.mentionsOfClauses clauses)

def Statement.allMentions : List Statement → List Mention
  | [] => []
  | statement :: rest => statement.mentions ++ Statement.allMentions rest

def Statement.mentionsOfClauses : List Clause → List Mention
  | [] => []
  | .mk _ header body :: rest =>
    header.mentions ++ (body.mentions ++ Statement.mentionsOfClauses rest)

def Suite.mentions : Suite → List Mention
  | .inline parts _ => parts.flatMap (·.phrase.mentions)
  | .block _ _ body _ => Statement.allMentions body

end

/-! ## Scopes -/

inductive Binder where
  /-- As the parameter of an anonymous function. -/
  | argument
  /-- As a parameter of the function. -/
  | parameter
  /-- By an assignment in the function. -/
  | assignment
  /-- By the definition of a function in the function. -/
  | definition
  /-- By the definition of the function itself, in the scope around it. -/
  | itself
deriving DecidableEq, Repr

/-- Names with their binders, in the order in which they are bound. -/
abbrev Scope := List (String × Binder)

def Mention.binding? : Mention → Option (String × Binder)
  | .lookup _ _ => none
  | .assigned name => some (name, .assignment)
  | .defined name => some (name, .definition)

/-- The scopes at a place in a function, from the innermost on: those of the anonymous functions
around the place, that of the function, and what its definition adds to the scope around it. -/
def scopes (name : String) (parameters : List String) (mentions : List Mention)
    (around : List String) : List Scope :=
  around.map (fun parameter => [(parameter, .argument)]) ++
    [parameters.map (fun parameter => (parameter, .parameter)) ++
      mentions.filterMap Mention.binding?, [(name, .itself)]]

section
variable (normal : NormalForm)

/-- What binds a name in a scope: the last binding of it. -/
def Scope.find? (scope : Scope) (name : String) : Option Binder :=
  (scope.reverse.find? fun binding => decide (normal.Same binding.1 name)).map Prod.snd

/-- What binds a name in some scopes, of which the innermost comes first. -/
def resolve? (scopes : List Scope) (name : String) : Option Binder :=
  scopes.findSome? fun scope => scope.find? normal name

variable {normal} {name : String}

theorem find?_eq_none_iff {scope : Scope} :
    scope.find? normal name = none ↔ ∀ binding ∈ scope, ¬ normal.Same binding.1 name := by
  unfold Scope.find?
  rw [Option.map_eq_none_iff, List.find?_eq_none]
  simp

/-- The last binding of a name hides the ones before it. -/
theorem find?_append_of_same (front : Scope) {last : String × Binder}
    (same : normal.Same last.1 name) :
    Scope.find? normal (front ++ [last]) name = some last.2 := by
  unfold Scope.find?
  rw [List.reverse_append, List.reverse_singleton, List.singleton_append,
    List.find?_cons_of_pos (by simpa using same)]
  rfl

/-- A binding of a name counts exactly if no later one has the name, where the later ones are of
other kinds. -/
theorem find?_cons_eq_some_iff {first : String} {binder : Binder} {later : Scope}
    (same : normal.Same first name) (others : ∀ binding ∈ later, binding.2 ≠ binder) :
    Scope.find? normal ((first, binder) :: later) name = some binder ↔
      ∀ binding ∈ later, ¬ normal.Same binding.1 name := by
  rw [← find?_eq_none_iff]
  unfold Scope.find?
  rw [List.reverse_cons, List.find?_append, List.find?_singleton,
    if_pos (by simpa using same)]
  cases found : later.reverse.find? fun binding => decide (normal.Same binding.1 name) with
  | none => simp
  | some binding =>
      have member : binding ∈ later := List.mem_reverse.1 (List.mem_of_find?_eq_some found)
      simpa using others binding member

/-- A name is bound outside of some scopes exactly if no binding in them has it. -/
theorem resolve?_eq_none_iff {scopes : List Scope} :
    resolve? normal scopes name = none ↔
      ∀ binding ∈ scopes.flatten, ¬ normal.Same binding.1 name := by
  unfold resolve?
  simp only [List.findSome?_eq_none_iff, find?_eq_none_iff, List.mem_flatten]
  constructor
  · rintro none binding ⟨scope, member, inside⟩
    exact none scope member binding inside
  · intro none scope member binding inside
    exact none binding ⟨scope, member, inside⟩

/-- A name that an inner scope does not have is looked up in the others. -/
theorem resolve?_cons_of_none {scope : Scope} {others : List Scope}
    (absent : scope.find? normal name = none) :
    resolve? normal (scope :: others) name = resolve? normal others name := by
  unfold resolve?
  rw [List.findSome?_cons, absent]

theorem resolve?_cons_of_some {scope : Scope} {others : List Scope} {binder : Binder}
    (found : scope.find? normal name = some binder) :
    resolve? normal (scope :: others) name = some binder := by
  unfold resolve?
  rw [List.findSome?_cons, found]

def boundNames (mentions : List Mention) : List String :=
  (mentions.filterMap Mention.binding?).map Prod.fst

theorem names_scopes (own : String) (parameters : List String) (mentions : List Mention)
    (around : List String) :
    (scopes own parameters mentions around).flatten.map Prod.fst =
      around ++ (parameters ++ (boundNames mentions ++ [own])) := by
  unfold scopes boundNames
  have anonymous : (around.map fun parameter => [(parameter, Binder.argument)]).flatten.map
      Prod.fst = around := by
    rw [← List.flatMap_def, List.map_flatMap]
    exact List.flatMap_singleton' around
  rw [List.flatten_append, List.map_append, anonymous]
  simp [Function.comp_def]

/-- **A name is bound outside of a function exactly if nothing has it** around the place, in the
function or behind its definition. -/
theorem resolve?_scopes_eq_none_iff {own : String} {parameters : List String}
    {mentions : List Mention} {around : List String} :
    resolve? normal (scopes own parameters mentions around) name = none ↔
      ∀ other ∈ around ++ (parameters ++ (boundNames mentions ++ [own])),
        ¬ normal.Same other name := by
  rw [resolve?_eq_none_iff, ← names_scopes, List.forall_mem_map]

variable (normal) in
/-- What binds a name at a place in a function, which has the given parameters. -/
def Function.binder? (function : Function) (parameters around : List String) (name : String) :
    Option Binder :=
  resolve? normal (scopes function.signature.name parameters function.body.mentions around) name

end

end ModuleGlue.Source
