import ModuleGlue.Source.Parse
import ModuleGlue.Proofs.Outcome
import ModuleGlue.Proofs.Source.Functions
import ModuleGlue.Proofs.Source.Spelling

/-!
Contract: the functions of a file have names.

Main statement: `isIdentifier_of_read` (the name of every function in a file that was read is an
identifier, and no reserved word).

Owns: what the header of a function tells of its name, and the way of that name into the tree.

Does not own: everything else in the tree.
-/

namespace ModuleGlue.Source

open ModuleGlue.Text
open Reader

/-! ## What readers yield -/

section Yields

variable {α β : Type} {good : β → Prop} {tokens : List Token}

/-- Whatever a reader reads off the given tokens has a property. -/
def Yields (good : β → Prop) (reader : Reader β) (tokens : List Token) : Prop :=
  ∀ value rest, reader.run tokens = some (value, rest) → good value

theorem Yields.pure {value : β} (is : good value) : Yields good (pure value) tokens := by
  intro found rest read
  obtain ⟨rfl, -⟩ := Prod.mk.inj (Option.some.inj read)
  exact is

theorem Yields.failure : Yields good failure tokens :=
  fun _ _ read => nomatch read

theorem Yields.bind {reader : Reader α} {next : α → Reader β}
    (yields : ∀ value rest, reader.run tokens = some (value, rest) →
      Yields good (next value) rest) :
    Yields good (reader >>= next) tokens := by
  intro found rest read
  obtain ⟨⟨value, middle⟩, first, second⟩ := Option.bind_eq_some_iff.1 read
  exact yields value middle first found rest second

/-- What stands behind some reader may not matter. -/
theorem Yields.behind {reader : Reader α} {next : α → Reader β}
    (yields : ∀ value rest, Yields good (next value) rest) :
    Yields good (reader >>= next) tokens :=
  .bind fun value rest _ => yields value rest

theorem Yields.orElse {first second : Reader β} (yields : Yields good first tokens)
    (otherwise : Yields good second tokens) : Yields good (first <|> second) tokens := by
  intro found rest read
  cases tried : first.run tokens with
  | some result =>
      have read : (first.run tokens <|> second.run tokens) = some (found, rest) := read
      rw [tried] at read
      exact yields found rest (tried.trans read)
  | none =>
      have read : (first.run tokens <|> second.run tokens) = some (found, rest) := read
      rw [tried] at read
      exact otherwise found rest read

theorem Yields.ite {condition : Prop} [Decidable condition] {first second : Reader β}
    (yields : Yields good first tokens) (otherwise : Yields good second tokens) :
    Yields good (if condition then first else second) tokens := by
  split
  · exact yields
  · exact otherwise

end Yields

/-- A token that is taken is one of those pending, and satisfies the condition. -/
theorem mem_of_tokenIf {accepts : Token → Bool} {tokens rest : List Token} {token : Token}
    (read : (tokenIf accepts).run tokens = some (token, rest)) :
    token ∈ tokens ∧ accepts token = true := by
  cases tokens with
  | nil => cases read
  | cons first others =>
      have run : (tokenIf accepts).run (first :: others) =
          (if accepts first then (do set others; return first : Reader Token) else failure).run
            (first :: others) := rfl
      rw [run] at read
      split at read
      · rename_i accepted
        obtain ⟨rfl, -⟩ := Prod.mk.inj (Option.some.inj read)
        exact ⟨List.mem_cons_self, accepted⟩
      · cases read

/-- A word that may be there leaves some of the tokens. -/
theorem optionalKeyword_suffix {word : String} {tokens rest : List Token} {found : Bool}
    (read : (optionalKeyword word).run tokens = some (found, rest)) : rest <:+ tokens := by
  cases tokens with
  | nil =>
      obtain ⟨-, rfl⟩ := Prod.mk.inj (Option.some.inj read)
      exact List.suffix_refl []
  | cons token others =>
      cases is : isKeyword word token with
      | true =>
          have taken : (optionalKeyword word).run (token :: others) = some (true, others) := by
            simp [optionalKeyword, atKeyword, looksAt, keyword, tokenIf, is]
          rw [taken] at read
          obtain ⟨-, rfl⟩ := Prod.mk.inj (Option.some.inj read)
          exact List.suffix_cons token others
      | false =>
          have taken : (optionalKeyword word).run (token :: others) =
              some (false, token :: others) := by
            simp [optionalKeyword, atKeyword, looksAt, is]
          rw [taken] at read
          obtain ⟨-, rfl⟩ := Prod.mk.inj (Option.some.inj read)
          exact List.suffix_refl _

/-- What is read depends on whether a word is there; behind it the names are still well spelled. -/
theorem Yields.ifKeyword {β : Type} {good : β → Prop} {word : String} {first second : Reader β}
    {tokens : List Token} (spelled : WellSpelled tokens)
    (yields : ∀ rest, WellSpelled rest → Yields good first rest)
    (otherwise : ∀ rest, WellSpelled rest → Yields good second rest) :
    Yields good (do if ← optionalKeyword word then first else second) tokens := by
  refine .bind fun found rest read => ?_
  have left : WellSpelled rest :=
    fun token member => spelled token ((optionalKeyword_suffix read).mem member)
  exact .ite (yields rest left) (otherwise rest left)

/-! ## Headers -/

/-- If it is the kind of a function, its name is one. -/
def HeaderKind.Named : HeaderKind → Prop
  | .function name _ => isIdentifier name = true
  | _ => True

/-- If it is the line of a function, its name is one. -/
def ParsedLine.Named : ParsedLine → Prop
  | .header kind _ _ => kind.Named
  | _ => True

/-- A name that is read is an identifier. -/
theorem isIdentifier_of_reads_name {tokens rest : List Token} {found : String}
    (spelled : WellSpelled tokens) (read : name.run tokens = some (found, rest)) :
    isIdentifier found = true := by
  obtain ⟨⟨token, behind⟩, taken, same⟩ := Option.bind_eq_some_iff.1 read
  obtain ⟨member, is⟩ := mem_of_tokenIf taken
  obtain ⟨rfl, -⟩ := Prod.mk.inj (Option.some.inj same)
  obtain ⟨isName, free⟩ := Bool.and_eq_true_iff.1 is
  exact Bool.and_eq_true_iff.2 ⟨spelled token member (beq_iff_eq.1 isName), free⟩

theorem yields_functionHeader (inner : Inner) {tokens : List Token} (spelled : WellSpelled tokens) :
    Yields HeaderKind.Named (functionHeader inner) tokens := by
  unfold functionHeader
  refine .bind fun function _ read => .behind fun _ _ => .behind fun _ _ => .behind fun _ _ =>
    .behind fun _ _ => .behind fun _ rest => ?_
  have named : ∀ takesPositional rest, Yields HeaderKind.Named
      (do operator ":"; return .function function takesPositional) rest :=
    fun _ _ => .behind fun _ _ => .pure (isIdentifier_of_reads_name spelled read)
  exact .ite (.behind fun _ _ => named _ _) (named _ _)

theorem yields_forHeader (inner : Inner) (tokens : List Token) :
    Yields HeaderKind.Named (forHeader inner) tokens :=
  .behind fun _ _ => .behind fun _ _ => .behind fun _ _ => .behind fun _ _ => .pure trivial

theorem yields_classHeader (inner : Inner) (tokens : List Token) :
    Yields HeaderKind.Named (classHeader inner) tokens :=
  .behind fun _ _ => .behind fun _ _ => .behind fun _ _ => .ite
    (.behind fun _ _ => .behind fun _ _ => .behind fun _ _ => .pure trivial)
    (.behind fun _ _ => .pure trivial)

theorem yields_exceptHeader (inner : Inner) (tokens : List Token) :
    Yields HeaderKind.Named (exceptHeader inner) tokens := by
  unfold exceptHeader
  refine .behind fun grouped _ => .behind fun _ _ => ?_
  have handler : ∀ rest, Yields HeaderKind.Named
      (do operator ":"; return .exceptCase grouped) rest :=
    fun _ => .behind fun _ _ => .pure trivial
  exact .ite (.behind fun _ _ => .behind fun _ _ => .ite (.behind fun _ rest => handler rest)
    (handler _)) (handler _)

theorem yields_reservedHeader (inner : Inner) {tokens : List Token} (spelled : WellSpelled tokens) :
    Yields HeaderKind.Named (reservedHeader inner) tokens := by
  have function : ∀ rest, WellSpelled rest → Yields HeaderKind.Named (functionHeader inner) rest :=
    fun _ spelled => yields_functionHeader inner spelled
  have loop : ∀ rest, WellSpelled rest → Yields HeaderKind.Named (forHeader inner) rest :=
    fun rest _ => yields_forHeader inner rest
  have resources : ∀ rest, Yields HeaderKind.Named
      (do withItems inner; return .withBlock) rest :=
    fun _ => .behind fun _ _ => .pure trivial
  have tested : ∀ kind rest, HeaderKind.Named kind → Yields HeaderKind.Named
      (do let _ ← inner.named; operator ":"; return kind) rest :=
    fun _ _ named => .behind fun _ _ => .behind fun _ _ => .pure named
  have plain : ∀ kind rest, HeaderKind.Named kind → Yields HeaderKind.Named
      (do operator ":"; return kind) rest :=
    fun _ _ named => .behind fun _ _ => .pure named
  exact .ifKeyword spelled
    (fun _ spelled => .ifKeyword spelled function fun _ spelled => .ifKeyword spelled loop
      fun _ _ => .behind fun _ rest => resources rest)
    fun _ spelled => .ifKeyword spelled function
    fun _ spelled => .ifKeyword spelled (fun rest _ => yields_classHeader inner rest)
    fun _ spelled => .ifKeyword spelled loop
    fun _ spelled => .ifKeyword spelled (fun rest _ => yields_exceptHeader inner rest)
    fun _ spelled => .ifKeyword spelled (fun rest _ => resources rest)
    fun _ spelled => .ifKeyword spelled (fun rest _ => tested _ rest trivial)
    fun _ spelled => .ifKeyword spelled (fun rest _ => tested _ rest trivial)
    fun _ spelled => .ifKeyword spelled (fun rest _ => tested _ rest trivial)
    fun _ spelled => .ifKeyword spelled (fun rest _ => plain _ rest trivial)
    fun _ spelled => .ifKeyword spelled (fun rest _ => plain _ rest trivial)
    fun _ _ => .behind fun _ rest => plain _ rest trivial

theorem yields_matchHeader (inner : Inner) (tokens : List Token) :
    Yields HeaderKind.Named (matchHeader inner) tokens :=
  .behind fun _ _ => .behind fun _ _ => .behind fun _ _ => .behind fun _ _ => .pure trivial

theorem yields_caseHeader (inner : Inner) (tokens : List Token) :
    Yields HeaderKind.Named (caseHeader inner) tokens := by
  unfold caseHeader
  refine .behind fun _ _ => .behind fun _ _ => .behind fun _ _ => ?_
  exact .ite (.behind fun _ _ => .behind fun _ _ => .pure trivial)
    (.behind fun _ _ => .pure trivial)

/-! ## Lines -/

theorem Yields.captured {α : Type} {good : α → Prop} {reader : Reader α} {tokens : List Token}
    (yields : Yields good reader tokens) :
    Yields (fun found => good found.1) (captured reader) tokens := by
  intro found rest read
  obtain ⟨⟨value, middle⟩, inner, outer⟩ := Option.bind_eq_some_iff.1 read
  obtain ⟨rfl, -⟩ := Prod.mk.inj (Option.some.inj outer)
  exact yields value middle inner

theorem yields_headerLine (inner : Inner) {header : Reader HeaderKind} {tokens : List Token}
    (yields : Yields HeaderKind.Named header tokens) :
    Yields ParsedLine.Named (headerLine inner header) tokens := by
  refine .bind fun found rest read => ?_
  obtain ⟨kind, phrase⟩ := found
  have named : kind.Named := yields.captured _ rest read
  exact .behind fun _ _ => .ite (.pure named) (.behind fun _ _ => .behind fun _ _ => .pure named)

theorem yields_simpleLine (inner : Inner) (tokens : List Token) :
    Yields ParsedLine.Named (simpleLine inner) tokens := by
  refine .behind fun _ _ => .behind fun parts _ => ?_
  cases parts with
  | nil => exact .failure
  | cons first rest => exact .pure trivial

theorem yields_decoratorLine (inner : Inner) (tokens : List Token) :
    Yields ParsedLine.Named (decoratorLine inner) tokens :=
  .behind fun _ _ => .behind fun _ _ => .behind fun _ _ => .behind fun _ _ => .pure trivial

theorem looksAt_rest {accepts : Token → Bool} {tokens rest : List Token} {found : Bool}
    (read : (looksAt accepts).run tokens = some (found, rest)) : rest = tokens := by
  cases tokens <;> exact (Prod.mk.inj (Option.some.inj read)).2.symm

theorem yields_parsedLine (inMatch : Bool) (inner : Inner) {tokens : List Token}
    (spelled : WellSpelled tokens) : Yields ParsedLine.Named (parsedLine inMatch inner) tokens := by
  refine .ite (yields_headerLine inner (yields_caseHeader inner tokens))
    (.bind fun _ rest read => ?_)
  obtain rfl := looksAt_rest read
  refine .ite (yields_decoratorLine inner _) (.bind fun _ rest read => ?_)
  obtain rfl := looksAt_rest read
  refine .ite (yields_headerLine inner (yields_reservedHeader inner spelled))
    (.bind fun _ rest read => ?_)
  obtain rfl := looksAt_rest read
  exact .ite (.orElse (yields_headerLine inner (yields_matchHeader inner _))
    (yields_simpleLine inner _)) (yields_simpleLine inner _)

/-- The header of a function tells its name. -/
theorem named_of_tokens {inMatch : Bool} {tokens : List Token} {line : ParsedLine}
    (spelled : WellSpelled tokens) (read : ParsedLine.ofTokens inMatch tokens = some line) :
    line.Named := by
  have yields : Yields ParsedLine.Named (readWith (parsedLine inMatch)) tokens := by
    refine .bind fun depth rest counted => ?_
    obtain ⟨-, rfl⟩ := Prod.mk.inj (Option.some.inj counted)
    exact yields_parsedLine inMatch _ spelled
  obtain ⟨⟨found, rest⟩, taken, behind⟩ := Option.bind_eq_some_iff.1 read
  dsimp only at behind
  split at behind
  · obtain rfl := Option.some.inj behind
    exact yields _ rest taken
  · cases behind

/-! ## Statements -/

/-- The names of some functions are identifiers. -/
def AllNamed (functions : List Function) : Prop :=
  ∀ function ∈ functions, isIdentifier function.signature.name = true

theorem AllNamed.nil : AllNamed [] := fun _ member => nomatch member

theorem AllNamed.append {first second : List Function} (named : AllNamed first)
    (others : AllNamed second) : AllNamed (first ++ second) :=
  fun function member => (List.mem_append.1 member).elim (named function) (others function)

theorem AllNamed.left {first second : List Function} (named : AllNamed (first ++ second)) :
    AllNamed first :=
  fun function member => named function (List.mem_append_left second member)

theorem AllNamed.right {first second : List Function} (named : AllNamed (first ++ second)) :
    AllNamed second :=
  fun function member => named function (List.mem_append_right first member)

/-- What stands above a function does not matter to the names. -/
theorem AllNamed.function {head head' : Head} {signature : Signature} {body : Suite}
    (named : AllNamed (Statement.function head signature body).functions) :
    AllNamed (Statement.function head' signature body).functions :=
  named.left.append fun function member => by
    rw [List.mem_singleton.1 member]
    exact named.right ⟨head, signature, body⟩ List.mem_cons_self

theorem AllNamed.decorate {statement : Statement} (above : List BlankLine) (decorator : Decorator)
    (named : AllNamed statement.functions) :
    AllNamed (statement.decorate above decorator).functions := by
  cases statement with
  | line leading parts ending => exact named
  | function head signature body => exact named.function
  | compound head header body clauses => exact named

theorem AllNamed.withLeading {statement : Statement} (leading : List BlankLine)
    (named : AllNamed statement.functions) :
    AllNamed (statement.withLeading leading).functions := by
  cases statement with
  | line leading parts ending => exact named
  | function head signature body => exact named.function
  | compound head header body clauses => exact named

/-- The functions in a piece of a statement are named. -/
def Piece.Named (piece : Piece) : Prop :=
  match piece.form with
  | .clause kind _ body => kind.Named ∧ AllNamed body.functions
  | _ => True

/-- The functions in what follows a piece are named. -/
structure Following.Named (following : Following) : Prop where
  clauses : AllNamed (Clause.allFunctions (following.clauses.map Prod.snd))
  statements : AllNamed (Statement.allFunctions following.statements)

theorem Piece.named_begin (piece : Piece) {kind : HeaderKind} (header : Phrase) {body : Suite}
    {clauses : List Clause} (isName : kind.Named) (named : AllNamed body.functions)
    (others : AllNamed (Clause.allFunctions clauses)) :
    AllNamed (piece.begin kind header body clauses).functions := by
  cases kind with
  | function name takesPositional =>
      refine named.append fun function member => ?_
      rw [List.mem_singleton.1 member]
      exact isName
  | _ => exact named.append others

theorem Piece.Named.join {piece : Piece} {following joined : Following} (named : piece.Named)
    (others : following.Named) (joins : piece.join following = some joined) : joined.Named := by
  obtain ⟨above, form, start, stop⟩ := piece
  unfold Piece.join at joins
  cases form with
  | simple parts ending =>
      dsimp only at joins
      split at joins
      · obtain rfl := Option.some.inj joins
        exact ⟨.nil, others.statements⟩
      · cases joins
  | decorator decorator =>
      dsimp only at joins
      split at joins
      · rename_i first rest same
        split at joins
        · obtain rfl := Option.some.inj joins
          have statements := others.statements
          rw [same] at statements
          exact ⟨.nil, (statements.left.decorate above decorator).append statements.right⟩
        · cases joins
      · cases joins
  | clause kind header body =>
      dsimp only at joins
      split at joins
      · obtain rfl := Option.some.inj joins
        exact ⟨named.2.append others.clauses, others.statements⟩
      · split at joins
        · obtain rfl := Option.some.inj joins
          exact ⟨.nil, (Piece.named_begin _ header named.1 named.2 others.clauses).append
            others.statements⟩
        · cases joins

theorem named_joinPieces {pieces : List Piece} {statements : List Statement}
    (named : ∀ piece ∈ pieces, piece.Named) (joins : joinPieces pieces = some statements) :
    AllNamed (Statement.allFunctions statements) := by
  have following : ∀ found, pieces.foldr (fun piece found => found.bind piece.join)
      (some ⟨[], false, []⟩) = some found → found.Named := by
    clear joins
    induction pieces with
    | nil =>
        intro found same
        obtain rfl := Option.some.inj same
        exact ⟨.nil, .nil⟩
    | cons piece rest inductionHypothesis =>
        intro found same
        obtain ⟨others, behind, same⟩ := Option.bind_eq_some_iff.1 same
        exact (named piece List.mem_cons_self).join
          (inductionHypothesis (fun other member => named other (List.mem_cons_of_mem _ member))
            others behind) same
  obtain ⟨found, folded, joins⟩ := Option.bind_eq_some_iff.1 joins
  obtain ⟨-, -, same⟩ := Option.bind_eq_some_iff.1 joins
  obtain rfl := Option.some.inj same
  exact (following found folded).statements

/-! ## Files -/

mutual

theorem Piece.named_ofNode {usual : String} {inMatch : Bool} {node : Node} {piece : Piece}
    (spelled : node.WellSpelled) (read : Piece.ofNode usual inMatch node = some piece) :
    piece.Named := by
  obtain ⟨above, tokens, ending, indent, children, footer⟩ := node
  obtain ⟨line, parsed, read⟩ := Option.bind_eq_some_iff.1 read
  have named := named_of_tokens spelled.1 parsed
  cases line with
  | simple parts =>
      obtain ⟨-, -, same⟩ := Option.bind_eq_some_iff.1 read
      obtain rfl := Option.some.inj same
      trivial
  | decorator decorator =>
      obtain ⟨-, -, same⟩ := Option.bind_eq_some_iff.1 read
      obtain rfl := Option.some.inj same
      trivial
  | header kind header parts =>
      cases parts with
      | some parts =>
          obtain ⟨-, -, same⟩ := Option.bind_eq_some_iff.1 read
          obtain rfl := Option.some.inj same
          exact ⟨named, .nil⟩
      | none =>
          obtain ⟨-, -, read⟩ := Option.bind_eq_some_iff.1 read
          obtain ⟨pieces, inner, read⟩ := Option.bind_eq_some_iff.1 read
          obtain ⟨body, joins, same⟩ := Option.bind_eq_some_iff.1 read
          obtain rfl := Option.some.inj same
          exact ⟨named, named_joinPieces (Piece.named_ofNodes spelled.2 inner) joins⟩

theorem Piece.named_ofNodes {usual : String} {inMatch : Bool} {nodes : List Node}
    {pieces : List Piece} (spelled : Node.AllWellSpelled nodes)
    (read : Piece.ofNodes usual inMatch nodes = some pieces) : ∀ piece ∈ pieces, piece.Named := by
  cases nodes with
  | nil =>
      obtain rfl := Option.some.inj read
      exact fun piece member => nomatch member
  | cons node rest =>
      obtain ⟨first, taken, read⟩ := Option.bind_eq_some_iff.1 read
      obtain ⟨others, behind, same⟩ := Option.bind_eq_some_iff.1 read
      obtain rfl := Option.some.inj same
      exact List.forall_mem_cons.2 ⟨Piece.named_ofNode spelled.1 taken,
        Piece.named_ofNodes spelled.2 behind⟩

end

/-- What is read from a text is read from its lines. -/
theorem ofText_of_linesOf {text : String} {tree : LineTree} (read : linesOf text = .ok tree) :
    LineTree.ofText text.toList = some tree := by
  unfold linesOf at read
  split at read
  · cases read
  · rename_i tree' found
    obtain rfl := Except.ok.inj read
    exact found

theorem eq_some_of_checked {α : Type} {lines : List Node} {value : Option α} {result : α}
    (read : checked lines value = .ok result) : value = some result := by
  unfold checked at read
  split at read
  · cases read
  · split at read
    · cases read
    · obtain rfl := Except.ok.inj read
      rfl

theorem named_statements {text : String} {tree : LineTree} {statements : List Statement}
    (lines : linesOf text = .ok tree) (taken : tree.statements = some statements) :
    AllNamed (Statement.allFunctions statements) := by
  obtain ⟨pieces, inner, joins⟩ := Option.bind_eq_some_iff.1 taken
  exact named_joinPieces
    (Piece.named_ofNodes (LineTree.wellSpelled (ofText_of_linesOf lines)) inner) joins

/-- **The functions of a file have names.** The name of each of them, at any depth, is an
identifier and no reserved word. -/
theorem isIdentifier_of_read {text : String} {file : Module}
    (read : Module.ofText text = .ok file) : AllNamed (Statement.allFunctions file.body) := by
  obtain ⟨tree, lines, read⟩ := bind_eq_ok_iff.1 read
  obtain ⟨statements, taken, read⟩ := bind_eq_ok_iff.1 read
  have named := named_statements lines (eq_some_of_checked taken)
  cases statements with
  | nil =>
      obtain rfl := Except.ok.inj read
      exact .nil
  | cons first rest =>
      obtain rfl := Except.ok.inj read
      exact (named.left.withLeading []).append named.right

/-- So have the functions of a single statement. -/
theorem isIdentifier_of_statement {text : String} {statement : Statement}
    (read : Statement.ofText text = .ok statement) : AllNamed statement.functions := by
  obtain ⟨tree, lines, read⟩ := bind_eq_ok_iff.1 read
  obtain ⟨statements, taken, single⟩ := Option.bind_eq_some_iff.1 (eq_some_of_checked read)
  have named := named_statements lines taken
  split at single
  · obtain rfl := Option.some.inj single
    exact named.left
  · cases single

end ModuleGlue.Source
