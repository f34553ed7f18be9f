import ModuleGlue.Proofs.Outcome
import ModuleGlue.Proofs.Directive.Grammar

/-!
Contract: what each reader of export arguments takes from a list.

A reader that succeeds moves its cursor over some tokens. For each reader it is stated which tokens
these can be, in the words of the grammar. A reader takes as much as it can: where one token more
could still belong to what was read, the statement says that it does not follow.

Owns: the relation between two cursors, and the statement for each reader up to the option list.

Does not own: errors and what they are blamed on.
-/

namespace ModuleGlue.Directive

open ModuleGlue.Text

/-! ## Moving a cursor -/

/-- The second cursor is the first one moved over the tokens. -/
structure Cursor.Passes (cursor : Cursor) (tokens : List Token) (next : Cursor) : Prop where
  remaining : cursor.remaining = tokens ++ next.remaining
  consumed : next.consumed = tokens.reverse ++ cursor.consumed
  origin : next.origin = cursor.origin

namespace Cursor

variable {cursor middle next : Cursor} {token : Token} {tokens others : List Token}
  {kind : Option Kind} {expected : String}

theorem passes_nil : cursor.Passes [] cursor := ⟨rfl, rfl, rfl⟩

theorem passes_nil_iff : cursor.Passes [] next ↔ next = cursor := by
  constructor
  · rintro ⟨remaining, consumed, origin⟩
    cases cursor
    cases next
    simp_all
  · rintro rfl
    exact passes_nil

theorem Passes.append (first : cursor.Passes tokens middle) (second : middle.Passes others next) :
    cursor.Passes (tokens ++ others) next where
  remaining := by rw [first.remaining, second.remaining, List.append_assoc]
  consumed := by
    rw [second.consumed, first.consumed, List.reverse_append, List.append_assoc]
  origin := second.origin.trans first.origin

/-- A cursor can be moved over the tokens that are pending. -/
theorem exists_passes (tokens others : List Token)
    (pending : cursor.remaining = tokens ++ others) :
    ∃ next, cursor.Passes tokens next ∧ next.remaining = others :=
  ⟨⟨tokens.reverse ++ cursor.consumed, others, cursor.origin⟩, ⟨pending, rfl, rfl⟩, rfl⟩

/-- A move over two stretches goes through the place between them. -/
theorem Passes.split (tokens others : List Token) (whole : cursor.Passes (tokens ++ others) next) :
    ∃ middle, cursor.Passes tokens middle ∧ middle.Passes others next := by
  obtain ⟨middle, moved, rest⟩ := exists_passes tokens (others ++ next.remaining)
    (whole.remaining.trans (List.append_assoc ..))
  refine ⟨middle, moved, rest, ?_, whole.origin.trans moved.origin.symm⟩
  rw [whole.consumed, moved.consumed, List.reverse_append, List.append_assoc]

/-- A cursor moves over tokens in one way only. -/
theorem Passes.unique (first : cursor.Passes tokens middle) (second : cursor.Passes tokens next) :
    middle = next := by
  have remaining := List.append_cancel_left (first.remaining.symm.trans second.remaining)
  have consumed := first.consumed.trans second.consumed.symm
  have origin := first.origin.trans second.origin.symm
  cases middle
  cases next
  simp_all

theorem passes_tokens (moved : cursor.Passes tokens next) : next.tokens = cursor.tokens := by
  unfold Cursor.tokens
  rw [moved.consumed, moved.remaining]
  simp

/-- Taking a token moves over it; it must be of the required kind. -/
theorem take_eq_ok_iff : cursor.take kind expected = .ok (token, next) ↔
    cursor.Passes [token] next ∧ kind.all (· == token.kind) = true := by
  unfold take
  constructor
  · intro taken
    split at taken
    · cases taken
    · rename_i first rest pending
      split at taken
      · rename_i allowed
        obtain ⟨rfl, rfl⟩ := Prod.mk.inj (Except.ok.inj taken)
        exact ⟨⟨pending, rfl, rfl⟩, allowed⟩
      · cases taken
  · rintro ⟨moved, allowed⟩
    have same : next = ⟨token :: cursor.consumed, next.remaining, cursor.origin⟩ :=
      Passes.unique moved ⟨moved.remaining, rfl, rfl⟩
    rw [moved.remaining, List.singleton_append]
    dsimp only
    rw [if_pos allowed, ← same]

theorem requires_iff {required found : Kind} :
    (some required).all (· == found) = true ↔ found = required := by
  rw [Option.all_some, beq_iff_eq]
  exact eq_comm

/-- Whether the pending token is of a kind, in terms of the pending tokens. -/
theorem startsWith_iff {cursor : Cursor} {kind : Kind} :
    cursor.startsWith kind = true ↔
      ∃ token rest, cursor.remaining = token :: rest ∧ token.kind = kind := by
  unfold startsWith
  cases cursor.remaining with
  | nil => simp
  | cons token rest => simp

theorem startsWith_eq_false_iff {cursor : Cursor} {kind : Kind} :
    cursor.startsWith kind = false ↔ ∀ token ∈ cursor.remaining.head?, token.kind ≠ kind := by
  unfold startsWith
  cases cursor.remaining <;> simp

theorem isEmpty_iff {cursor : Cursor} : cursor.isEmpty = true ↔ cursor.remaining = [] :=
  List.isEmpty_iff

end Cursor

/-! ## Values of single tokens -/

theorem Token.stringValue_eq_ok_iff {token : Token} {value : Points} :
    token.stringValue = .ok value ↔ literalValue? token.text.toList = some value := by
  unfold Token.stringValue
  cases literalValue? token.text.toList with
  | none => simp
  | some found => simp

theorem Token.denotedName_eq_ok_iff {token : Token} {points : Points} :
    token.denotedName = .ok points ↔
      (token.kind = .ident ∧ points = .ofString token.text) ∨ token.Evaluates points := by
  unfold Token.denotedName Token.Evaluates
  cases token.kind with
  | ident => simp [eq_comm]
  | string => simp [Token.stringValue_eq_ok_iff]
  | dot | comma | equals | number | other => simp

theorem Points.ofString_injective {first second : String}
    (same : Points.ofString first = Points.ofString second) : first = second := by
  have found := Points.toString?_eq_some_iff.2 (rfl : Points.ofString first = _)
  rw [same, Points.toString?_eq_some_iff.2 rfl] at found
  exact (Option.some.inj found).symm

theorem Name.ofToken_eq_ok_iff {token : Token} {name : Name} :
    Name.ofToken token = .ok name ↔ ∃ text, token.Names text ∧ name = ⟨text, token.span⟩ := by
  unfold Name.ofToken Token.Names Token.IsWord
  rw [bind_eq_ok_iff]
  constructor
  · rintro ⟨points, denoted, checked⟩
    split at checked
    · rename_i text spelled
      obtain rfl := Points.toString?_eq_some_iff.1 spelled
      split at checked
      · rename_i identifier
        obtain rfl := Except.ok.inj checked
        refine ⟨text, ⟨identifier, ?_⟩, rfl⟩
        rcases Token.denotedName_eq_ok_iff.1 denoted with ⟨bare, same⟩ | literal
        · exact Or.inl ⟨bare, (Points.ofString_injective same).symm⟩
        · exact Or.inr literal
      · cases checked
    · cases checked
  · rintro ⟨text, ⟨identifier, written⟩, rfl⟩
    refine ⟨.ofString text, Token.denotedName_eq_ok_iff.2 ?_, ?_⟩
    · rcases written with ⟨bare, rfl⟩ | literal
      · exact Or.inl ⟨bare, rfl⟩
      · exact Or.inr literal
    · rw [Points.toString?_eq_some_iff.2 rfl]
      dsimp only
      rw [if_pos identifier]

theorem TextSignature.ofToken_eq_ok_iff {token : Token} {signature : TextSignature} :
    TextSignature.ofToken token = .ok signature ↔
      ∃ text, token.Signs text ∧ signature = ⟨text, token.span⟩ := by
  unfold TextSignature.ofToken
  split
  · rename_i bare
    constructor
    · intro found
      exact ⟨none, bare, (Except.ok.inj found).symm⟩
    · rintro ⟨text, signed, rfl⟩
      cases text with
      | none => rfl
      | some value =>
          have clash := bare.1.symm.trans signed.1
          cases clash
  · rename_i notBare
    split
    · rename_i literal
      rw [bind_eq_ok_iff]
      constructor
      · rintro ⟨value, evaluated, same⟩
        exact ⟨some value, ⟨literal, Token.stringValue_eq_ok_iff.1 evaluated⟩,
          (Except.ok.inj same).symm⟩
      · rintro ⟨text, signed, rfl⟩
        cases text with
        | none => exact absurd signed notBare
        | some value => exact ⟨value, Token.stringValue_eq_ok_iff.2 signed.2, rfl⟩
    · rename_i notLiteral
      constructor
      · intro found
        cases found
      · rintro ⟨text, signed, -⟩
        cases text with
        | none => exact absurd signed notBare
        | some value => exact absurd signed.1 notLiteral

theorem readTruth_eq_ok_iff {token : Token} {flag : Bool} :
    readTruth token = .ok flag ↔ token.text = truthWord flag := by
  unfold readTruth
  split
  · rename_i yes
    cases flag <;> simp [yes, truthWord]
  · rename_i notYes
    split
    · rename_i no
      cases flag <;> simp [no, truthWord]
    · rename_i notNo
      cases flag <;> simp [notYes, notNo, truthWord]

theorem OptionKey.ofWord?_eq_some_iff {word : String} {key : OptionKey} :
    OptionKey.ofWord? word = some key ↔ word = key.word := by
  unfold OptionKey.ofWord?
  constructor
  · intro found
    split at found
    · obtain rfl := Option.some.inj found
      assumption
    · split at found
      · obtain rfl := Option.some.inj found
        assumption
      · split at found
        · obtain rfl := Option.some.inj found
          assumption
        · cases found
  · rintro rfl
    cases key <;> rfl

/-! ## One option -/

/-- Reads a token and then another one, of which it makes a setting. -/
theorem takeTwice_eq_ok_iff {α : Type} {cursor next : Cursor} {first second : Option Kind}
    {sign what : String} {read : Token → Except Diagnostic α} {make : α → Setting}
    {setting : Setting} :
    (do
      let (_, afterEquals) ← cursor.take first sign
      let (token, next) ← afterEquals.take second what
      let value ← read token
      .ok (make value, next)) = (.ok (setting, next) : Except Diagnostic (Setting × Cursor)) ↔
    ∃ equals token value, cursor.Passes [equals, token] next ∧
      first.all (· == equals.kind) = true ∧ second.all (· == token.kind) = true ∧
        read token = .ok value ∧ setting = make value := by
  simp only [bind_eq_ok_iff, Prod.exists, Cursor.take_eq_ok_iff]
  constructor
  · rintro ⟨equals, middle, ⟨moved, sign⟩, token, after, ⟨moved', allowed⟩, value, found, same⟩
    obtain ⟨rfl, rfl⟩ := Prod.mk.inj (Except.ok.inj same)
    exact ⟨equals, token, value, moved.append moved', sign, allowed, found, rfl⟩
  · rintro ⟨equals, token, value, moved, sign, allowed, found, rfl⟩
    obtain ⟨middle, moved, moved'⟩ := Cursor.Passes.split [equals] [token] moved
    exact ⟨equals, middle, ⟨moved, sign⟩, token, next, ⟨moved', allowed⟩, value, found, rfl⟩

/-- After a key the reader takes a value if an equals sign is pending, and nothing otherwise. -/
theorem readSetting_eq_ok_iff {key : OptionKey} {cursor next : Cursor} {setting : Setting} :
    readSetting key cursor = .ok (setting, next) ↔
      setting.key = key ∧ ∃ tokens, cursor.Passes tokens next ∧ ValueTokens setting tokens ∧
        (tokens = [] → next.startsWith .equals = false) := by
  unfold readSetting
  cases key with
  | name =>
      dsimp only
      rw [takeTwice_eq_ok_iff]
      constructor
      · rintro ⟨equals, token, value, moved, sign, -, found, rfl⟩
        obtain ⟨text, named, rfl⟩ := Name.ofToken_eq_ok_iff.1 found
        exact ⟨rfl, [equals, token], moved, .name (Cursor.requires_iff.1 sign) named, by simp⟩
      · rintro ⟨same, tokens, moved, value, -⟩
        cases value with
        | name sign named =>
            exact ⟨_, _, _, moved, Cursor.requires_iff.2 sign, rfl,
              Name.ofToken_eq_ok_iff.2 ⟨_, named, rfl⟩, rfl⟩
        | textSignature | passModule | alone => cases same
  | textSignature =>
      dsimp only
      rw [takeTwice_eq_ok_iff]
      constructor
      · rintro ⟨equals, token, value, moved, sign, -, found, rfl⟩
        obtain ⟨text, signed, rfl⟩ := TextSignature.ofToken_eq_ok_iff.1 found
        exact ⟨rfl, [equals, token], moved, .textSignature (Cursor.requires_iff.1 sign) signed,
          by simp⟩
      · rintro ⟨same, tokens, moved, value, -⟩
        cases value with
        | textSignature sign signed =>
            exact ⟨_, _, _, moved, Cursor.requires_iff.2 sign, rfl,
              TextSignature.ofToken_eq_ok_iff.2 ⟨_, signed, rfl⟩, rfl⟩
        | name | passModule | alone => cases same
  | passModule =>
      dsimp only
      split
      · rename_i pending
        rw [takeTwice_eq_ok_iff]
        constructor
        · rintro ⟨equals, token, value, moved, -, word, found, rfl⟩
          obtain ⟨sign, rest, shape, isSign⟩ := Cursor.startsWith_iff.1 pending
          rw [moved.remaining] at shape
          obtain ⟨rfl, -⟩ := List.cons.inj shape
          exact ⟨rfl, [equals, token], moved,
            .passModule isSign ⟨Cursor.requires_iff.1 word, readTruth_eq_ok_iff.1 found⟩, by simp⟩
        · rintro ⟨same, tokens, moved, value, maximal⟩
          cases value with
          | passModule sign truth =>
              exact ⟨_, _, _, moved, rfl, Cursor.requires_iff.2 truth.1,
                readTruth_eq_ok_iff.2 truth.2, rfl⟩
          | alone =>
              rw [Cursor.passes_nil_iff.1 moved, pending] at maximal
              exact absurd (maximal rfl) (by simp)
          | name | textSignature => cases same
      · rename_i notPending
        constructor
        · intro found
          obtain ⟨rfl, rfl⟩ := Prod.mk.inj (Except.ok.inj found)
          exact ⟨rfl, [], Cursor.passes_nil, .alone, fun _ => by simpa using notPending⟩
        · rintro ⟨same, tokens, moved, value, maximal⟩
          cases value with
          | passModule sign truth =>
              exact absurd (Cursor.startsWith_iff.2 ⟨_, _, moved.remaining, sign⟩) notPending
          | alone => rw [Cursor.passes_nil_iff.1 moved]
          | name | textSignature => cases same

def Options.store (options : Options) (setting : Setting) : Options :=
  (options.mark setting.key).apply setting

/-- Reading one option takes its tokens and stores its setting; the key must be new. -/
theorem Options.readOption_eq_ok_iff {options options' : Options} {cursor next : Cursor} :
    options.readOption cursor = (options', .ok next) ↔
      ∃ setting tokens, cursor.Passes tokens next ∧ OptionTokens setting tokens ∧
        setting.key ∉ options.specified ∧ options' = options.store setting ∧
        (tokens.length = 1 → next.startsWith .equals = false) := by
  unfold Options.readOption
  constructor
  · intro found
    split at found
    · cases (Prod.mk.inj found).2
    · rename_i token afterKey taken
      obtain ⟨moved, word⟩ := Cursor.take_eq_ok_iff.1 taken
      split at found
      · cases (Prod.mk.inj found).2
      · rename_i key known
        split at found
        · cases (Prod.mk.inj found).2
        · rename_i fresh
          split at found
          · cases (Prod.mk.inj found).2
          · rename_i setting after read
            obtain ⟨rfl, same⟩ := Prod.mk.inj found
            obtain rfl := Except.ok.inj same
            obtain ⟨rfl, value, moved', written, maximal⟩ := readSetting_eq_ok_iff.1 read
            refine ⟨setting, token :: value, moved.append moved', .mk ?_ written, ?_, rfl, ?_⟩
            · exact ⟨Cursor.requires_iff.1 word, OptionKey.ofWord?_eq_some_iff.1 known⟩
            · simpa using fresh
            · intro alone
              exact maximal (by simpa using alone)
  · rintro ⟨setting, tokens, moved, option, fresh, rfl, maximal⟩
    cases option with
    | @mk token setting value word written =>
        obtain ⟨afterKey, moved, moved'⟩ := Cursor.Passes.split [token] value moved
        have taken : cursor.take (some .ident) "option name" = .ok (token, afterKey) :=
          Cursor.take_eq_ok_iff.2 ⟨moved, Cursor.requires_iff.2 word.1⟩
        have read : readSetting setting.key afterKey = .ok (setting, next) :=
          readSetting_eq_ok_iff.2 ⟨rfl, value, moved', written, fun alone =>
            maximal (by simp [alone])⟩
        have unseen : options.specified.contains setting.key = false := by simpa using fresh
        simp only [taken, OptionKey.ofWord?_eq_some_iff.2 word.2, unseen, read, Bool.false_eq_true,
          if_false]
        rfl

end ModuleGlue.Directive
