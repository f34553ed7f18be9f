import Mathlib.Data.List.Basic
import ModuleGlue.Proofs.Directive.Acceptance
import ModuleGlue.Proofs.Directive.Blame

/-!
Contract: the token at which export arguments go wrong.

A list that is refused goes wrong at one place. The tokens in front of it can be continued to
arguments that are accepted; together with the token that stands there they cannot, whatever
follows. If the list just ends too early, that place is its end. The readers stop there: they blame
this token, or the last one at the end.

Main statement: `ExportArguments.parse_blames_offender`.

Owns: which lists can be continued, and the place at which each reader stops.

Does not own: the wording of what is wrong.
-/

namespace ModuleGlue.Directive

open ModuleGlue.Text

/-! ## Where a reader stops -/

/-- Reading stops behind some tokens. What is wrong is told at the token that is pending there, or
at the end; the tokens can be continued to a list that is accepted, but not with that token. -/
structure Cursor.StopsBehind (cursor : Cursor) (accepts : List Token → Prop)
    (before : List Token) (reason : Diagnostic) : Prop where
  place : ∃ next, cursor.Passes before next ∧ reason.span = next.currentSpan ∧
    ∀ what found, reason.cause = .expected what found →
      found = next.remaining.head?.map Token.text
  viable : ∃ rest, accepts (before ++ rest)
  offends : ∀ token rest, cursor.remaining = before ++ token :: rest →
    ∀ others, ¬ accepts (before ++ token :: others)

/-- The diagnostic is told at the token, and names no other text as found. -/
structure Token.IsBlamedBy (token : Token) (reason : Diagnostic) : Prop where
  span : reason.span = some token.span
  found : ∀ what found, reason.cause = .expected what found → found = some token.text

section
variable {cursor middle : Cursor} {accepts accepts' : List Token → Prop} {reason : Diagnostic}
  {token : Token} {tokens before rest : List Token}

/-- A reader that refuses the pending token stops in front of it. -/
theorem Cursor.stopsBehind_of_blamed (pending : cursor.remaining = token :: rest)
    (blamed : token.IsBlamedBy reason) (viable : ∃ rest, accepts rest)
    (offends : ∀ others, ¬ accepts (token :: others)) : cursor.StopsBehind accepts [] reason where
  place := by
    refine ⟨cursor, Cursor.passes_nil, ?_, ?_⟩
    · rw [blamed.span]
      unfold Cursor.currentSpan
      rw [pending]
    · rw [pending]
      exact blamed.found
  viable := viable
  offends := by
    intro other others pending' more
    obtain ⟨rfl, -⟩ := List.cons.inj (pending.symm.trans pending')
    exact offends more

/-- A reader that needs one more token stops at the end. -/
theorem Cursor.stopsBehind_of_end (ended : cursor.remaining = [])
    (span : reason.span = cursor.currentSpan)
    (found : ∀ what found, reason.cause = .expected what found → found = none)
    (viable : ∃ rest, accepts rest) : cursor.StopsBehind accepts [] reason where
  place := by
    refine ⟨cursor, Cursor.passes_nil, span, ?_⟩
    rw [ended]
    exact found
  viable := viable
  offends := by
    intro token rest pending
    rw [ended] at pending
    cases pending

/-- A pending token can be taken, whatever it is. -/
theorem Cursor.take_ne_error (pending : cursor.remaining = token :: rest) (expected : String) :
    cursor.take none expected ≠ .error reason := by
  unfold Cursor.take
  rw [pending]
  intro impossible
  cases impossible

/-- A token that is not of the required kind is where a reader stops; so is the end. -/
theorem Cursor.take_stops {kind : Option Kind} {expected : String}
    (failed : cursor.take kind expected = .error reason) (viable : ∃ rest, accepts rest)
    (offends : ∀ token, ¬ kind.all (· == token.kind) = true →
      ∀ others, ¬ accepts (token :: others)) :
    cursor.StopsBehind accepts [] reason := by
  unfold Cursor.take at failed
  split at failed
  · rename_i ended
    rw [← Except.error.inj failed]
    apply Cursor.stopsBehind_of_end ended rfl _ viable
    intro what found same
    exact (Cause.expected.inj same).2.symm
  · rename_i token rest pending
    split at failed
    · cases failed
    · rename_i wrong
      rw [← Except.error.inj failed]
      apply Cursor.stopsBehind_of_blamed pending ⟨rfl, ?_⟩ viable (offends token wrong)
      intro what found same
      exact (Cause.expected.inj same).2.symm

/-- Where a reader stops that starts behind some tokens: what is accepted there is what can be
accepted behind these tokens, as long as the same token comes next. -/
theorem Cursor.StopsBehind.behind (stops : middle.StopsBehind accepts before reason)
    (moved : cursor.Passes tokens middle)
    (onward : ∀ rest, accepts rest → accepts' (tokens ++ rest))
    (back : ∀ rest, rest.head? = middle.remaining.head? → accepts' (tokens ++ rest) →
      accepts rest) :
    cursor.StopsBehind accepts' (tokens ++ before) reason where
  place := by
    obtain ⟨next, passed, span, found⟩ := stops.place
    exact ⟨next, moved.append passed, span, found⟩
  viable := by
    obtain ⟨rest, accepted⟩ := stops.viable
    refine ⟨rest, ?_⟩
    rw [List.append_assoc]
    exact onward _ accepted
  offends := by
    intro token rest pending others accepted
    rw [moved.remaining, List.append_assoc] at pending
    have pending := List.append_cancel_left pending
    rw [List.append_assoc] at accepted
    apply stops.offends token rest pending others
    apply back _ _ accepted
    rw [pending]
    cases before <;> rfl

end

/-! ## Values -/

section
variable {token : Token} {reason : Diagnostic}

theorem Token.stringValue_blamed (failed : token.stringValue = .error reason) :
    token.IsBlamedBy reason := by
  unfold Token.stringValue at failed
  split at failed
  · cases failed
  · rw [← Except.error.inj failed]
    exact ⟨rfl, fun what found impossible => nomatch impossible⟩

theorem Name.ofToken_blamed (failed : Name.ofToken token = .error reason) :
    token.IsBlamedBy reason := by
  unfold Name.ofToken at failed
  rcases bind_eq_error_iff.1 failed with undenoted | ⟨points, -, failed⟩
  · unfold Token.denotedName at undenoted
    split at undenoted
    · cases undenoted
    · exact Token.stringValue_blamed undenoted
    · rw [← Except.error.inj undenoted]
      exact ⟨rfl, fun what found same => (Cause.expected.inj same).2.symm⟩
  · split at failed
    · split at failed
      · cases failed
      · rw [← Except.error.inj failed]
        exact ⟨rfl, fun what found impossible => nomatch impossible⟩
    · rw [← Except.error.inj failed]
      exact ⟨rfl, fun what found impossible => nomatch impossible⟩

theorem TextSignature.ofToken_blamed (failed : TextSignature.ofToken token = .error reason) :
    token.IsBlamedBy reason := by
  unfold TextSignature.ofToken at failed
  split at failed
  · cases failed
  · split at failed
    · rcases bind_eq_error_iff.1 failed with unevaluated | ⟨value, -, failed⟩
      · exact Token.stringValue_blamed unevaluated
      · cases failed
    · rw [← Except.error.inj failed]
      exact ⟨rfl, fun what found same => (Cause.expected.inj same).2.symm⟩

theorem readTruth_blamed (failed : readTruth token = .error reason) : token.IsBlamedBy reason := by
  unfold readTruth at failed
  split at failed
  · cases failed
  · split at failed
    · cases failed
    · rw [← Except.error.inj failed]
      exact ⟨rfl, fun what found same => (Cause.expected.inj same).2.symm⟩

end

/-! ## Options -/

section
variable {cursor : Cursor} {options options' : Options} {reason : Diagnostic} {key : Token}

/-- A value is taken and read. Where that fails, the reader stops at the value. -/
theorem takeValue_stops {α : Type} {kind : Option Kind} {what : String}
    {read : Token → Except Diagnostic α} {make : α → Setting} {accepts : List Token → Prop}
    (blamed : ∀ token reason, read token = .error reason → token.IsBlamedBy reason)
    (failed : (do
      let (token, next) ← cursor.take kind what
      let value ← read token
      .ok (make value, next)) = (.error reason : Except Diagnostic (Setting × Cursor)))
    (viable : ∃ rest, accepts rest)
    (offends : ∀ token, (∀ value, kind.all (· == token.kind) = true → read token ≠ .ok value) →
      ∀ others, ¬ accepts (token :: others)) : cursor.StopsBehind accepts [] reason := by
  rcases bind_eq_error_iff.1 failed with untaken | ⟨⟨token, next⟩, taken, failed⟩
  · apply Cursor.take_stops untaken viable
    intro token wrong
    apply offends token
    intro value allowed
    exact absurd allowed wrong
  · obtain ⟨moved, -⟩ := Cursor.take_eq_ok_iff.1 taken
    rcases bind_eq_error_iff.1 failed with unread | ⟨value, -, impossible⟩
    · apply Cursor.stopsBehind_of_blamed moved.remaining (blamed token reason unread) viable
      apply offends token
      intro value _ found
      rw [unread] at found
      cases found
    · cases impossible

/-- Behind a sign the value is taken and read; where that fails, the reader stops at the value. -/
theorem takeSigned_stops {α : Type} {known : OptionKey} {kind : Option Kind} {what : String}
    {read : Token → Except Diagnostic α} {make : α → Setting} {sign : Token} {afterSign : Cursor}
    (word : key.IsWord known.word) (fresh : known ∉ options.specified)
    (moved : cursor.Passes [sign] afterSign) (isSign : sign.kind = .equals)
    (blamed : ∀ token reason, read token = .error reason → token.IsBlamedBy reason)
    (reads : ∀ setting value, setting.key = known → ValueTokens setting [sign, value] →
      kind.all (· == value.kind) = true ∧ ∃ found, read value = .ok found)
    (failed : (do
      let (token, next) ← afterSign.take kind what
      let value ← read token
      .ok (make value, next)) = (.error reason : Except Diagnostic (Setting × Cursor))) :
    cursor.StopsBehind (fun rest => options.Accepts (key :: rest)) [sign] reason := by
  have stops : afterSign.StopsBehind (fun rest => options.Accepts (key :: sign :: rest)) []
      reason := by
    apply takeValue_stops blamed failed
    · obtain ⟨value, accepted⟩ := exists_accepts_key word fresh sign isSign
      exact ⟨[value], accepted⟩
    · intro token unread others accepted
      obtain ⟨setting, same, written⟩ := Options.value_of_accepts word isSign accepted
      obtain ⟨allowed, found, read⟩ := reads setting token same written
      exact unread found allowed read
  exact stops.behind moved (fun _ accepted => accepted) fun _ _ accepted => accepted

/-- A key that cannot stand alone is followed by a sign. -/
theorem takeSign_stops {known : OptionKey} (word : key.IsWord known.word)
    (fresh : known ∉ options.specified) (needsValue : known ≠ .passModule)
    (failed : cursor.take (some .equals) "`=`" = .error reason) :
    cursor.StopsBehind (fun rest => options.Accepts (key :: rest)) [] reason := by
  apply Cursor.take_stops failed
  · obtain ⟨value, accepted⟩ := exists_accepts_key word fresh ⟨.equals, "=", key.span⟩ rfl
    exact ⟨[_, value], accepted⟩
  · intro token wrong others accepted
    rw [Cursor.requires_iff] at wrong
    obtain ⟨setting, value, rest, word', -, written, whole, -⟩ :=
      Options.exists_option_of_accepts accepted
    have same : setting.key = known := OptionKey.word_injective (word'.2.symm.trans word.2)
    cases written with
    | name isSign _ => exact wrong ((List.cons.inj whole).1 ▸ isSign)
    | textSignature isSign _ => exact wrong ((List.cons.inj whole).1 ▸ isSign)
    | passModule isSign _ => exact wrong ((List.cons.inj whole).1 ▸ isSign)
    | alone => exact needsValue same.symm

theorem readSetting_stops {known : OptionKey} (word : key.IsWord known.word)
    (fresh : known ∉ options.specified) (failed : readSetting known cursor = .error reason) :
    ∃ before, cursor.StopsBehind (fun rest => options.Accepts (key :: rest)) before reason := by
  unfold readSetting at failed
  cases known with
  | name =>
      rcases bind_eq_error_iff.1 failed with unsigned | ⟨⟨sign, afterSign⟩, taken, failed⟩
      · exact ⟨[], takeSign_stops word fresh (by decide) unsigned⟩
      · obtain ⟨moved, isSign⟩ := Cursor.take_eq_ok_iff.1 taken
        refine ⟨[sign], takeSigned_stops word fresh moved (Cursor.requires_iff.1 isSign)
          (fun _ _ => Name.ofToken_blamed) ?_ failed⟩
        intro setting value same written
        cases written with
        | name _ named => exact ⟨rfl, _, Name.ofToken_eq_ok_iff.2 ⟨_, named, rfl⟩⟩
        | textSignature | passModule => cases same
  | textSignature =>
      rcases bind_eq_error_iff.1 failed with unsigned | ⟨⟨sign, afterSign⟩, taken, failed⟩
      · exact ⟨[], takeSign_stops word fresh (by decide) unsigned⟩
      · obtain ⟨moved, isSign⟩ := Cursor.take_eq_ok_iff.1 taken
        refine ⟨[sign], takeSigned_stops word fresh moved (Cursor.requires_iff.1 isSign)
          (fun _ _ => TextSignature.ofToken_blamed) ?_ failed⟩
        intro setting value same written
        cases written with
        | textSignature _ signed =>
            exact ⟨rfl, _, TextSignature.ofToken_eq_ok_iff.2 ⟨_, signed, rfl⟩⟩
        | name | passModule => cases same
  | passModule =>
      dsimp only at failed
      split at failed
      · rename_i pending
        obtain ⟨sign, rest, shape, isSign⟩ := Cursor.startsWith_iff.1 pending
        rcases bind_eq_error_iff.1 failed with untaken | ⟨⟨sign', afterSign⟩, taken, failed⟩
        · exact absurd untaken (Cursor.take_ne_error shape _)
        · obtain ⟨moved, -⟩ := Cursor.take_eq_ok_iff.1 taken
          obtain ⟨rfl, -⟩ := List.cons.inj (shape.symm.trans moved.remaining)
          refine ⟨[sign], takeSigned_stops word fresh moved isSign (fun _ _ => readTruth_blamed)
            ?_ failed⟩
          intro setting value same written
          cases written with
          | passModule _ truth =>
              exact ⟨Cursor.requires_iff.2 truth.1, _, readTruth_eq_ok_iff.2 truth.2⟩
          | name | textSignature => cases same
      · cases failed

theorem Options.readOption_stops
    (failed : options.readOption cursor = (options', .error reason)) :
    ∃ before, cursor.StopsBehind options.Accepts before reason := by
  have viable : ∃ rest, options.Accepts rest := ⟨[], options.accepts_nil⟩
  unfold Options.readOption at failed
  split at failed
  · rename_i untaken
    obtain rfl := Except.error.inj (Prod.mk.inj failed).2
    refine ⟨[], Cursor.take_stops untaken viable ?_⟩
    intro token wrong others accepted
    obtain ⟨setting, value, rest, word, -⟩ := Options.exists_option_of_accepts accepted
    exact wrong (Cursor.requires_iff.2 word.1)
  · rename_i token afterKey taken
    obtain ⟨moved, isWord⟩ := Cursor.take_eq_ok_iff.1 taken
    split at failed
    · rename_i unknown
      rw [← Except.error.inj (Prod.mk.inj failed).2]
      refine ⟨[], Cursor.stopsBehind_of_blamed moved.remaining ⟨rfl, nofun⟩ viable ?_⟩
      intro others accepted
      obtain ⟨setting, value, rest, word, -⟩ := Options.exists_option_of_accepts accepted
      rw [OptionKey.ofWord?_eq_some_iff.2 word.2] at unknown
      cases unknown
    · rename_i known named
      have word : token.IsWord known.word :=
        ⟨Cursor.requires_iff.1 isWord, OptionKey.ofWord?_eq_some_iff.1 named⟩
      split at failed
      · rename_i again
        rw [← Except.error.inj (Prod.mk.inj failed).2]
        refine ⟨[], Cursor.stopsBehind_of_blamed moved.remaining ⟨rfl, nofun⟩ viable ?_⟩
        intro others accepted
        obtain ⟨setting, value, rest, word', fresh, -⟩ :=
          Options.exists_option_of_accepts accepted
        rw [OptionKey.word_injective (word'.2.symm.trans word.2)] at fresh
        exact fresh (by simpa using again)
      · rename_i fresh
        split at failed
        · rename_i unread
          obtain rfl := Except.error.inj (Prod.mk.inj failed).2
          obtain ⟨before, stops⟩ := readSetting_stops word (by simpa using fresh) unread
          exact ⟨[token] ++ before, stops.behind moved (fun _ accepted => accepted)
            fun _ _ accepted => accepted⟩
        · cases (Prod.mk.inj failed).2

/-- Behind an option a reader stops at what is no comma. -/
theorem takeComma_stops (failed : cursor.take (some .comma) "`,`" = .error reason) :
    cursor.StopsBehind options.AcceptsBehind [] reason := by
  apply Cursor.take_stops failed ⟨[], Or.inl rfl⟩
  intro token wrong others accepted
  rcases accepted with impossible | ⟨comma, rest, shape, isComma, -⟩
  · cases impossible
  · obtain ⟨rfl, -⟩ := List.cons.inj shape
    exact wrong (Cursor.requires_iff.2 isComma)

/-- Where a reader stops in the options behind a comma, it stops behind the comma. -/
theorem Cursor.StopsBehind.behindComma {comma : Token} {next : Cursor} {before : List Token}
    (stops : next.StopsBehind options.Accepts before reason) (moved : cursor.Passes [comma] next)
    (isComma : comma.kind = .comma) :
    cursor.StopsBehind options.AcceptsBehind ([comma] ++ before) reason := by
  apply stops.behind moved
  · intro rest accepted
    exact Or.inr ⟨comma, rest, rfl, isComma, accepted⟩
  · rintro rest - (impossible | ⟨other, rest', shape, -, accepted⟩)
    · cases impossible
    · obtain ⟨-, rfl⟩ := List.cons.inj shape
      exact accepted

theorem Options.readInto_stops
    (failed : options.readInto cursor = (options', .error reason)) :
    ∃ before, cursor.StopsBehind options.Accepts before reason := by
  -- Every round that succeeds moves over an option and a comma, and stores the option.
  induction measured : cursor.remaining.length using Nat.strongRecOn
    generalizing options cursor with
  | ind size inductionHypothesis =>
      rw [Options.readInto] at failed
      split at failed
      · cases (Prod.mk.inj failed).2
      · split at failed
        · rename_i unread
          obtain rfl := Except.error.inj (Prod.mk.inj failed).2
          exact Options.readOption_stops unread
        · rename_i middle after read
          obtain ⟨setting, tokens, moved, option, fresh, rfl, ended⟩ :=
            Options.readOption_eq_ok_iff.1 read
          split at failed
          · cases (Prod.mk.inj failed).2
          · rename_i more
            have onward (rest : List Token)
                (accepted : (options.store setting).AcceptsBehind rest) :
                options.Accepts (tokens ++ rest) := by
              apply (Options.accepts_append_iff option fresh ?_).2 accepted
              intro _
              rcases accepted with rfl | ⟨comma, others, rfl, isComma, -⟩
              · simp
              · simp [isComma]
            have back (rest : List Token) (same : rest.head? = after.remaining.head?)
                (accepted : options.Accepts (tokens ++ rest)) :
                (options.store setting).AcceptsBehind rest := by
              apply (Options.accepts_append_iff option fresh ?_).1 accepted
              rw [same]
              exact fun alone => Cursor.startsWith_eq_false_iff.1 (ended alone)
            split at failed
            · rename_i untaken
              obtain rfl := Except.error.inj (Prod.mk.inj failed).2
              exact ⟨_, (takeComma_stops untaken).behind moved onward back⟩
            · rename_i comma rest taken
              obtain ⟨movedComma, isComma⟩ := Cursor.take_eq_ok_iff.1 taken
              have shorter : rest.remaining.length < size := by
                have fewer := Options.readOption_remaining_lt read
                rw [movedComma.remaining, List.length_append, measured] at fewer
                omega
              obtain ⟨before, stops⟩ := inductionHypothesis _ shorter failed rfl
              have behindOption := stops.behindComma movedComma (Cursor.requires_iff.1 isComma)
              exact ⟨_, behindOption.behind moved onward back⟩

end

/-! ## Paths -/

section
variable {cursor : Cursor} {reason : Diagnostic} {segment token : Token} {rest : List Token}

theorem takeSegment_stops (failed : takeSegment cursor = .error reason) :
    cursor.StopsBehind ExportArguments.Accepts [] reason := by
  unfold takeSegment at failed
  split at failed
  · rename_i token rest pending
    split at failed
    · exact absurd failed (Cursor.take_ne_error pending _)
    · rename_i unnamed
      rw [← Except.error.inj failed]
      have blamed : token.IsBlamedBy (.grammar .noModulePath cursor.currentSpan) := by
        refine ⟨?_, nofun⟩
        unfold Cursor.currentSpan
        rw [pending]
        rfl
      apply Cursor.stopsBehind_of_blamed pending blamed ExportArguments.exists_accepts
      intro others accepted
      exact unnamed (ExportArguments.accepts_cons_iff.1 accepted).1
  · rename_i ended
    rw [← Except.error.inj failed]
    apply Cursor.stopsBehind_of_end ended rfl _ ExportArguments.exists_accepts
    intro what found impossible
    cases impossible

theorem takeSegments_stops (failed : takeSegments cursor = .error reason) :
    ∃ before, cursor.StopsBehind ExportArguments.Accepts before reason := by
  induction measured : cursor.remaining.length using Nat.strongRecOn generalizing cursor with
  | ind size inductionHypothesis =>
      rw [takeSegments] at failed
      split at failed
      · rename_i untaken
        obtain rfl := Except.error.inj failed
        exact ⟨[], takeSegment_stops untaken⟩
      · rename_i segment after taken
        obtain ⟨moved, named⟩ := takeSegment_eq_ok_iff.1 taken
        split at failed
        · rename_i pending
          obtain ⟨dot, others, shape, isDot⟩ := Cursor.startsWith_iff.1 pending
          split at failed
          · rename_i untaken
            exact absurd untaken (Cursor.take_ne_error shape _)
          · rename_i dot' afterDot takenDot
            obtain ⟨movedDot, -⟩ := Cursor.take_eq_ok_iff.1 takenDot
            obtain ⟨rfl, -⟩ := List.cons.inj (shape.symm.trans movedDot.remaining)
            split at failed
            · rename_i inner
              obtain rfl := Except.error.inj failed
              have movedBoth := moved.append movedDot
              have shorter : afterDot.remaining.length < size := by
                rw [← measured, movedBoth.remaining, List.length_append]
                simp only [List.length_append, List.length_singleton]
                omega
              obtain ⟨before, stops⟩ := inductionHypothesis _ shorter inner rfl
              refine ⟨[segment, dot] ++ before, stops.behind movedBoth ?_ ?_⟩
              · intro rest accepted
                exact ExportArguments.accepts_cons_iff.2
                  ⟨named, Or.inr ⟨dot, rest, rfl, isDot, accepted⟩⟩
              · intro rest _ accepted
                rcases (ExportArguments.accepts_cons_iff.1 accepted).2 with
                  follows | ⟨_, _, same, -, accepted⟩
                · have isComma := follows.head? dot rfl
                  rw [isDot] at isComma
                  cases isComma
                · obtain ⟨-, rfl⟩ := List.cons.inj same
                  exact accepted
            · cases failed
        · cases failed

/-! ## What follows a path -/

/-- A path is read to its end. -/
theorem takeSegments_maximal {cursor next : Cursor} {first : Token} {others : List Token}
    (found : takeSegments cursor = .ok (first, others, next)) : next.startsWith .dot = false := by
  induction others generalizing cursor first with
  | nil =>
      obtain ⟨after, -, ⟨ended, -, rfl⟩ | ⟨_, _, _, _, -, -, -, impossible⟩⟩ :=
        takeSegments_eq_ok_iff_round.1 found
      · exact ended
      · cases impossible
  | cons second rest inductionHypothesis =>
      obtain ⟨after, -, ⟨-, impossible, -⟩ | ⟨_, _, _, _, -, -, more, same⟩⟩ :=
        takeSegments_eq_ok_iff_round.1 found
      · cases impossible
      · obtain ⟨rfl, rfl⟩ := List.cons.inj same
        exact inductionHypothesis more

/-- Behind an option record nothing is read at the end of a list, so that nothing fails there. -/
theorem Options.read_of_empty (ended : cursor.remaining = []) :
    Options.read cursor = .ok (.empty, cursor) := by
  unfold Options.read
  rw [Options.readInto, if_pos (Cursor.isEmpty_iff.2 ended)]

theorem Options.read_stops (failed : Options.read cursor = .error reason) :
    ∃ before, cursor.StopsBehind Options.empty.Accepts before reason := by
  unfold Options.read at failed
  split at failed
  · cases failed
  · rename_i found
    obtain rfl := Except.error.inj failed
    exact Options.readInto_stops found

/-- A literal that is taken stands in front of what may follow an option. -/
theorem Cursor.StopsBehind.behindLiteral {literal : Token} {next : Cursor} {before : List Token}
    (stops : next.StopsBehind Options.empty.AcceptsBehind before reason)
    (moved : cursor.Passes [literal] next) (quoted : literal.kind = .string) :
    cursor.StopsBehind ExportArguments.AcceptsBehindComma ([literal] ++ before) reason :=
  stops.behind moved
    (fun _ accepted => (ExportArguments.acceptsBehindComma_of_literal quoted).2 accepted)
    fun _ _ accepted => (ExportArguments.acceptsBehindComma_of_literal quoted).1 accepted

theorem takeLegacyName_stops (failed : takeLegacyName cursor = .error reason) :
    ∃ before, cursor.StopsBehind ExportArguments.AcceptsBehindComma before reason := by
  unfold takeLegacyName at failed
  split at failed
  · rename_i pending
    obtain ⟨literal, others, shape, quoted⟩ := Cursor.startsWith_iff.1 pending
    rcases bind_eq_error_iff.1 failed with untaken | ⟨⟨literal', next⟩, taken, failed⟩
    · exact absurd untaken (Cursor.take_ne_error shape _)
    · obtain ⟨moved, -⟩ := Cursor.take_eq_ok_iff.1 taken
      obtain ⟨rfl, -⟩ := List.cons.inj (shape.symm.trans moved.remaining)
      dsimp only at failed
      split at failed
      · cases failed
      · rcases bind_eq_error_iff.1 failed with untaken | ⟨_, -, impossible⟩
        · exact ⟨_, (takeComma_stops untaken).behindLiteral moved quoted⟩
        · cases impossible
  · cases failed

/-- The options go wrong behind the literal, if there is one, and its comma. -/
theorem readBehindComma_stops {legacyName : Option Token} {next : Cursor}
    (named : takeLegacyName cursor = .ok (legacyName, next))
    (failed : Options.read next = .error reason) :
    ∃ before, cursor.StopsBehind ExportArguments.AcceptsBehindComma before reason := by
  obtain ⟨before, stops⟩ := Options.read_stops failed
  rcases takeLegacyName_eq_ok_iff.1 named with
    ⟨unquoted, -, rfl⟩ |
    ⟨literal, after, moved, quoted, -, ⟨ended, rfl⟩ | ⟨comma, movedComma, isComma⟩⟩
  · refine ⟨_, stops.behind Cursor.passes_nil (fun _ accepted => Or.inl accepted) ?_⟩
    rintro rest same (accepted | ⟨literal, others, rfl, quoted, -⟩)
    · exact accepted
    · rw [Cursor.startsWith_eq_false_iff, ← same] at unquoted
      exact absurd quoted (unquoted literal rfl)
  · rw [Options.read_of_empty ended] at failed
    cases failed
  · exact ⟨_, (stops.behindComma movedComma isComma).behindLiteral moved quoted⟩

/-- **Reading arguments stops at the first token with which they cannot be continued**, or at the
end if there is none. -/
theorem ExportArguments.read_stops (failed : ExportArguments.read cursor = .error reason) :
    ∃ before, cursor.StopsBehind ExportArguments.Accepts before reason := by
  unfold ExportArguments.read at failed
  rcases bind_eq_error_iff.1 failed with unread | ⟨⟨path, afterPath⟩, foundPath, failed⟩
  · unfold takePath at unread
    rcases bind_eq_error_iff.1 unread with unread | ⟨segments, -, impossible⟩
    · exact takeSegments_stops unread
    · cases impossible
  · obtain ⟨first, others, segments, -⟩ := takePath_eq_ok_iff.1 foundPath
    obtain ⟨tokens, moved, written⟩ := takeSegments_sound segments
    have maximal := Cursor.startsWith_eq_false_iff.1 (takeSegments_maximal segments)
    have onward (rest : List Token) (follows : ExportArguments.AcceptsTail rest) :
        ExportArguments.Accepts (tokens ++ rest) := by
      apply (ExportArguments.accepts_append_iff written ?_).2 follows
      intro token member
      rw [follows.head? token member]
      exact Kind.noConfusion
    have back (rest : List Token) (same : rest.head? = afterPath.remaining.head?)
        (accepted : ExportArguments.Accepts (tokens ++ rest)) :
        ExportArguments.AcceptsTail rest :=
      (ExportArguments.accepts_append_iff written (same ▸ maximal)).1 accepted
    dsimp only at failed
    split at failed
    · cases failed
    · rcases bind_eq_error_iff.1 failed with untaken | ⟨⟨comma, afterComma⟩, taken, failed⟩
      · have stops : afterPath.StopsBehind ExportArguments.AcceptsTail [] reason := by
          apply Cursor.take_stops untaken ⟨[], ExportArguments.acceptsTail_nil⟩
          intro token wrong rest follows
          exact wrong (Cursor.requires_iff.2 (follows.head? token rfl))
        exact ⟨_, stops.behind moved onward back⟩
      · obtain ⟨movedComma, isComma⟩ := Cursor.take_eq_ok_iff.1 taken
        have stops : ∃ before,
            afterComma.StopsBehind ExportArguments.AcceptsBehindComma before reason := by
          rcases bind_eq_error_iff.1 failed with unnamed | ⟨⟨legacyName, rest⟩, named, failed⟩
          · exact takeLegacyName_stops unnamed
          · rcases bind_eq_error_iff.1 failed with unread | ⟨_, -, impossible⟩
            · exact readBehindComma_stops named unread
            · cases impossible
        obtain ⟨before, stops⟩ := stops
        have behindPath : afterPath.StopsBehind ExportArguments.AcceptsTail ([comma] ++ before)
            reason := by
          apply stops.behind movedComma
          · intro rest accepted
            exact ExportArguments.acceptsTail_cons_iff.2 ⟨Cursor.requires_iff.1 isComma, accepted⟩
          · intro rest _ accepted
            exact (ExportArguments.acceptsTail_cons_iff.1 accepted).2
        exact ⟨_, behindPath.behind moved onward back⟩

end

/-! ## The offender -/

/-- The tokens can be continued to arguments that are accepted. -/
def ExportArguments.Viable (tokens : List Token) : Prop :=
  ∃ rest origin arguments,
    ExportArguments.parse (.ofTokens (tokens ++ rest) origin) = .ok arguments

theorem ExportArguments.viable_iff {tokens : List Token} :
    ExportArguments.Viable tokens ↔ ∃ rest, ExportArguments.Accepts (tokens ++ rest) := by
  constructor
  · rintro ⟨rest, origin, arguments, found⟩
    exact ⟨rest, ExportArguments.accepts_iff.2 ⟨arguments, found⟩⟩
  · rintro ⟨rest, accepted⟩
    obtain ⟨arguments, found⟩ :=
      (ExportArguments.accepts_iff : _ ↔ ∃ arguments,
        ExportArguments.parse (.ofTokens (tokens ++ rest) none) = .ok arguments).1 accepted
    exact ⟨rest, none, arguments, found⟩

/-- The diagnostic blames the token at a place, or the last one if the place is the end. The tokens
in front of the place can be continued, but not with the token that stands there. -/
structure ExportArguments.BlamesOffender (tokens : List Token) (reason : Diagnostic)
    (place : Nat) : Prop where
  inside : place ≤ tokens.length
  blamed : ∃ token, tokens[place]?.or tokens.getLast? = some token ∧
    reason.span = some token.span
  found : ∀ what found, reason.cause = .expected what found →
    found = tokens[place]?.map Token.text
  viable : ExportArguments.Viable (tokens.take place)
  offends : place < tokens.length → ¬ ExportArguments.Viable (tokens.take (place + 1))

/-- **Refused arguments are blamed on the first token with which they go wrong.** An empty list is
blamed as a whole. In any other there is a place up to which the tokens can be continued to
arguments that are accepted, and no further; the token that stands there is blamed, and the last one
if that place is the end. -/
theorem ExportArguments.parse_blames_offender {tokens : List Token} {origin : Option Span}
    {reason : Diagnostic}
    (refused : ExportArguments.parse (.ofTokens tokens origin) = .error reason) :
    reason.family = .grammar ∧ (tokens = [] → reason.span = origin) ∧
      (tokens ≠ [] → ∃ place, ExportArguments.BlamesOffender tokens reason place) := by
  have failed := ExportArguments.parse_eq_error_iff.1 refused
  obtain ⟨before, stops⟩ := ExportArguments.read_stops failed
  obtain ⟨next, moved, span, found⟩ := stops.place
  have whole : tokens = before ++ next.remaining := moved.remaining
  have consumed : next.consumed = before.reverse := moved.consumed.trans (List.append_nil _)
  refine ⟨(ExportArguments.read_blames failed).family, ?_, ?_⟩
  · intro empty
    obtain ⟨rfl, ended⟩ := List.append_eq_nil_iff.1 (whole.symm.trans empty)
    rw [span, Cursor.currentSpan, ended, consumed]
    exact moved.origin
  · intro nonempty
    have next? : tokens[before.length]? = next.remaining.head? := by
      rw [whole, List.getElem?_append_right (Nat.le_refl _), Nat.sub_self, List.head?_eq_getElem?]
    have front : tokens.take before.length = before := by rw [whole, List.take_left]
    refine ⟨before.length, ?_, ?_, ?_, ?_, ?_⟩
    · rw [whole, List.length_append]
      omega
    · rw [next?, span]
      unfold Cursor.currentSpan
      cases ended : next.remaining with
      | cons token rest => exact ⟨token, rfl, rfl⟩
      | nil =>
          rw [ended, List.append_nil] at whole
          rw [consumed, ← whole]
          cases back : tokens.reverse with
          | nil => exact absurd (List.reverse_eq_nil_iff.1 back) nonempty
          | cons last others =>
              refine ⟨last, ?_, rfl⟩
              rw [List.getLast?_eq_head?_reverse, back]
              rfl
    · rw [next?]
      exact found
    · rw [front]
      exact ExportArguments.viable_iff.2 stops.viable
    · intro inside viable
      obtain ⟨others, accepted⟩ := ExportArguments.viable_iff.1 viable
      cases pending : next.remaining with
      | nil =>
          rw [whole, pending, List.append_nil] at inside
          exact absurd inside (Nat.lt_irrefl _)
      | cons token rest =>
          rw [pending] at whole
          have through : tokens.take (before.length + 1) = before ++ [token] := by
            rw [whole, List.take_append, List.take_of_length_le (Nat.le_succ _)]
            simp
          rw [through, List.append_assoc] at accepted
          exact stops.offends token rest whole others accepted

/-- Arguments with an option that is given twice. -/
def repeatedOption : List Token := tokenize "m, name = f, name" none

theorem ExportArguments.parse_blames_offender_repeatedOption :
    ExportArguments.parse (.ofTokens repeatedOption none) =
        .error (.grammar (.repeatedOption "name") (some ⟨⟨1, 13⟩, ⟨1, 17⟩⟩)) ∧
      ∃ place, ExportArguments.BlamesOffender repeatedOption
        (.grammar (.repeatedOption "name") (some ⟨⟨1, 13⟩, ⟨1, 17⟩⟩)) place := by
  have refused : ExportArguments.parse (.ofTokens repeatedOption none) =
      .error (.grammar (.repeatedOption "name") (some ⟨⟨1, 13⟩, ⟨1, 17⟩⟩)) := by decide +kernel
  obtain ⟨-, -, blames⟩ := ExportArguments.parse_blames_offender refused
  exact ⟨refused, blames (by decide +kernel)⟩

end ModuleGlue.Directive
