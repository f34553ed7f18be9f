import ModuleGlue.Proofs.Directive.Sentences

/-!
Contract: what the readers of export arguments blame their errors on.

Main statement: `ExportArguments.read_blames` (an error is one of the grammar, brings no record of a
legacy form along, and stands at a token; only an empty list is blamed as a whole).

Owns: the statement for each reader.

Does not own: which token is blamed.
-/

namespace ModuleGlue.Directive

open ModuleGlue.Text

/-- The diagnostic is one of the grammar, without records, at the place of a token of the list. -/
structure Cursor.Blames (cursor : Cursor) (diagnostic : Diagnostic) : Prop where
  family : diagnostic.family = .grammar
  deprecations : diagnostic.deprecations = none
  span : (∃ token ∈ cursor.tokens, diagnostic.span = some token.span) ∨
    (cursor.tokens = [] ∧ diagnostic.span = cursor.origin)

namespace Cursor

variable {cursor next : Cursor} {token : Token} {tokens : List Token} {diagnostic : Diagnostic}

/-- Blame does not depend on where in its list a cursor stands. -/
theorem Passes.blames (moved : cursor.Passes tokens next) (blamed : next.Blames diagnostic) :
    cursor.Blames diagnostic where
  family := blamed.family
  deprecations := blamed.deprecations
  span := by
    rw [← passes_tokens moved, ← moved.origin]
    exact blamed.span

theorem mem_tokens_of_passes (moved : cursor.Passes (token :: tokens) next) :
    token ∈ cursor.tokens := by
  unfold Cursor.tokens
  rw [moved.remaining]
  simp

theorem blames_token {cause : Cause} (member : token ∈ cursor.tokens) :
    cursor.Blames (.grammar cause token.span) :=
  ⟨rfl, rfl, Or.inl ⟨token, member, rfl⟩⟩

theorem blames_currentSpan {cause : Cause} : cursor.Blames (.grammar cause cursor.currentSpan) := by
  refine ⟨rfl, rfl, ?_⟩
  rcases cursor with ⟨consumed, remaining, origin⟩
  show (∃ token ∈ consumed.reverse ++ remaining, _ = some token.span) ∨
    (consumed.reverse ++ remaining = [] ∧ _ = origin)
  cases remaining with
  | cons token rest => exact Or.inl ⟨token, by simp, rfl⟩
  | nil =>
      cases consumed with
      | cons token rest => exact Or.inl ⟨token, by simp, rfl⟩
      | nil => exact Or.inr ⟨rfl, rfl⟩

theorem take_blames {kind : Option Kind} {expected : String}
    (failed : cursor.take kind expected = .error diagnostic) : cursor.Blames diagnostic := by
  unfold take at failed
  split at failed
  · rw [← Except.error.inj failed]
    exact blames_currentSpan
  · rename_i token rest pending
    split at failed
    · cases failed
    · rw [← Except.error.inj failed]
      apply blames_token
      unfold Cursor.tokens
      rw [pending]
      simp

end Cursor

/-! ## Single tokens -/

variable {cursor : Cursor} {token : Token} {diagnostic : Diagnostic}

theorem Token.stringValue_blames (member : token ∈ cursor.tokens)
    (failed : token.stringValue = .error diagnostic) : cursor.Blames diagnostic := by
  unfold Token.stringValue at failed
  split at failed
  · cases failed
  · rw [← Except.error.inj failed]
    exact Cursor.blames_token member

theorem Name.ofToken_blames (member : token ∈ cursor.tokens)
    (failed : Name.ofToken token = .error diagnostic) : cursor.Blames diagnostic := by
  unfold Name.ofToken at failed
  rcases bind_eq_error_iff.1 failed with undenoted | ⟨points, denoted, failed⟩
  · unfold Token.denotedName at undenoted
    split at undenoted
    · cases undenoted
    · exact Token.stringValue_blames member undenoted
    · rw [← Except.error.inj undenoted]
      exact Cursor.blames_token member
  · split at failed
    · split at failed
      · cases failed
      · rw [← Except.error.inj failed]
        exact Cursor.blames_token member
    · rw [← Except.error.inj failed]
      exact Cursor.blames_token member

theorem TextSignature.ofToken_blames (member : token ∈ cursor.tokens)
    (failed : TextSignature.ofToken token = .error diagnostic) : cursor.Blames diagnostic := by
  unfold TextSignature.ofToken at failed
  split at failed
  · cases failed
  · split at failed
    · rcases bind_eq_error_iff.1 failed with unevaluated | ⟨value, evaluated, failed⟩
      · exact Token.stringValue_blames member unevaluated
      · cases failed
    · rw [← Except.error.inj failed]
      exact Cursor.blames_token member

theorem readTruth_blames (member : token ∈ cursor.tokens)
    (failed : readTruth token = .error diagnostic) : cursor.Blames diagnostic := by
  unfold readTruth at failed
  split at failed
  · cases failed
  · split at failed
    · cases failed
    · rw [← Except.error.inj failed]
      exact Cursor.blames_token member

/-! ## Options -/

/-- Two tokens are taken and the second is read; whatever fails is blamed on a token. -/
theorem takeTwice_blames {α : Type} {first second : Option Kind} {sign what : String}
    {read : Token → Except Diagnostic α} {make : α → Setting}
    (blames : ∀ token ∈ cursor.tokens, ∀ reason, read token = .error reason → cursor.Blames reason)
    (failed : (do
      let (_, afterEquals) ← cursor.take first sign
      let (token, next) ← afterEquals.take second what
      let value ← read token
      .ok (make value, next)) = (.error diagnostic : Except Diagnostic (Setting × Cursor))) :
    cursor.Blames diagnostic := by
  rcases bind_eq_error_iff.1 failed with untaken | ⟨⟨equals, middle⟩, taken, failed⟩
  · exact Cursor.take_blames untaken
  · obtain ⟨moved, -⟩ := Cursor.take_eq_ok_iff.1 taken
    rcases bind_eq_error_iff.1 failed with untaken | ⟨⟨token, next⟩, taken, failed⟩
    · exact moved.blames (Cursor.take_blames untaken)
    · obtain ⟨moved', -⟩ := Cursor.take_eq_ok_iff.1 taken
      have member : token ∈ cursor.tokens := by
        rw [← Cursor.passes_tokens moved]
        exact Cursor.mem_tokens_of_passes moved'
      rcases bind_eq_error_iff.1 failed with unread | ⟨value, -, failed⟩
      · exact blames token member diagnostic unread
      · cases failed

theorem readSetting_blames {key : OptionKey}
    (failed : readSetting key cursor = .error diagnostic) : cursor.Blames diagnostic := by
  unfold readSetting at failed
  cases key with
  | name => exact takeTwice_blames (fun _ member _ => Name.ofToken_blames member) failed
  | textSignature =>
      exact takeTwice_blames (fun _ member _ => TextSignature.ofToken_blames member) failed
  | passModule =>
      dsimp only at failed
      split at failed
      · exact takeTwice_blames (fun _ member _ => readTruth_blames member) failed
      · cases failed

theorem Options.readOption_blames {options options' : Options}
    (failed : options.readOption cursor = (options', .error diagnostic)) :
    cursor.Blames diagnostic := by
  unfold Options.readOption at failed
  split at failed
  · rename_i untaken
    obtain rfl := Except.error.inj (Prod.mk.inj failed).2
    exact Cursor.take_blames untaken
  · rename_i token afterKey taken
    obtain ⟨moved, -⟩ := Cursor.take_eq_ok_iff.1 taken
    have member := Cursor.mem_tokens_of_passes moved
    split at failed
    · rw [← Except.error.inj (Prod.mk.inj failed).2]
      exact Cursor.blames_token member
    · split at failed
      · rw [← Except.error.inj (Prod.mk.inj failed).2]
        exact Cursor.blames_token member
      · split at failed
        · rename_i unread
          obtain rfl := Except.error.inj (Prod.mk.inj failed).2
          exact moved.blames (readSetting_blames unread)
        · cases (Prod.mk.inj failed).2

theorem Options.readInto_blames {options options' : Options}
    (failed : options.readInto cursor = (options', .error diagnostic)) :
    cursor.Blames diagnostic := by
  induction measured : cursor.remaining.length using Nat.strongRecOn
    generalizing options cursor with
  | ind size inductionHypothesis =>
      rw [Options.readInto] at failed
      split at failed
      · cases (Prod.mk.inj failed).2
      · split at failed
        · rename_i unread
          obtain rfl := Except.error.inj (Prod.mk.inj failed).2
          exact Options.readOption_blames unread
        · rename_i middle after read
          obtain ⟨setting, tokens, moved, -⟩ := Options.readOption_eq_ok_iff.1 read
          split at failed
          · cases (Prod.mk.inj failed).2
          · split at failed
            · rename_i untaken
              obtain rfl := Except.error.inj (Prod.mk.inj failed).2
              exact moved.blames (Cursor.take_blames untaken)
            · rename_i comma rest taken
              obtain ⟨movedComma, -⟩ := Cursor.take_eq_ok_iff.1 taken
              have shorter : rest.remaining.length < size := by
                have fewer := Options.readOption_remaining_lt read
                rw [movedComma.remaining, List.length_append, measured] at fewer
                omega
              exact moved.blames (movedComma.blames (inductionHypothesis _ shorter failed rfl))

theorem Options.read_blames (failed : Options.read cursor = .error diagnostic) :
    cursor.Blames diagnostic := by
  unfold Options.read at failed
  split at failed
  · cases failed
  · rename_i found
    obtain rfl := Except.error.inj failed
    exact Options.readInto_blames found

/-! ## Whole arguments -/

theorem takeSegment_blames (failed : takeSegment cursor = .error diagnostic) :
    cursor.Blames diagnostic := by
  unfold takeSegment at failed
  split at failed
  · split at failed
    · exact Cursor.take_blames failed
    · rw [← Except.error.inj failed]
      exact Cursor.blames_currentSpan
  · rw [← Except.error.inj failed]
    exact Cursor.blames_currentSpan

theorem takeSegments_blames (failed : takeSegments cursor = .error diagnostic) :
    cursor.Blames diagnostic := by
  induction measured : cursor.remaining.length using Nat.strongRecOn generalizing cursor with
  | ind size inductionHypothesis =>
      rw [takeSegments] at failed
      split at failed
      · rename_i untaken
        obtain rfl := Except.error.inj failed
        exact takeSegment_blames untaken
      · rename_i segment after taken
        obtain ⟨moved, -⟩ := takeSegment_eq_ok_iff.1 taken
        split at failed
        · split at failed
          · rename_i untaken
            obtain rfl := Except.error.inj failed
            exact moved.blames (Cursor.take_blames untaken)
          · rename_i dot afterDot takenDot
            obtain ⟨movedDot, -⟩ := Cursor.take_eq_ok_iff.1 takenDot
            split at failed
            · rename_i inner
              obtain rfl := Except.error.inj failed
              have shorter : afterDot.remaining.length < size := by
                rw [← measured, moved.remaining, movedDot.remaining, List.length_append,
                  List.length_append]
                simp
                omega
              exact moved.blames (movedDot.blames (inductionHypothesis _ shorter inner rfl))
            · cases failed
        · cases failed

theorem takeLegacyName_blames (failed : takeLegacyName cursor = .error diagnostic) :
    cursor.Blames diagnostic := by
  unfold takeLegacyName at failed
  split at failed
  · rcases bind_eq_error_iff.1 failed with untaken | ⟨⟨literal, next⟩, taken, failed⟩
    · exact Cursor.take_blames untaken
    · obtain ⟨moved, -⟩ := Cursor.take_eq_ok_iff.1 taken
      dsimp only at failed
      split at failed
      · cases failed
      · rcases bind_eq_error_iff.1 failed with untaken | ⟨⟨comma, after⟩, -, failed⟩
        · exact moved.blames (Cursor.take_blames untaken)
        · cases failed
  · cases failed

/-- Whatever is wrong with export arguments is blamed on one of their tokens, if there is any. -/
theorem ExportArguments.read_blames (failed : ExportArguments.read cursor = .error diagnostic) :
    cursor.Blames diagnostic := by
  unfold ExportArguments.read at failed
  rcases bind_eq_error_iff.1 failed with unread | ⟨⟨path, afterPath⟩, foundPath, failed⟩
  · unfold takePath at unread
    rcases bind_eq_error_iff.1 unread with unread | ⟨segments, -, failed⟩
    · exact takeSegments_blames unread
    · cases failed
  · obtain ⟨first, others, segments, -⟩ := takePath_eq_ok_iff.1 foundPath
    obtain ⟨tokens, moved, -⟩ := takeSegments_sound segments
    dsimp only at failed
    split at failed
    · cases failed
    · rcases bind_eq_error_iff.1 failed with untaken | ⟨⟨comma, afterComma⟩, taken, failed⟩
      · exact moved.blames (Cursor.take_blames untaken)
      · obtain ⟨movedComma, -⟩ := Cursor.take_eq_ok_iff.1 taken
        rcases bind_eq_error_iff.1 failed with unnamed | ⟨⟨legacyName, rest⟩, named, failed⟩
        · exact moved.blames (movedComma.blames (takeLegacyName_blames unnamed))
        · rcases bind_eq_error_iff.1 failed with unread | ⟨⟨options, final⟩, -, failed⟩
          · obtain ⟨taken, movedName⟩ := takeLegacyName_passes named
            exact moved.blames (movedComma.blames (movedName.blames (Options.read_blames unread)))
          · cases failed

/-! ## Whatever is said of arguments -/

/-- Whatever is said of the pending tokens is said at one of them: the legacy name is a token, and
errors are blamed on tokens. -/
structure Cursor.ReportsTokens (cursor : Cursor) : Prop where
  legacyName : ∀ arguments literal, ExportArguments.parse cursor = .ok arguments →
    arguments.legacyName = some literal → literal ∈ cursor.tokens
  arguments : ∀ reason, ExportArguments.parse cursor = .error reason → cursor.Blames reason
  options : ∀ options options' reason,
    Options.readInto options cursor = (options', .error reason) → cursor.Blames reason

theorem TailTokens.legacyName_mem {literal : Token} {settings : List Setting} {tokens : List Token}
    (tail : TailTokens (some literal) settings tokens) : literal ∈ tokens := by
  cases tail with
  | legacy => simp
  | legacyComma => simp
  | legacyOptions => simp

theorem Cursor.reportsTokens (cursor : Cursor) : cursor.ReportsTokens where
  legacyName arguments literal accepted legacy := by
    obtain ⟨final, read⟩ := ExportArguments.parse_eq_ok_iff.1 accepted
    obtain ⟨-, sentence, ⟨path, tail, pending, -, follows, -⟩, rfl⟩ :=
      ExportArguments.read_sound read
    have named : sentence.legacyName = some literal := legacy
    rw [named] at follows
    unfold Cursor.tokens
    rw [pending]
    exact List.mem_append_right _ (List.mem_append_right _ follows.legacyName_mem)
  arguments reason refused :=
    ExportArguments.read_blames (ExportArguments.parse_eq_error_iff.1 refused)
  options options options' reason refused := Options.readInto_blames refused

end ModuleGlue.Directive
