import ModuleGlue.Proofs.Directive.OptionList

/-!
Contract: export arguments are read exactly where the grammar has a sentence.

Main statement: `ExportArguments.read_eq_ok_iff_isWrittenAs` (arguments are read exactly if the
tokens write a sentence; then they are what the sentence denotes, and no token is left).

Owns: both directions for paths, legacy names and whole arguments.

Does not own: option lists, and the merge of the legacy name.
-/

namespace ModuleGlue.Directive

open ModuleGlue.Text

/-! ## Paths -/

theorem takeSegment_eq_ok_iff {cursor next : Cursor} {token : Token} :
    takeSegment cursor = .ok (token, next) ↔ cursor.Passes [token] next ∧ token.IsSegment := by
  unfold takeSegment Token.IsSegment
  constructor
  · intro taken
    split at taken
    · rename_i first rest pending
      split at taken
      · rename_i named
        obtain ⟨moved, -⟩ := Cursor.take_eq_ok_iff.1 taken
        obtain ⟨rfl, -⟩ := List.cons.inj (pending.symm.trans moved.remaining)
        exact ⟨moved, named⟩
      · cases taken
    · cases taken
  · rintro ⟨moved, named⟩
    rw [moved.remaining, List.singleton_append]
    dsimp only
    rw [if_pos named]
    exact Cursor.take_eq_ok_iff.2 ⟨moved, rfl⟩

/-- One round of the loop: a segment is the last one, or a dot and more segments follow it. -/
theorem takeSegments_eq_ok_iff_round {cursor next : Cursor} {first : Token} {others : List Token} :
    takeSegments cursor = .ok (first, others, next) ↔
      ∃ after, takeSegment cursor = .ok (first, after) ∧
        ((after.startsWith .dot = false ∧ others = [] ∧ next = after) ∨
          ∃ dot afterDot second rest, after.take none "" = .ok (dot, afterDot) ∧ dot.kind = .dot ∧
            takeSegments afterDot = .ok (second, rest, next) ∧ others = second :: rest) := by
  constructor
  · intro found
    rw [takeSegments] at found
    split at found
    · cases found
    · rename_i segment after taken
      split at found
      · rename_i pending
        split at found
        · cases found
        · rename_i dot afterDot takenDot
          split at found
          · cases found
          · rename_i second rest last more
            obtain ⟨rfl, same⟩ := Prod.mk.inj (Except.ok.inj found)
            obtain ⟨rfl, rfl⟩ := Prod.mk.inj same
            obtain ⟨token, others, shape, isDot⟩ := Cursor.startsWith_iff.1 pending
            have pendingDot := Cursor.take_remaining takenDot
            obtain ⟨rfl, -⟩ := List.cons.inj (shape.symm.trans pendingDot)
            exact ⟨after, taken, Or.inr ⟨_, afterDot, second, rest, takenDot, isDot, more, rfl⟩⟩
      · rename_i notPending
        obtain ⟨rfl, same⟩ := Prod.mk.inj (Except.ok.inj found)
        obtain ⟨rfl, rfl⟩ := Prod.mk.inj same
        exact ⟨after, taken, Or.inl ⟨by simpa using notPending, rfl, rfl⟩⟩
  · rintro ⟨after, taken, outcome⟩
    rw [takeSegments]
    split
    · rename_i failed
      rw [taken] at failed
      cases failed
    · rename_i segment after' again
      rw [taken] at again
      obtain ⟨rfl, rfl⟩ := Prod.mk.inj (Except.ok.inj again)
      rcases outcome with ⟨notPending, rfl, rfl⟩ |
        ⟨dot, afterDot, second, rest, takenDot, isDot, more, rfl⟩
      · rw [notPending]
        rfl
      · have pending := Cursor.startsWith_iff.2 ⟨dot, _, Cursor.take_remaining takenDot, isDot⟩
        rw [if_pos pending]
        split
        · rename_i failed
          rw [takenDot] at failed
          cases failed
        · rename_i dot' afterDot' again
          rw [takenDot] at again
          obtain ⟨rfl, rfl⟩ := Prod.mk.inj (Except.ok.inj again)
          rw [more]

/-- Segments are read as long as dots follow them. -/
theorem takeSegments_sound {cursor next : Cursor} {first : Token} {others : List Token}
    (found : takeSegments cursor = .ok (first, others, next)) :
    ∃ tokens, cursor.Passes tokens next ∧ PathTokens (first :: others) tokens := by
  induction others generalizing cursor first with
  | nil =>
      obtain ⟨after, taken, outcome⟩ := takeSegments_eq_ok_iff_round.1 found
      obtain ⟨moved, named⟩ := takeSegment_eq_ok_iff.1 taken
      rcases outcome with ⟨-, -, rfl⟩ | ⟨dot, afterDot, second, rest, -, -, -, impossible⟩
      · exact ⟨[first], moved, .last named⟩
      · cases impossible
  | cons second rest inductionHypothesis =>
      obtain ⟨after, taken, outcome⟩ := takeSegments_eq_ok_iff_round.1 found
      obtain ⟨moved, named⟩ := takeSegment_eq_ok_iff.1 taken
      rcases outcome with ⟨-, impossible, -⟩ | ⟨dot, afterDot, _, _, takenDot, isDot, more, same⟩
      · cases impossible
      · obtain ⟨rfl, rfl⟩ := List.cons.inj same
        obtain ⟨movedDot, -⟩ := Cursor.take_eq_ok_iff.1 takenDot
        obtain ⟨tokens, movedRest, path⟩ := inductionHypothesis more
        exact ⟨first :: dot :: tokens, moved.append (movedDot.append movedRest),
          .more named isDot path⟩

/-- A path has a first segment. -/
theorem PathTokens.exists_cons {segments tokens : List Token} (path : PathTokens segments tokens) :
    ∃ first others, segments = first :: others := by
  cases path with
  | last named | more named joined rest => exact ⟨_, _, rfl⟩

theorem takeSegments_complete {cursor : Cursor} {segments tokens rest : List Token}
    (pending : cursor.remaining = tokens ++ rest) (path : PathTokens segments tokens)
    (maximal : ∀ token ∈ rest.head?, token.kind ≠ .dot) :
    ∃ first others next, segments = first :: others ∧ cursor.Passes tokens next ∧
      next.remaining = rest ∧ takeSegments cursor = .ok (first, others, next) := by
  induction path generalizing cursor with
  | @last segment named =>
      obtain ⟨next, moved, left⟩ := Cursor.exists_passes [segment] rest pending
      refine ⟨segment, [], next, rfl, moved, left, takeSegments_eq_ok_iff_round.2
        ⟨next, takeSegment_eq_ok_iff.2 ⟨moved, named⟩, Or.inl ⟨?_, rfl, rfl⟩⟩⟩
      exact Cursor.startsWith_eq_false_iff.2 (left ▸ maximal)
  | @more segment dot segments tokens named isDot path inductionHypothesis =>
      obtain ⟨after, moved, left⟩ :=
        Cursor.exists_passes [segment] (dot :: (tokens ++ rest)) pending
      obtain ⟨afterDot, movedDot, left⟩ := Cursor.exists_passes [dot] (tokens ++ rest) left
      obtain ⟨second, others, next, rfl, movedRest, left, found⟩ := inductionHypothesis left
      exact ⟨segment, second :: others, next, rfl, moved.append (movedDot.append movedRest), left,
        takeSegments_eq_ok_iff_round.2 ⟨after, takeSegment_eq_ok_iff.2 ⟨moved, named⟩,
          Or.inr ⟨dot, afterDot, second, others, Cursor.take_eq_ok_iff.2 ⟨movedDot, rfl⟩, isDot,
            found, rfl⟩⟩⟩

theorem takePath_eq_ok_iff {cursor next : Cursor} {path : ModulePath} :
    takePath cursor = .ok (path, next) ↔
      ∃ first others, takeSegments cursor = .ok (first, others, next) ∧
        path = (Sentence.mk first others none []).path := by
  unfold takePath
  simp only [bind_eq_ok_iff, Prod.exists]
  constructor
  · rintro ⟨first, others, after, found, same⟩
    obtain ⟨rfl, rfl⟩ := Prod.mk.inj (Except.ok.inj same)
    exact ⟨first, others, found, rfl⟩
  · rintro ⟨first, others, found, rfl⟩
    exact ⟨first, others, next, found, rfl⟩

/-! ## What follows the path -/

/-- A pending literal is taken, and with it the comma that separates it from more. -/
theorem takeLegacyName_eq_ok_iff {cursor next : Cursor} {legacyName : Option Token} :
    takeLegacyName cursor = .ok (legacyName, next) ↔
      (cursor.startsWith .string = false ∧ legacyName = none ∧ next = cursor) ∨
      ∃ literal after, cursor.Passes [literal] after ∧ literal.kind = .string ∧
        legacyName = some literal ∧
          ((after.remaining = [] ∧ next = after) ∨
            ∃ comma, after.Passes [comma] next ∧ comma.kind = .comma) := by
  unfold takeLegacyName
  split
  · rename_i pending
    obtain ⟨literal, rest, shape, quoted⟩ := Cursor.startsWith_iff.1 pending
    simp only [bind_eq_ok_iff, Prod.exists, Cursor.take_eq_ok_iff]
    constructor
    · rintro ⟨first, after, ⟨moved, -⟩, found⟩
      obtain ⟨rfl, -⟩ := List.cons.inj (shape.symm.trans moved.remaining)
      refine Or.inr ⟨literal, after, moved, quoted, ?_⟩
      split at found
      · rename_i empty
        obtain ⟨rfl, rfl⟩ := Prod.mk.inj (Except.ok.inj found)
        exact ⟨rfl, Or.inl ⟨Cursor.isEmpty_iff.1 empty, rfl⟩⟩
      · simp only [bind_eq_ok_iff, Prod.exists, Cursor.take_eq_ok_iff] at found
        obtain ⟨comma, afterComma, ⟨movedComma, separator⟩, same⟩ := found
        obtain ⟨rfl, rfl⟩ := Prod.mk.inj (Except.ok.inj same)
        exact ⟨rfl, Or.inr ⟨comma, movedComma, Cursor.requires_iff.1 separator⟩⟩
    · rintro (⟨notPending, -, -⟩ | ⟨literal', after, moved, -, rfl, outcome⟩)
      · rw [pending] at notPending
        cases notPending
      · refine ⟨literal', after, ⟨moved, rfl⟩, ?_⟩
        rcases outcome with ⟨empty, rfl⟩ | ⟨comma, movedComma, separator⟩
        · rw [if_pos (Cursor.isEmpty_iff.2 empty)]
        · have more : ¬ after.isEmpty = true := by
            rw [Cursor.isEmpty_iff, movedComma.remaining]
            exact List.cons_ne_nil _ _
          rw [if_neg more]
          simp only [bind_eq_ok_iff, Prod.exists, Cursor.take_eq_ok_iff]
          exact ⟨comma, next, ⟨movedComma, Cursor.requires_iff.2 separator⟩, rfl⟩
  · rename_i notPending
    constructor
    · intro found
      obtain ⟨rfl, rfl⟩ := Prod.mk.inj (Except.ok.inj found)
      exact Or.inl ⟨by simpa using notPending, rfl, rfl⟩
    · rintro (⟨-, rfl, rfl⟩ | ⟨literal, after, moved, quoted, -, -⟩)
      · rfl
      · exact absurd (Cursor.startsWith_iff.2 ⟨literal, _, moved.remaining, quoted⟩) notPending

theorem takeLegacyName_passes {cursor next : Cursor} {legacyName : Option Token}
    (named : takeLegacyName cursor = .ok (legacyName, next)) :
    ∃ tokens, cursor.Passes tokens next := by
  rcases takeLegacyName_eq_ok_iff.1 named with
    ⟨-, -, rfl⟩ | ⟨literal, after, moved, -, -, ⟨-, rfl⟩ | ⟨comma, movedComma, -⟩⟩
  · exact ⟨[], Cursor.passes_nil⟩
  · exact ⟨[literal], moved⟩
  · exact ⟨[literal, comma], moved.append movedComma⟩

/-- The forms of a tail, with the options that may be missing in one place. -/
theorem tailTokens_iff {legacyName : Option Token} {settings : List Setting}
    {tokens : List Token} :
    TailTokens legacyName settings tokens ↔
      (tokens = [] ∧ legacyName = none ∧ settings = []) ∨
      ∃ comma rest, tokens = comma :: rest ∧ comma.kind = .comma ∧
        ((legacyName = none ∧ WritesOptions settings rest) ∨
          ∃ literal, legacyName = some literal ∧ literal.kind = .string ∧
            ((rest = [literal] ∧ settings = []) ∨
              ∃ second others, rest = literal :: second :: others ∧ second.kind = .comma ∧
                WritesOptions settings others)) := by
  constructor
  · intro tail
    cases tail with
    | nothing => exact Or.inl ⟨rfl, rfl, rfl⟩
    | comma separator =>
        exact Or.inr ⟨_, _, rfl, separator, Or.inl ⟨rfl, Or.inl ⟨rfl, rfl⟩⟩⟩
    | legacy separator quoted =>
        exact Or.inr ⟨_, _, rfl, separator, Or.inr ⟨_, rfl, quoted, Or.inl ⟨rfl, rfl⟩⟩⟩
    | legacyComma separator quoted trailing =>
        exact Or.inr ⟨_, _, rfl, separator,
          Or.inr ⟨_, rfl, quoted, Or.inr ⟨_, _, rfl, trailing, Or.inl ⟨rfl, rfl⟩⟩⟩⟩
    | legacyOptions separator quoted trailing options =>
        exact Or.inr ⟨_, _, rfl, separator,
          Or.inr ⟨_, rfl, quoted, Or.inr ⟨_, _, rfl, trailing, Or.inr options⟩⟩⟩
    | options separator options =>
        exact Or.inr ⟨_, _, rfl, separator, Or.inl ⟨rfl, Or.inr options⟩⟩
  · rintro (⟨rfl, rfl, rfl⟩ | ⟨comma, rest, rfl, separator, ⟨rfl, written⟩ |
      ⟨literal, rfl, quoted, ⟨rfl, rfl⟩ | ⟨second, others, rfl, trailing, written⟩⟩⟩)
    · exact .nothing
    · rcases written with ⟨rfl, rfl⟩ | options
      · exact .comma separator
      · exact .options separator options
    · exact .legacy separator quoted
    · rcases written with ⟨rfl, rfl⟩ | options
      · exact .legacyComma separator quoted trailing
      · exact .legacyOptions separator quoted trailing options

/-- Options of their own are read where the grammar has a list of them, or nothing is left. -/
theorem Options.read_eq_ok_iff {cursor next : Cursor} {options : Options} :
    Options.read cursor = .ok (options, next) ↔
      cursor.Passes cursor.remaining next ∧ ∃ settings, WritesOptions settings cursor.remaining ∧
        (settings.map Setting.key).Nodup ∧ options = Options.empty.extend settings := by
  simp only [← Options.admits_empty_iff]
  rw [← Options.readInto_eq_ok_iff]
  unfold Options.read
  split
  · rename_i found
    rw [found]
    simp
  · rename_i failed
    rw [failed]
    simp

/-- An option list of its own is read exactly where the grammar has one. -/
theorem Options.parse_eq_ok_iff {cursor : Cursor} {options : Options} :
    Options.parse cursor = .ok options ↔
      ∃ settings, WritesOptions settings cursor.remaining ∧ (settings.map Setting.key).Nodup ∧
        options = Options.empty.extend settings := by
  obtain ⟨final, moved, -⟩ := Cursor.exists_passes cursor.remaining [] (List.append_nil _).symm
  unfold Options.parse
  constructor
  · intro found
    cases read : Options.read cursor with
    | error reason =>
        rw [read] at found
        cases found
    | ok pair =>
        rw [read] at found
        obtain rfl := Except.ok.inj found
        exact (Options.read_eq_ok_iff.1 read).2
  · rintro ⟨settings, written, distinct, rfl⟩
    rw [Options.read_eq_ok_iff.2 ⟨moved, settings, written, distinct, rfl⟩]
    rfl

/-- What follows the comma behind the path, if the cursor stands there. -/
theorem takeRest_sound {cursor final : Cursor} {comma : Token} {legacyName : Option Token}
    {options : Options} {afterComma rest : Cursor} (separator : comma.kind = .comma)
    (movedComma : cursor.Passes [comma] afterComma)
    (named : takeLegacyName afterComma = .ok (legacyName, rest))
    (read : Options.read rest = .ok (options, final)) :
    cursor.Passes cursor.remaining final ∧ ∃ settings,
      TailTokens legacyName settings cursor.remaining ∧ (settings.map Setting.key).Nodup ∧
        options = Options.empty.extend settings := by
  obtain ⟨movedRest, settings, written, distinct, rfl⟩ := Options.read_eq_ok_iff.1 read
  rcases takeLegacyName_eq_ok_iff.1 named with
    ⟨-, rfl, rfl⟩ |
      ⟨literal, after, moved, quoted, rfl, ⟨empty, rfl⟩ | ⟨second, movedSecond, isComma⟩⟩
  · have whole : cursor.remaining = comma :: rest.remaining := movedComma.remaining
    rw [whole]
    exact ⟨movedComma.append movedRest, settings,
      tailTokens_iff.2 (Or.inr ⟨comma, _, rfl, separator, Or.inl ⟨rfl, written⟩⟩), distinct, rfl⟩
  · have whole : cursor.remaining = [comma, literal] := by
      rw [movedComma.remaining, moved.remaining, empty]
      rfl
    have none : settings = [] := by
      rcases written with ⟨none, -⟩ | options
      · exact none
      · obtain ⟨key, others, shape, -⟩ := options.exists_cons
        rw [empty] at shape
        cases shape
    rw [empty] at movedRest
    rw [whole]
    exact ⟨(movedComma.append moved).append movedRest, settings,
      tailTokens_iff.2 (Or.inr ⟨comma, _, rfl, separator,
        Or.inr ⟨literal, rfl, quoted, Or.inl ⟨rfl, none⟩⟩⟩), distinct, rfl⟩
  · have whole : cursor.remaining = comma :: literal :: second :: rest.remaining := by
      rw [movedComma.remaining, moved.remaining, movedSecond.remaining]
      rfl
    rw [whole]
    exact ⟨movedComma.append (moved.append (movedSecond.append movedRest)), settings,
      tailTokens_iff.2 (Or.inr ⟨comma, _, rfl, separator,
        Or.inr ⟨literal, rfl, quoted, Or.inr ⟨second, _, rfl, isComma, written⟩⟩⟩), distinct, rfl⟩

/-- What the grammar allows behind the path is read. -/
theorem takeRest_complete {cursor : Cursor} {legacyName : Option Token} {settings : List Setting}
    (tail : TailTokens legacyName settings cursor.remaining)
    (distinct : (settings.map Setting.key).Nodup) (pending : cursor.remaining ≠ []) :
    ∃ comma afterComma rest final, cursor.take (some .comma) "`,`" = .ok (comma, afterComma) ∧
      takeLegacyName afterComma = .ok (legacyName, rest) ∧
        Options.read rest = .ok (Options.empty.extend settings, final) := by
  rcases tailTokens_iff.1 tail with ⟨empty, -, -⟩ | ⟨comma, tokens, shape, separator, outcome⟩
  · exact absurd empty pending
  · obtain ⟨afterComma, movedComma, left⟩ := Cursor.exists_passes [comma] tokens shape
    have taken : cursor.take (some .comma) "`,`" = .ok (comma, afterComma) :=
      Cursor.take_eq_ok_iff.2 ⟨movedComma, Cursor.requires_iff.2 separator⟩
    rcases outcome with ⟨rfl, written⟩ |
      ⟨literal, rfl, quoted, ⟨rfl, rfl⟩ | ⟨second, others, rfl, isComma, written⟩⟩
    · obtain ⟨final, movedRest, left'⟩ := Cursor.exists_passes tokens []
        (left.trans (List.append_nil _).symm)
      refine ⟨comma, afterComma, afterComma, final, taken,
        takeLegacyName_eq_ok_iff.2 (Or.inl ⟨?_, rfl, rfl⟩),
        Options.read_eq_ok_iff.2 ⟨left ▸ movedRest, settings, left ▸ written, distinct, rfl⟩⟩
      rw [Cursor.startsWith_eq_false_iff, left]
      intro first member
      rcases written with ⟨-, rfl⟩ | options
      · cases member
      · obtain ⟨key, others, rfl, word⟩ := options.exists_cons
        obtain rfl := Option.some.inj member
        rw [word]
        exact Kind.noConfusion
    · obtain ⟨after, moved, empty⟩ := Cursor.exists_passes [literal] [] left
      refine ⟨comma, afterComma, after, after, taken, takeLegacyName_eq_ok_iff.2
          (Or.inr ⟨literal, after, moved, quoted, rfl, Or.inl ⟨empty, rfl⟩⟩),
        Options.read_eq_ok_iff.2 ⟨?_, [], Or.inl ⟨rfl, empty⟩, distinct, rfl⟩⟩
      rw [empty]
      exact Cursor.passes_nil
    · obtain ⟨after, moved, left⟩ := Cursor.exists_passes [literal] (second :: others) left
      obtain ⟨rest, movedSecond, left⟩ := Cursor.exists_passes [second] others left
      obtain ⟨final, movedRest, -⟩ := Cursor.exists_passes others []
        (left.trans (List.append_nil _).symm)
      exact ⟨comma, afterComma, rest, final, taken, takeLegacyName_eq_ok_iff.2
          (Or.inr ⟨literal, after, moved, quoted, rfl, Or.inr ⟨second, movedSecond, isComma⟩⟩),
        Options.read_eq_ok_iff.2 ⟨left ▸ movedRest, settings, left ▸ written, distinct, rfl⟩⟩

/-! ## Whole arguments -/

theorem ExportArguments.read_sound {cursor final : Cursor} {arguments : ExportArguments}
    (found : ExportArguments.read cursor = .ok (arguments, final)) :
    cursor.Passes cursor.remaining final ∧
      ∃ sentence : Sentence, sentence.IsWrittenAs cursor.remaining ∧
        arguments = sentence.denotation := by
  unfold ExportArguments.read at found
  simp only [bind_eq_ok_iff, Prod.exists] at found
  obtain ⟨path, afterPath, foundPath, found⟩ := found
  obtain ⟨first, others, segments, rfl⟩ := takePath_eq_ok_iff.1 foundPath
  obtain ⟨tokens, movedPath, written⟩ := takeSegments_sound segments
  split at found
  · rename_i empty
    obtain ⟨rfl, rfl⟩ := Prod.mk.inj (Except.ok.inj found)
    have whole : cursor.remaining = tokens := by
      rw [movedPath.remaining, Cursor.isEmpty_iff.1 empty, List.append_nil]
    rw [whole]
    refine ⟨movedPath, ⟨first, others, none, []⟩, ⟨tokens, [], ?_, written, .nothing, ?_⟩, ?_⟩
    · exact (List.append_nil _).symm
    · exact List.nodup_nil
    · simp [Sentence.denotation, Sentence.path]
  · simp only [bind_eq_ok_iff, Prod.exists, Cursor.take_eq_ok_iff] at found
    obtain ⟨comma, afterComma, ⟨movedComma, isComma⟩, legacyName, rest, named, options, next, read,
      same⟩ := found
    obtain ⟨rfl, rfl⟩ := Prod.mk.inj (Except.ok.inj same)
    obtain ⟨movedTail, settings, tail, distinct, rfl⟩ :=
      takeRest_sound (Cursor.requires_iff.1 isComma) movedComma named read
    rw [movedPath.remaining]
    exact ⟨movedPath.append movedTail, ⟨first, others, legacyName, settings⟩,
      ⟨tokens, _, rfl, written, tail, distinct⟩, rfl⟩

theorem ExportArguments.read_complete {cursor : Cursor} {sentence : Sentence}
    (written : sentence.IsWrittenAs cursor.remaining) :
    ∃ final, ExportArguments.read cursor = .ok (sentence.denotation, final) := by
  obtain ⟨path, tail, shape, segments, follows, distinct⟩ := written
  have maximal : ∀ token ∈ tail.head?, token.kind ≠ .dot := by
    intro token member
    rcases tailTokens_iff.1 follows with ⟨rfl, -, -⟩ | ⟨comma, rest, rfl, separator, -⟩
    · cases member
    · obtain rfl := Option.some.inj member
      rw [separator]
      exact Kind.noConfusion
  obtain ⟨first, others, afterPath, same, movedPath, left, found⟩ :=
    takeSegments_complete shape segments maximal
  obtain ⟨rfl, rfl⟩ := List.cons.inj same
  have foundPath : takePath cursor = .ok (sentence.path, afterPath) :=
    takePath_eq_ok_iff.2 ⟨_, _, found, rfl⟩
  unfold ExportArguments.read
  simp only [bind_eq_ok_iff, Prod.exists]
  by_cases empty : tail = []
  · subst empty
    have nothing : sentence.legacyName = none ∧ sentence.settings = [] := by
      rcases tailTokens_iff.1 follows with ⟨-, none, nil⟩ | ⟨comma, rest, impossible, -⟩
      · exact ⟨none, nil⟩
      · cases impossible
    refine ⟨afterPath, sentence.path, afterPath, foundPath, ?_⟩
    rw [if_pos (Cursor.isEmpty_iff.2 left)]
    simp [Sentence.denotation, nothing.1, nothing.2]
  · have pending : afterPath.remaining ≠ [] := by rwa [left]
    rw [← left] at follows
    obtain ⟨comma, afterComma, rest, final, taken, named, read⟩ :=
      takeRest_complete follows distinct pending
    refine ⟨final, sentence.path, afterPath, foundPath, ?_⟩
    rw [if_neg (mt Cursor.isEmpty_iff.1 pending)]
    simp only [bind_eq_ok_iff, Prod.exists]
    exact ⟨comma, afterComma, taken, _, rest, named, _, final, read, rfl⟩

theorem ExportArguments.read_eq_ok_iff {cursor final : Cursor} {arguments : ExportArguments} :
    ExportArguments.read cursor = .ok (arguments, final) ↔
      cursor.Passes cursor.remaining final ∧
        ∃ sentence : Sentence, sentence.IsWrittenAs cursor.remaining ∧
          arguments = sentence.denotation := by
  constructor
  · exact ExportArguments.read_sound
  · rintro ⟨moved, sentence, written, rfl⟩
    obtain ⟨final', found⟩ := ExportArguments.read_complete written
    rw [found, Cursor.Passes.unique moved (ExportArguments.read_sound found).1]

theorem ExportArguments.parse_eq_ok_iff {cursor : Cursor} {arguments : ExportArguments} :
    ExportArguments.parse cursor = .ok arguments ↔
      ∃ final, ExportArguments.read cursor = .ok (arguments, final) := by
  unfold ExportArguments.parse
  cases ExportArguments.read cursor with
  | error reason => simp [Except.map]
  | ok pair =>
      obtain ⟨found, final⟩ := pair
      simp [Except.map]

theorem ExportArguments.parse_eq_error_iff {cursor : Cursor} {reason : Diagnostic} :
    ExportArguments.parse cursor = .error reason ↔ ExportArguments.read cursor = .error reason := by
  unfold ExportArguments.parse
  cases ExportArguments.read cursor <;> simp [Except.map]

/-- **Export arguments are read exactly where the grammar has a sentence.** Reading a token list
gives what a sentence denotes that the list writes, and stands behind the last token then. A list
that writes no sentence is refused. -/
theorem ExportArguments.read_eq_ok_iff_isWrittenAs (tokens : List Token) (origin : Option Span)
    (arguments : ExportArguments) (final : Cursor) :
    ExportArguments.read (.ofTokens tokens origin) = .ok (arguments, final) ↔
      (∃ sentence : Sentence, sentence.IsWrittenAs tokens ∧ arguments = sentence.denotation) ∧
        final.tokens = tokens ∧ final.position = tokens.length ∧ final.origin = origin := by
  rw [ExportArguments.read_eq_ok_iff, and_comm]
  apply and_congr Iff.rfl
  constructor
  · intro moved
    refine ⟨Cursor.passes_tokens moved, ?_, moved.origin⟩
    unfold Cursor.position
    rw [moved.consumed]
    simp [Cursor.ofTokens]
  · rintro ⟨whole, count, same⟩
    unfold Cursor.tokens at whole
    unfold Cursor.position at count
    have empty : final.remaining = [] := by
      have lengths := congrArg List.length whole
      rw [List.length_append, List.length_reverse, count] at lengths
      exact List.eq_nil_of_length_eq_zero (by omega)
    rw [empty, List.append_nil] at whole
    refine ⟨?_, ?_, same⟩
    · rw [empty, List.append_nil]
    · show final.consumed = tokens.reverse ++ []
      rw [← whole, List.reverse_reverse, List.append_nil]

end ModuleGlue.Directive
