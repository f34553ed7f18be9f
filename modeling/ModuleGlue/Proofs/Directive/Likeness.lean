import Mathlib.Data.List.Forall2
import ModuleGlue.Proofs.Directive.Reading

/-!
Contract: token lists that differ where the readers do not look.

The readers look at the kinds of tokens, at the texts of those that are no strings, and at the
values of those that are. How a string is spelled and where a token stands is only passed on. So
two lists that are alike in what is looked at are read alike: both are accepted, and what they say
is alike, or both are refused, for causes that are alike.

Main statements: `ExportArguments.read_alike`, `ExportArguments.merge_alike` and
`ExportDescriptor.parse_alike`.

Owns: what it is to be alike, for tokens and for what is read from them, and the statement for each
reader.

Does not own: which texts have tokens that are alike.
-/

namespace ModuleGlue

open ModuleGlue.Text

/-- What may differ: the spelling of strings, as long as they denote the same, and places, as long
as the place between two of them follows them. -/
structure Likeness where
  texts : String → String → Prop
  spans : Option Span → Option Span → Prop
  value {first second : String} (alike : texts first second) :
    literalValue? first.toList = literalValue? second.toList
  between {first first' last last' : Span} (starts : spans (some first) (some first'))
    (stops : spans (some last) (some last')) :
    spans (some ⟨first.start, last.stop⟩) (some ⟨first'.start, last'.stop⟩)

/-! ## What is alike -/

structure Deprecation.Alike (like : Likeness) (first second : Deprecation) : Prop where
  form : first.form = second.form
  span : like.spans first.span second.span

/-- The same cause, up to the spelling of a text that was found. -/
inductive Cause.Alike (like : Likeness) : Cause → Cause → Prop where
  | same (cause : Cause) : Cause.Alike like cause cause
  | found {what first second : String} (texts : like.texts first second) :
      Cause.Alike like (.expected what (some first)) (.expected what (some second))

/-- The same rule is broken, for a cause that is alike, at places that are alike. -/
structure Diagnostic.Alike (like : Likeness) (first second : Diagnostic) : Prop where
  family : first.family = second.family
  cause : first.cause.Alike like second.cause
  span : like.spans first.span second.span
  deprecations : Option.Rel (List.Forall₂ (Deprecation.Alike like)) first.deprecations
    second.deprecations

namespace Directive

/-- Two tokens of one kind; only strings may be spelled in two ways. -/
structure Token.Alike (like : Likeness) (first second : Token) : Prop where
  kind : first.kind = second.kind
  texts : like.texts first.text second.text
  verbatim : first.kind ≠ .string → first.text = second.text
  span : like.spans (some first.span) (some second.span)

structure Name.Alike (like : Likeness) (first second : Name) : Prop where
  value : first.value = second.value
  span : like.spans first.span second.span

/-- The same text signature, at places that are alike. -/
structure TextSignature.Alike (like : Likeness) (first second : TextSignature) : Prop where
  value : first.value = second.value
  span : like.spans first.span second.span

/-- Settings of one key, with values that are alike. -/
inductive Setting.Alike (like : Likeness) : Setting → Setting → Prop where
  | name {first second : Name} (alike : first.Alike like second) :
      Setting.Alike like (.name first) (.name second)
  | textSignature {first second : TextSignature} (alike : first.Alike like second) :
      Setting.Alike like (.textSignature first) (.textSignature second)
  | passModule (flag : Bool) : Setting.Alike like (.passModule flag) (.passModule flag)

/-- The same options are given, with the same values, at places that are alike. -/
structure Options.Alike (like : Likeness) (first second : Options) : Prop where
  name : Option.Rel (Name.Alike like) first.name second.name
  textSignature : Option.Rel (TextSignature.Alike like) first.textSignature second.textSignature
  passModule : first.passModule = second.passModule
  deprecations : List.Forall₂ (Deprecation.Alike like) first.deprecations second.deprecations
  specified : first.specified = second.specified

structure ModulePath.Alike (like : Likeness) (first second : ModulePath) : Prop where
  segments : first.segments = second.segments
  span : like.spans first.span second.span

/-- Arguments that are alike in all their parts. -/
structure ExportArguments.Alike (like : Likeness) (first second : ExportArguments) : Prop where
  path : first.path.Alike like second.path
  options : first.options.Alike like second.options
  legacyName : Option.Rel (Token.Alike like) first.legacyName second.legacyName

/-- Descriptors that are alike in all their parts. -/
structure ExportDescriptor.Alike (like : Likeness) (first second : ExportDescriptor) : Prop where
  path : first.path.Alike like second.path
  options : first.options.Alike like second.options

/-- Cursors at the same place of lists that are alike. -/
structure Cursor.Alike (like : Likeness) (first second : Cursor) : Prop where
  consumed : List.Forall₂ (Token.Alike like) first.consumed second.consumed
  remaining : List.Forall₂ (Token.Alike like) first.remaining second.remaining
  origin : like.spans first.origin second.origin

variable {like : Likeness}

/-! ## Cursors -/

section
variable {cursor cursor' : Cursor}

theorem alike_grammar {cause cause' : Cause} {span span' : Option Span}
    (causes : cause.Alike like cause') (spans : like.spans span span') :
    (Diagnostic.grammar cause span).Alike like (.grammar cause' span') :=
  ⟨rfl, causes, spans, .none⟩

theorem Cursor.Alike.isEmpty (alike : cursor.Alike like cursor') :
    cursor.isEmpty = cursor'.isEmpty := by
  obtain ⟨done, pending, origin⟩ := cursor
  obtain ⟨done', pending', origin'⟩ := cursor'
  obtain ⟨-, remaining, -⟩ := alike
  cases remaining <;> rfl

theorem Cursor.Alike.startsWith (alike : cursor.Alike like cursor') (kind : Kind) :
    cursor.startsWith kind = cursor'.startsWith kind := by
  obtain ⟨done, pending, origin⟩ := cursor
  obtain ⟨done', pending', origin'⟩ := cursor'
  obtain ⟨-, remaining, -⟩ := alike
  unfold Cursor.startsWith
  cases remaining with
  | nil => rfl
  | cons same _ =>
      dsimp only
      rw [same.kind]

theorem Cursor.Alike.currentSpan (alike : cursor.Alike like cursor') :
    like.spans cursor.currentSpan cursor'.currentSpan := by
  obtain ⟨done, pending, origin⟩ := cursor
  obtain ⟨done', pending', origin'⟩ := cursor'
  obtain ⟨consumed, remaining, origins⟩ := alike
  cases remaining with
  | cons same _ => exact same.span
  | nil =>
      cases consumed with
      | cons same _ => exact same.span
      | nil => exact origins

/-- What is taken from lists that are alike: tokens that are alike, of the required kind. -/
structure TakenAlike (like : Likeness) (kind : Option Kind) (first second : Token × Cursor) :
    Prop where
  token : first.1.Alike like second.1
  cursor : first.2.Alike like second.2
  required : kind.all (· == first.1.kind) = true

theorem Cursor.take_alike (alike : cursor.Alike like cursor') (kind : Option Kind)
    (expected : String) :
    EndsAlike (Diagnostic.Alike like) (TakenAlike like kind) (cursor.take kind expected)
      (cursor'.take kind expected) := by
  have currentSpan := alike.currentSpan
  obtain ⟨done, pending, origin⟩ := cursor
  obtain ⟨done', pending', origin'⟩ := cursor'
  obtain ⟨consumed, remaining, origins⟩ := alike
  unfold Cursor.take
  cases remaining with
  | nil => exact .error (alike_grammar (.same _) currentSpan)
  | @cons token token' rest rest' same more =>
      dsimp only
      rw [same.kind]
      by_cases required : kind.all (· == token'.kind) = true
      · rw [if_pos required, if_pos required]
        exact .ok ⟨same, ⟨.cons same consumed, more, origins⟩, same.kind ▸ required⟩
      · rw [if_neg required, if_neg required]
        exact .error (alike_grammar (.found same.texts) same.span)

end

/-! ## Values of single tokens -/

section
variable {token token' : Token}

theorem Token.Alike.stringValue (alike : token.Alike like token') :
    EndsAlike (Diagnostic.Alike like) Eq token.stringValue token'.stringValue := by
  unfold Token.stringValue
  rw [like.value alike.texts]
  cases literalValue? token'.text.toList with
  | some value => exact .ok rfl
  | none => exact .error (alike_grammar (.same _) alike.span)

theorem Token.Alike.denotedName (alike : token.Alike like token') :
    EndsAlike (Diagnostic.Alike like) Eq token.denotedName token'.denotedName := by
  have verbatim := alike.verbatim
  unfold Token.denotedName
  rw [← alike.kind]
  cases kind : token.kind with
  | string => exact alike.stringValue
  | ident =>
      rw [kind] at verbatim
      exact .ok (congrArg Points.ofString (verbatim (by decide)))
  | dot | comma | equals | number | other =>
      exact .error (alike_grammar (.found alike.texts) alike.span)

theorem Name.ofToken_alike (alike : token.Alike like token') :
    EndsAlike (Diagnostic.Alike like) (Name.Alike like) (Name.ofToken token)
      (Name.ofToken token') := by
  unfold Name.ofToken
  apply alike.denotedName.bind
  rintro points _ rfl
  cases points.toString? with
  | none => exact .error (alike_grammar (.same _) alike.span)
  | some text =>
      dsimp only
      split
      · exact .ok ⟨rfl, alike.span⟩
      · exact .error (alike_grammar (.same _) alike.span)

theorem TextSignature.ofToken_alike (alike : token.Alike like token') :
    EndsAlike (Diagnostic.Alike like) (TextSignature.Alike like) (TextSignature.ofToken token)
      (TextSignature.ofToken token') := by
  unfold TextSignature.ofToken
  by_cases literal : token.kind = .string
  · have literal' : token'.kind = .string := alike.kind ▸ literal
    have noWord : ¬ (token.kind = .ident ∧ token.text = "None") := by simp [literal]
    have noWord' : ¬ (token'.kind = .ident ∧ token'.text = "None") := by simp [literal']
    rw [if_neg noWord, if_neg noWord', if_pos literal, if_pos literal']
    apply alike.stringValue.bind
    rintro value _ rfl
    exact .ok ⟨rfl, alike.span⟩
  · have literal' : ¬ token'.kind = .string := alike.kind ▸ literal
    rw [← alike.verbatim literal, ← alike.kind, if_neg literal]
    split
    · exact .ok ⟨rfl, alike.span⟩
    · exact .error (alike_grammar (.same _) alike.span)

theorem readTruth_alike (alike : token.Alike like token') (verbatim : token.text = token'.text) :
    EndsAlike (Diagnostic.Alike like) Eq (readTruth token) (readTruth token') := by
  unfold readTruth
  rw [← verbatim]
  split
  · exact .ok rfl
  · split
    · exact .ok rfl
    · exact .error (alike_grammar (.same _) alike.span)

end

/-- A token of a required kind other than strings is spelled in one way. -/
theorem TakenAlike.verbatim {kind : Kind} {first second : Token × Cursor}
    (alike : TakenAlike like (some kind) first second) (notString : kind ≠ .string) :
    first.1.text = second.1.text :=
  alike.token.verbatim (Cursor.requires_iff.1 alike.required ▸ notString)

/-! ## Options -/

section
variable {cursor cursor' : Cursor} {options options' : Options}

/-- Two readers of a part end alike: what they read is alike, and so is what they leave. -/
def ReadsAlike {α : Type} (like : Likeness) (values : α → α → Prop)
    (first second : Except Diagnostic (α × Cursor)) : Prop :=
  EndsAlike (Diagnostic.Alike like)
    (fun found found' => values found.1 found'.1 ∧ found.2.Alike like found'.2) first second

theorem readSetting_alike (alike : cursor.Alike like cursor') (key : OptionKey) :
    ReadsAlike like (Setting.Alike like) (readSetting key cursor) (readSetting key cursor') := by
  unfold readSetting
  cases key with
  | name =>
      apply (Cursor.take_alike alike _ _).bind
      rintro ⟨sign, afterSign⟩ ⟨sign', afterSign'⟩ ⟨-, behindSign, -⟩
      apply (Cursor.take_alike behindSign _ _).bind
      rintro ⟨token, next⟩ ⟨token', next'⟩ ⟨same, behind, -⟩
      apply (Name.ofToken_alike same).bind
      intro value value' values
      exact .ok ⟨.name values, behind⟩
  | textSignature =>
      apply (Cursor.take_alike alike _ _).bind
      rintro ⟨sign, afterSign⟩ ⟨sign', afterSign'⟩ ⟨-, behindSign, -⟩
      apply (Cursor.take_alike behindSign _ _).bind
      rintro ⟨token, next⟩ ⟨token', next'⟩ ⟨same, behind, -⟩
      apply (TextSignature.ofToken_alike same).bind
      intro value value' values
      exact .ok ⟨.textSignature values, behind⟩
  | passModule =>
      dsimp only
      rw [← alike.startsWith]
      split
      · apply (Cursor.take_alike alike _ _).bind
        rintro ⟨sign, afterSign⟩ ⟨sign', afterSign'⟩ ⟨-, behindSign, -⟩
        apply (Cursor.take_alike behindSign _ _).bind
        rintro ⟨token, next⟩ ⟨token', next'⟩ taken
        apply (readTruth_alike taken.token (taken.verbatim (by decide))).bind
        rintro flag _ rfl
        exact .ok ⟨.passModule flag, taken.cursor⟩
      · exact .ok ⟨.passModule true, alike⟩

theorem Options.mark_alike (alike : options.Alike like options') (key : OptionKey) :
    (options.mark key).Alike like (options'.mark key) := by
  unfold Options.mark
  rw [← alike.specified]
  split
  · exact alike
  · exact { alike with specified := by rw [alike.specified] }

theorem Options.apply_alike {setting setting' : Setting} (alike : options.Alike like options')
    (values : setting.Alike like setting') :
    (options.apply setting).Alike like (options'.apply setting') := by
  cases values with
  | name same => exact { alike with name := .some same }
  | textSignature same => exact { alike with textSignature := .some same }
  | passModule flag => exact { alike with passModule := rfl }

/-- Two readings end alike, and leave records that are alike. -/
structure Reading.Alike (like : Likeness) (first second : Reading) : Prop where
  options : first.1.Alike like second.1
  outcome : EndsAlike (Diagnostic.Alike like) (Cursor.Alike like) first.2 second.2

theorem Options.readOption_alike (records : options.Alike like options')
    (alike : cursor.Alike like cursor') :
    Reading.Alike like (options.readOption cursor) (options'.readOption cursor') := by
  have taken := Cursor.take_alike alike (some .ident) "option name"
  unfold Options.readOption
  generalize cursor.take (some .ident) "option name" = first at taken
  generalize cursor'.take (some .ident) "option name" = second at taken
  cases taken with
  | error same => exact ⟨records, .error same⟩
  | @ok pair pair' same =>
      obtain ⟨token, afterKey⟩ := pair
      obtain ⟨token', afterKey'⟩ := pair'
      have texts : token.text = token'.text := same.verbatim (by decide)
      dsimp only
      rw [← texts]
      cases OptionKey.ofWord? token.text with
      | none => exact ⟨records, .error (alike_grammar (.same _) same.token.span)⟩
      | some key =>
          dsimp only
          rw [← records.specified]
          by_cases again : options.specified.contains key = true
          · rw [if_pos again, if_pos again]
            exact ⟨records, .error (alike_grammar (.same _) same.token.span)⟩
          · rw [if_neg again, if_neg again]
            have read := readSetting_alike same.cursor key
            dsimp only at read
            generalize readSetting key afterKey = first at read
            generalize readSetting key afterKey' = second at read
            cases read with
            | error failed => exact ⟨Options.mark_alike records key, .error failed⟩
            | ok found =>
                exact ⟨Options.apply_alike (Options.mark_alike records key) found.1, .ok found.2⟩

/-- The loop over an option list, without the facts that its termination needs. -/
theorem Options.readInto_eq (options : Options) (cursor : Cursor) :
    options.readInto cursor =
      if cursor.isEmpty then (options, .ok cursor)
      else
        match options.readOption cursor with
        | (middle, .error diagnostic) => (middle, .error diagnostic)
        | (middle, .ok next) =>
          if next.isEmpty then (middle, .ok next)
          else
            match next.take (some .comma) "`,`" with
            | .error diagnostic => (middle, .error diagnostic)
            | .ok (_, afterComma) => middle.readInto afterComma := by
  rw [Options.readInto]
  split
  · rfl
  · split
    · rename_i read
      rw [read]
    · rename_i middle next read
      rw [read]
      dsimp only
      split
      · rfl
      · split
        · rename_i taken
          rw [taken]
        · rename_i comma afterComma taken
          rw [taken]

theorem Options.readInto_alike (records : options.Alike like options')
    (alike : cursor.Alike like cursor') :
    Reading.Alike like (options.readInto cursor) (options'.readInto cursor') := by
  -- The induction is on the pending tokens of the first list; both go through the same rounds.
  induction measured : cursor.remaining.length using Nat.strongRecOn
    generalizing options options' cursor cursor' with
  | ind size inductionHypothesis =>
      rw [Options.readInto_eq, Options.readInto_eq, ← alike.isEmpty]
      split
      · exact ⟨records, .ok alike⟩
      · have read := Options.readOption_alike records alike
        cases found : options.readOption cursor with
        | mk middle outcome =>
            cases found' : options'.readOption cursor' with
            | mk middle' outcome' =>
                rw [found, found'] at read
                obtain ⟨middles, outcomes⟩ := read
                cases outcomes with
                | error failed => exact ⟨middles, .error failed⟩
                | @ok next next' behind =>
                    have shorter := Options.readOption_remaining_lt found
                    dsimp only
                    rw [← behind.isEmpty]
                    split
                    · exact ⟨middles, .ok behind⟩
                    · have taken := Cursor.take_alike behind (some .comma) "`,`"
                      generalize comma : next.take (some .comma) "`,`" = first at taken ⊢
                      generalize next'.take (some .comma) "`,`" = second at taken ⊢
                      cases taken with
                      | error failed => exact ⟨middles, .error failed⟩
                      | ok same =>
                          have shape := Cursor.take_remaining comma
                          refine inductionHypothesis _ ?_ middles same.cursor rfl
                          rw [shape, List.length_cons] at shorter
                          omega

theorem Options.empty_alike : Options.empty.Alike like Options.empty :=
  ⟨.none, .none, rfl, .nil, rfl⟩

theorem Options.read_alike (alike : cursor.Alike like cursor') :
    ReadsAlike like (Options.Alike like) (Options.read cursor) (Options.read cursor') := by
  have read := Options.readInto_alike Options.empty_alike alike
  unfold Options.read
  generalize Options.empty.readInto cursor = first at read
  generalize Options.empty.readInto cursor' = second at read
  obtain ⟨options, outcome⟩ := first
  obtain ⟨options', outcome'⟩ := second
  obtain ⟨records, outcomes⟩ := read
  cases outcomes with
  | error failed => exact .error failed
  | ok behind => exact .ok ⟨records, behind⟩

end

/-! ## Export arguments -/

section
variable {cursor cursor' : Cursor}

/-- Segments are alike as tokens, and spelled in one way. -/
def SegmentsAlike (like : Likeness) (first second : Token) : Prop :=
  first.Alike like second ∧ first.text = second.text

theorem takeSegment_alike (alike : cursor.Alike like cursor') :
    ReadsAlike like (SegmentsAlike like) (takeSegment cursor) (takeSegment cursor') := by
  have currentSpan := alike.currentSpan
  obtain ⟨done, pending, origin⟩ := cursor
  obtain ⟨done', pending', origin'⟩ := cursor'
  obtain ⟨consumed, remaining, origins⟩ := alike
  unfold takeSegment
  cases remaining with
  | nil => exact .error (alike_grammar (.same _) currentSpan)
  | @cons token token' rest rest' same more =>
      dsimp only
      by_cases bare : token.kind = .ident
      · have verbatim : token.text = token'.text := same.verbatim (by simp [bare])
        rw [← same.kind, ← verbatim]
        split
        · exact .ok ⟨⟨same, verbatim⟩, ⟨.cons same consumed, more, origins⟩⟩
        · exact .error (alike_grammar (.same _) currentSpan)
      · have bare' : ¬ token'.kind = .ident := same.kind ▸ bare
        rw [if_neg fun named => bare named.1, if_neg fun named => bare' named.1]
        exact .error (alike_grammar (.same _) currentSpan)

/-- The loop over a path, without the facts that its termination needs. -/
theorem takeSegments_eq (cursor : Cursor) :
    takeSegments cursor =
      match takeSegment cursor with
      | .error diagnostic => .error diagnostic
      | .ok (first, afterFirst) =>
        if afterFirst.startsWith .dot then
          match afterFirst.take none "" with
          | .error diagnostic => .error diagnostic
          | .ok (_, afterDot) =>
            match takeSegments afterDot with
            | .error diagnostic => .error diagnostic
            | .ok (second, others, next) => .ok (first, second :: others, next)
        else .ok (first, [], afterFirst) := by
  rw [takeSegments]
  split
  · rename_i segment
    rw [segment]
  · rename_i first afterFirst segment
    rw [segment]
    dsimp only
    split
    · split
      · rename_i dot
        rw [dot]
      · rename_i dot afterDot taken
        rewrite [taken]
        rfl
    · rfl

/-- A path that was read: its first segment, the others, and what is left. -/
structure PathAlike (like : Likeness) (first second : Token × List Token × Cursor) : Prop where
  head : SegmentsAlike like first.1 second.1
  others : List.Forall₂ (SegmentsAlike like) first.2.1 second.2.1
  cursor : first.2.2.Alike like second.2.2

theorem takeSegments_alike (alike : cursor.Alike like cursor') :
    EndsAlike (Diagnostic.Alike like) (PathAlike like) (takeSegments cursor)
      (takeSegments cursor') := by
  -- The induction is on the pending tokens of the first list, as for options.
  induction measured : cursor.remaining.length using Nat.strongRecOn
    generalizing cursor cursor' with
  | ind size inductionHypothesis =>
      rw [takeSegments_eq, takeSegments_eq]
      have segment := takeSegment_alike alike
      unfold ReadsAlike at segment
      generalize found : takeSegment cursor = first at segment ⊢
      generalize takeSegment cursor' = second at segment ⊢
      cases segment with
      | error failed => exact .error failed
      | @ok pair pair' same =>
          obtain ⟨token, afterToken⟩ := pair
          obtain ⟨token', afterToken'⟩ := pair'
          obtain ⟨heads, behind⟩ := same
          have shape := takeSegment_remaining found
          dsimp only at heads behind ⊢
          rw [← behind.startsWith]
          split
          · have taken := Cursor.take_alike behind none ""
            generalize dot : afterToken.take none "" = first at taken ⊢
            generalize afterToken'.take none "" = second at taken ⊢
            cases taken with
            | error failed => exact .error failed
            | @ok pair pair' same =>
                have shape' := Cursor.take_remaining dot
                have shorter : pair.2.remaining.length < size := by
                  have shape' := Cursor.take_remaining dot
                  rw [← measured, shape, shape']
                  simp only [List.length_cons]
                  omega
                have rest := inductionHypothesis _ shorter same.cursor rfl
                dsimp only
                generalize takeSegments pair.2 = first at rest ⊢
                generalize takeSegments pair'.2 = second at rest ⊢
                cases rest with
                | error failed => exact .error failed
                | ok tail => exact .ok ⟨heads, .cons tail.head tail.others, tail.cursor⟩
          · exact .ok ⟨heads, .nil, behind⟩

theorem getLastD_alike {first second : List Token} {head head' : Token}
    (alike : List.Forall₂ (SegmentsAlike like) first second)
    (heads : SegmentsAlike like head head') :
    SegmentsAlike like (first.getLastD head) (second.getLastD head') := by
  induction alike generalizing head head' with
  | nil => exact heads
  | cons same _ inductionHypothesis =>
      rw [List.getLastD_cons, List.getLastD_cons]
      exact inductionHypothesis same

theorem texts_eq_of_segmentsAlike {first second : List Token}
    (alike : List.Forall₂ (SegmentsAlike like) first second) :
    first.map Token.text = second.map Token.text := by
  induction alike with
  | nil => rfl
  | cons same _ inductionHypothesis =>
      rw [List.map_cons, List.map_cons, same.2, inductionHypothesis]

theorem takePath_alike (alike : cursor.Alike like cursor') :
    ReadsAlike like (ModulePath.Alike like) (takePath cursor) (takePath cursor') := by
  unfold takePath
  apply (takeSegments_alike alike).bind
  rintro ⟨first, others, next⟩ ⟨first', others', next'⟩ ⟨heads, tails, behind⟩
  have last := getLastD_alike tails heads
  refine .ok ⟨⟨?_, like.between heads.1.span last.1.span⟩, behind⟩
  simp only [ModulePath.segments]
  rw [heads.2, texts_eq_of_segmentsAlike tails]

theorem takeLegacyName_alike (alike : cursor.Alike like cursor') :
    ReadsAlike like (Option.Rel (Token.Alike like)) (takeLegacyName cursor)
      (takeLegacyName cursor') := by
  unfold takeLegacyName
  rw [← alike.startsWith]
  split
  · apply (Cursor.take_alike alike _ _).bind
    rintro ⟨literal, next⟩ ⟨literal', next'⟩ ⟨same, behind, -⟩
    dsimp only
    rw [← behind.isEmpty]
    split
    · exact .ok ⟨.some same, behind⟩
    · apply (Cursor.take_alike behind _ _).bind
      rintro ⟨comma, afterComma⟩ ⟨comma', afterComma'⟩ ⟨-, more, -⟩
      exact .ok ⟨.some same, more⟩
  · exact .ok ⟨.none, alike⟩

/-- **Lists that are alike are read alike**: as arguments that are alike, or as errors. -/
theorem ExportArguments.read_alike (alike : cursor.Alike like cursor') :
    ReadsAlike like (ExportArguments.Alike like) (ExportArguments.read cursor)
      (ExportArguments.read cursor') := by
  unfold ExportArguments.read
  apply (takePath_alike alike).bind
  rintro ⟨path, afterPath⟩ ⟨path', afterPath'⟩ ⟨paths, behind⟩
  dsimp only at behind ⊢
  rw [← behind.isEmpty]
  split
  · exact .ok ⟨⟨paths, Options.empty_alike, .none⟩, behind⟩
  · apply (Cursor.take_alike behind _ _).bind
    rintro ⟨comma, afterComma⟩ ⟨comma', afterComma'⟩ ⟨-, pending, -⟩
    apply (takeLegacyName_alike pending).bind
    rintro ⟨literal, rest⟩ ⟨literal', rest'⟩ ⟨literals, behindName⟩
    apply (Options.read_alike behindName).bind
    rintro ⟨options, final⟩ ⟨options', final'⟩ ⟨records, done⟩
    exact .ok ⟨⟨paths, records, literals⟩, done⟩

end

/-! ## Descriptors -/

theorem Options.setName_alike {options options' : Options} {name name' : Name}
    (alike : options.Alike like options') (names : name.Alike like name') :
    (options.setName name).Alike like (options'.setName name') :=
  { Options.mark_alike alike .name with name := .some names }

/-- Arguments that are alike give descriptors that are alike: the legacy name is merged, or
refused, in both. -/
theorem ExportArguments.merge_alike {first second : ExportArguments}
    (alike : first.Alike like second) :
    EndsAlike (Diagnostic.Alike like) (ExportDescriptor.Alike like) first.merge second.merge := by
  obtain ⟨path, options, legacyName⟩ := first
  obtain ⟨path', options', legacyName'⟩ := second
  obtain ⟨paths, records, literals⟩ := alike
  unfold ExportArguments.merge
  cases literals with
  | none => exact .ok ⟨paths, records⟩
  | @some literal literal' same =>
      dsimp only at records ⊢
      have deprecations : List.Forall₂ (Deprecation.Alike like)
          (options.deprecations ++ [⟨.positionalName, literal.span⟩])
          (options'.deprecations ++ [⟨.positionalName, literal'.span⟩]) :=
        List.rel_append records.deprecations (.cons ⟨rfl, same.span⟩ .nil)
      have named := Name.ofToken_alike same
      generalize Name.ofToken literal = first at named ⊢
      generalize Name.ofToken literal' = second at named ⊢
      cases named with
      | error failed => exact .error ⟨rfl, failed.cause, same.span, .some deprecations⟩
      | ok names =>
          exact .ok ⟨paths, Options.setName_alike { records with deprecations } names⟩

/-- **Texts whose tokens are alike say the same**: they give descriptors that are alike, or are
refused for causes that are alike. -/
theorem ExportDescriptor.parse_alike {text text' : String} {origin origin' : Option Span}
    (tokens : List.Forall₂ (Token.Alike like) (tokenize text origin) (tokenize text' origin'))
    (origins : like.spans origin origin') :
    EndsAlike (Diagnostic.Alike like) (ExportDescriptor.Alike like)
      (ExportDescriptor.parse text origin) (ExportDescriptor.parse text' origin') := by
  have read := ExportArguments.read_alike (⟨.nil, tokens, origins⟩ :
    (Cursor.ofSource text origin).Alike like (.ofSource text' origin'))
  unfold ExportDescriptor.parse ExportArguments.parse
  unfold ReadsAlike at read
  generalize ExportArguments.read (.ofSource text origin) = first at read ⊢
  generalize ExportArguments.read (.ofSource text' origin') = second at read ⊢
  cases read with
  | error failed => exact .error failed
  | ok found => exact ExportArguments.merge_alike found.1

end Directive

end ModuleGlue
