import ModuleGlue.Proofs.Directive.Acceptance
import ModuleGlue.Proofs.Directive.Chunks
import ModuleGlue.Proofs.Expansion.ExportReading

/-!
Contract: options in other orders and at other decorators.

The options of a function may stand behind the path of its export decorator and in option
decorators, in any order. Functions whose decorators are given the same chunks are exported in the
same way, or are all refused.

Main statement: `readExport_arranged`.

Owns: what it is for chunks to be arranged at the decorators of a function.

Does not own: what a chunk expresses, and legacy names.
-/

namespace ModuleGlue.Expansion

open ModuleGlue.Directive (Cursor Expresses ExportArguments IsChunk JoinedChunks Lexeme Options
  PathTokens Sentence Setting TailTokens Token WritesOptions)
open ModuleGlue.Source (Decorator Function)

/-! ## Arrangements -/

def optionTokens (decorator : Decorator) : List Token :=
  (argumentCursor decorator (argumentOrigin decorator)).remaining

/-- The decorators that add options to the function. -/
def optionMarks (function : Function) : List Decorator :=
  function.head.decorators.filter (·.isNamed optionMark)

/-- What is behind a path: nothing, or a comma and chunks. -/
inductive Trails : List (List Lexeme) → List Lexeme → Prop where
  | nothing : Trails [] []
  | comma {comma : Lexeme} {chunks : List (List Lexeme)} {lexemes : List Lexeme}
      (separator : comma.kind = .comma) (joined : JoinedChunks chunks lexemes) :
      Trails chunks (comma :: lexemes)

/-- The arguments of an export decorator are a path with chunks behind it. -/
def ExportsWith (mark : Decorator) (chunks : List (List Lexeme)) : Prop :=
  ∃ segments path tail, (exportCursor mark).remaining = path ++ tail ∧ PathTokens segments path ∧
    Trails chunks (tail.map Token.toLexeme)

/-- The decorators of the function are given the chunks, in some order: some behind the path of its
one export decorator, and the others in its option decorators. These stand before and behind the
former as they like, and so do decorators of other names. -/
def Arranges (function : Function) (chunks : List (List Lexeme)) : Prop :=
  ∃ mark own spread, exportMarks function = [mark] ∧ ExportsWith mark own ∧
    List.Forall₂ (fun chunks tokens => JoinedChunks chunks (tokens.map Token.toLexeme)) spread
      ((optionMarks function).map optionTokens) ∧
    (own ++ spread.flatten).Perm chunks

/-! ## Option decorators -/

/-- What option decorators that are folded into a record write. -/
theorem foldOptions_writes {options options' : Options} {decorators remaining : List Decorator}
    (folded : foldOptions options decorators = (options', .ok remaining)) :
    ∃ settings, List.Forall₂ WritesOptions settings
        ((decorators.filter (·.isNamed optionMark)).map optionTokens) ∧
      options.Admits settings.flatten ∧ options' = options.extend settings.flatten := by
  induction decorators generalizing options remaining with
  | nil =>
      obtain ⟨rfl, -⟩ := Prod.mk.inj folded
      exact ⟨[], .nil, .nil, (Options.extend_nil _).symm⟩
  | cons decorator rest inductionHypothesis =>
      rw [foldOptions] at folded
      by_cases named : decorator.isNamed optionMark = true
      · rw [if_pos named] at folded
        split at folded
        · cases (Prod.mk.inj folded).2
        · rename_i read next found
          obtain ⟨-, settings, written, admitted, rfl⟩ := Options.readInto_sound found
          obtain ⟨others, writtenRest, admittedRest, rfl⟩ := inductionHypothesis folded
          have whole := Options.admits_append_iff.2 ⟨admitted, admittedRest⟩
          rw [List.filter_cons, if_pos named, List.map_cons]
          exact ⟨settings :: others, .cons written writtenRest, whole,
            Options.extend_append whole⟩
      · rw [if_neg named] at folded
        generalize inner : foldOptions options rest = result at folded
        obtain ⟨record, outcome⟩ := result
        obtain ⟨rfl, same⟩ := Prod.mk.inj folded
        cases outcome with
        | error reason => cases same
        | ok others =>
            rw [List.filter_cons, if_neg named]
            exact inductionHypothesis inner

/-- Option decorators that write options which the record admits are folded into it. -/
theorem foldOptions_complete {options : Options} {decorators : List Decorator}
    {settings : List (List Setting)}
    (written : List.Forall₂ WritesOptions settings
      ((decorators.filter (·.isNamed optionMark)).map optionTokens))
    (admitted : options.Admits settings.flatten) :
    ∃ remaining, foldOptions options decorators =
      (options.extend settings.flatten, .ok remaining) := by
  induction decorators generalizing options settings with
  | nil =>
      cases written
      exact ⟨[], by rw [List.flatten_nil, Options.extend_nil]; rfl⟩
  | cons decorator rest inductionHypothesis =>
      rw [foldOptions]
      by_cases named : decorator.isNamed optionMark = true
      · rw [List.filter_cons, if_pos named, List.map_cons] at written
        rcases written with _ | ⟨here, writtenRest⟩
        rw [List.flatten_cons] at admitted ⊢
        obtain ⟨first, later⟩ := Options.admits_append_iff.1 admitted
        obtain ⟨next, -, found⟩ := Options.readInto_complete here first
        obtain ⟨remaining, folded⟩ := inductionHypothesis writtenRest later
        refine ⟨remaining, ?_⟩
        rw [if_pos named, found, ← Options.extend_append admitted]
        exact folded
      · rw [List.filter_cons, if_neg named] at written
        obtain ⟨remaining, folded⟩ := inductionHypothesis written admitted
        refine ⟨decorator :: remaining, ?_⟩
        rw [if_neg named, folded]
        rfl

/-- Export and option decorators are different ones. -/
theorem optionMarks_eq (function : Function) :
    (otherDecorators function).filter (·.isNamed optionMark) = optionMarks function := by
  unfold otherDecorators optionMarks
  rw [List.filter_filter]
  apply List.filter_congr
  intro decorator _
  by_cases named : decorator.isNamed optionMark = true
  · have name := beq_iff_eq.1 named
    have different : decorator.isNamed exportMark = false := by
      unfold Decorator.isNamed
      rw [name]
      decide
    rw [named, different]
    rfl
  · rw [Bool.eq_false_iff.2 named, Bool.false_and]

/-! ## Chunks at decorators -/

section
variable {own : List (List Lexeme)} {settings : List Setting} {tail : List Token}

theorem Trails.head? (trails : Trails own (tail.map Token.toLexeme)) :
    ∀ token ∈ tail.head?, token.kind ≠ .dot := by
  cases tail with
  | nil => exact fun token member => nomatch member
  | cons token rest =>
      cases trails with
      | comma separator joined =>
          intro other member
          obtain rfl := Option.some.inj member
          rw [show token.kind = .comma from separator]
          exact Directive.Kind.noConfusion

/-- The chunks behind a path express what is written there, and no legacy name is among them. -/
theorem Trails.expresses (all : ∀ chunk ∈ own, IsChunk chunk)
    (trails : Trails own (tail.map Token.toLexeme)) {legacyName : Option Token}
    (follows : TailTokens legacyName settings tail) :
    legacyName = none ∧ List.Forall₂ Expresses (settings.map Setting.unplaced) own := by
  rcases Directive.tailTokens_iff.1 follows with
    ⟨rfl, rfl, rfl⟩ | ⟨comma, rest, rfl, -, outcome⟩
  · cases trails
    exact ⟨rfl, .nil⟩
  · cases trails with
    | comma separator joined =>
        rcases outcome with ⟨rfl, written⟩ | ⟨literal, -, quoted, other⟩
        · exact ⟨rfl, Directive.expresses_of_joined all joined written⟩
        · refine absurd quoted (joined.head?_ne_string all literal.toLexeme ?_)
          rcases other with ⟨rfl, -⟩ | ⟨second, others, rfl, -⟩ <;> rfl

theorem Trails.tailTokens (trails : Trails own (tail.map Token.toLexeme))
    (expresses : List.Forall₂ Expresses settings own) :
    ∃ written, TailTokens none written tail ∧ written.map Setting.unplaced = settings := by
  cases tail with
  | nil =>
      cases trails
      cases expresses
      exact ⟨[], .nothing, rfl⟩
  | cons token rest =>
      cases trails with
      | comma separator joined =>
          obtain ⟨written, writes, same⟩ := Directive.writesOptions_of_joined joined expresses
          exact ⟨written, Directive.tailTokens_iff.2
            (Or.inr ⟨token, rest, rfl, separator, Or.inl ⟨rfl, writes⟩⟩), same⟩

variable {mark : Decorator}

/-- Arguments with chunks behind their path have the settings that these express. -/
theorem ExportsWith.expresses (all : ∀ chunk ∈ own, IsChunk chunk)
    (exportsOwn : ExportsWith mark own) {arguments : ExportArguments}
    (accepted : ExportArguments.parse (exportCursor mark) = .ok arguments) :
    ∃ settings, arguments.legacyName = none ∧ arguments.options = Options.empty.extend settings ∧
      (settings.map Setting.key).Nodup ∧
        List.Forall₂ Expresses (settings.map Setting.unplaced) own := by
  obtain ⟨segments, path, tail, pending, segmented, trails⟩ := exportsOwn
  obtain ⟨first, others, rfl⟩ := segmented.exists_cons
  obtain ⟨legacyName, settings, follows, distinct, rfl⟩ :=
    (ExportArguments.parse_append_iff pending segmented trails.head?).1 accepted
  obtain ⟨rfl, expresses⟩ := trails.expresses all follows
  exact ⟨settings, rfl, rfl, distinct, expresses⟩

theorem ExportsWith.exists_arguments (exportsOwn : ExportsWith mark own)
    (expresses : List.Forall₂ Expresses settings own)
    (distinct : (settings.map Setting.key).Nodup) :
    ∃ arguments written, ExportArguments.parse (exportCursor mark) = .ok arguments ∧
      arguments.legacyName = none ∧ arguments.options = Options.empty.extend written ∧
        written.map Setting.unplaced = settings := by
  obtain ⟨segments, path, tail, pending, segmented, trails⟩ := exportsOwn
  obtain ⟨first, others, rfl⟩ := segmented.exists_cons
  obtain ⟨written, follows, rfl⟩ := trails.tailTokens expresses
  rw [Directive.map_key_unplaced] at distinct
  exact ⟨_, written, (ExportArguments.parse_append_iff pending segmented trails.head?).2
    ⟨none, written, follows, distinct, rfl⟩, rfl, rfl, rfl⟩

end

/-- Option decorators with chunks write options exactly if each chunk expresses a setting. -/
theorem expresses_of_spread {spread : List (List (List Lexeme))} {lists : List (List Token)}
    {settings : List (List Setting)} (all : ∀ chunk ∈ spread.flatten, IsChunk chunk)
    (joined : List.Forall₂ (fun chunks tokens => JoinedChunks chunks (tokens.map Token.toLexeme))
      spread lists)
    (written : List.Forall₂ WritesOptions settings lists) :
    List.Forall₂ Expresses (settings.flatten.map Setting.unplaced) spread.flatten := by
  induction joined generalizing settings with
  | nil =>
      cases written
      exact .nil
  | cons here _ inductionHypothesis =>
      rcases written with _ | ⟨first, others⟩
      rw [List.flatten_cons, List.forall_mem_append] at all
      rw [List.flatten_cons, List.flatten_cons, List.map_append]
      exact List.rel_append (Directive.expresses_of_joined all.1 here first)
        (inductionHypothesis all.2 others)

/-- Where something is related to a list in two parts, it has two parts. -/
theorem exists_append_of_forall₂ {α β : Type} {related : α → β → Prop} {whole : List α}
    {front behind : List β} (all : List.Forall₂ related whole (front ++ behind)) :
    ∃ first others, whole = first ++ others ∧ List.Forall₂ related first front ∧
      List.Forall₂ related others behind :=
  ⟨_, _, (List.take_append_drop front.length whole).symm, List.forall₂_take_append _ _ _ all,
    List.forall₂_drop_append _ _ _ all⟩

theorem writesOptions_of_spread {spread : List (List (List Lexeme))} {lists : List (List Token)}
    {settings : List Setting}
    (joined : List.Forall₂ (fun chunks tokens => JoinedChunks chunks (tokens.map Token.toLexeme))
      spread lists)
    (expresses : List.Forall₂ Expresses settings spread.flatten) :
    ∃ written, List.Forall₂ WritesOptions written lists ∧
      written.flatten.map Setting.unplaced = settings := by
  induction joined generalizing settings with
  | nil =>
      cases expresses
      exact ⟨[], .nil, rfl⟩
  | @cons chunks tokens _ _ here _ inductionHypothesis =>
      rw [List.flatten_cons] at expresses
      obtain ⟨first, others, rfl, ofChunks, ofOthers⟩ := exists_append_of_forall₂ expresses
      obtain ⟨written, writes, rfl⟩ := Directive.writesOptions_of_joined here ofChunks
      obtain ⟨more, writesMore, rfl⟩ := inductionHypothesis ofOthers
      exact ⟨written :: more, .cons writes writesMore, by rw [List.flatten_cons, List.map_append]⟩

/-! ## Functions with chunks -/

section
variable {function : Function} {chunks : List (List Lexeme)}

/-- Where a relation holds in one order, it holds in every other one. -/
theorem exists_perm_of_forall₂ {α β : Type} {related : α → β → Prop} {first : List α}
    {front behind : List β} (all : List.Forall₂ related first front) (same : front.Perm behind) :
    ∃ second, first.Perm second ∧ List.Forall₂ related second behind := by
  obtain ⟨second, pairs, same'⟩ := List.perm_comp_forall₂ same.symm all.flip
  exact ⟨second, same'.symm, pairs.flip⟩

/-- Without a legacy name nothing is merged. -/
theorem merge_of_none {arguments : ExportArguments} (unnamed : arguments.legacyName = none)
    (options : Options) :
    ({ arguments with options } : ExportArguments).merge = .ok ⟨arguments.path, options⟩ := by
  unfold ExportArguments.merge
  rw [unnamed]

/-- A function that is exported has the settings that its chunks express. -/
theorem Arranges.expresses (all : ∀ chunk ∈ chunks, IsChunk chunk)
    (arranged : Arranges function chunks) {found : Export}
    (read : readExport function = .ok (some found)) :
    ∃ written settings, found.descriptor.options = Options.empty.extend written ∧
      (written.map Setting.key).Nodup ∧ (written.map Setting.unplaced).Perm settings ∧
        List.Forall₂ Expresses settings chunks := by
  obtain ⟨mark, own, spread, single, exportsOwn, joined, same⟩ := arranged
  have everywhere : ∀ chunk ∈ own ++ spread.flatten, IsChunk chunk := fun chunk member =>
    all chunk (same.subset member)
  rw [List.forall_mem_append] at everywhere
  obtain ⟨mark', single', arguments, options, remaining, accepted, folded, merged, -⟩ :=
    readExport_eq_some_iff.1 read
  obtain ⟨rfl, -⟩ := List.cons.inj (single.symm.trans single')
  obtain ⟨settings, unnamed, record, distinct, ofOwn⟩ := exportsOwn.expresses everywhere.1 accepted
  obtain ⟨lists, written, admitted, rfl⟩ := foldOptions_writes folded
  rw [optionMarks_eq] at written
  rw [record] at admitted merged
  have ofSpread := expresses_of_spread everywhere.2 joined written
  have whole := Options.admits_append_iff.2 ⟨Options.admits_empty_iff.2 distinct, admitted⟩
  have expressed : List.Forall₂ Expresses ((settings ++ lists.flatten).map Setting.unplaced)
      (own ++ spread.flatten) := by
    rw [List.map_append]
    exact List.rel_append ofOwn ofSpread
  obtain ⟨others, reordered, ofChunks⟩ := exists_perm_of_forall₂ expressed same
  refine ⟨settings ++ lists.flatten, others, ?_, whole.distinct, reordered, ofChunks⟩
  rw [merge_of_none unnamed] at merged
  rw [← Except.ok.inj merged]
  exact Options.extend_append whole

/-- Where the chunks express settings, none of them twice, the function is exported with these. -/
theorem Arranges.exists_export (arranged : Arranges function chunks) {settings : List Setting}
    (expresses : List.Forall₂ Expresses settings chunks)
    (distinct : (settings.map Setting.key).Nodup) :
    ∃ found written, readExport function = .ok (some found) ∧
      found.descriptor.options = Options.empty.extend written ∧
        (written.map Setting.unplaced).Perm settings := by
  obtain ⟨mark, own, spread, single, exportsOwn, joined, same⟩ := arranged
  obtain ⟨reordered, same', expressed⟩ := exists_perm_of_forall₂ expresses same.symm
  have distinct' := (same'.map Setting.key).nodup_iff.1 distinct
  obtain ⟨front, behind, rfl, ofOwn, ofSpread⟩ := exists_append_of_forall₂ expressed
  rw [List.map_append] at distinct'
  obtain ⟨arguments, settings, accepted, unnamed, record, rfl⟩ :=
    exportsOwn.exists_arguments ofOwn (List.nodup_append.1 distinct').1
  obtain ⟨lists, written, rfl⟩ := writesOptions_of_spread joined ofSpread
  have whole : Options.empty.Admits (settings ++ lists.flatten) := by
    rw [Options.admits_empty_iff, List.map_append, ← Directive.map_key_unplaced settings,
      ← Directive.map_key_unplaced lists.flatten]
    exact distinct'
  obtain ⟨-, admitted⟩ := Options.admits_append_iff.1 whole
  rw [← optionMarks_eq] at written
  rw [← record] at admitted
  obtain ⟨remaining, folded⟩ := foldOptions_complete written admitted
  have exported : Exports function mark ⟨⟨arguments.path, arguments.options.extend lists.flatten⟩,
      function.withDecorators remaining⟩ :=
    ⟨single, arguments, _, remaining, accepted, folded, merge_of_none unnamed _, rfl⟩
  refine ⟨_, settings ++ lists.flatten, readExport_eq_some_iff.2 ⟨mark, exported⟩, ?_, ?_⟩
  · rw [record]
    exact Options.extend_append whole
  · rw [List.map_append]
    exact same'.symm

/-- Whatever is wrong with a function that has chunks is wrong with their grammar. -/
theorem Arranges.refused (all : ∀ chunk ∈ chunks, IsChunk chunk)
    (arranged : Arranges function chunks)
    (unread : ∀ found, readExport function ≠ .ok (some found)) :
    ∃ reason, readExport function = .error reason ∧ reason.family = .grammar := by
  obtain ⟨mark, own, spread, single, exportsOwn, -, same⟩ := arranged
  have ofOwn : ∀ chunk ∈ own, IsChunk chunk := fun chunk member =>
    all chunk (same.subset (List.mem_append_left _ member))
  cases read : readExport function with
  | ok found =>
      cases found with
      | some found => exact absurd read (unread found)
      | none =>
          rw [readExport_eq_none_iff, single] at read
          cases read
  | error reason =>
      refine ⟨reason, rfl, ?_⟩
      cases readExport_eq_error_iff.1 read with
      | repeated marks =>
          rw [single] at marks
          cases marks
      | arguments _ refused =>
          exact (ExportArguments.read_blames (ExportArguments.parse_eq_error_iff.1 refused)).family
      | options _ _ refused =>
          obtain ⟨decorator, -, -, blamed⟩ := foldOptions_blames refused
          exact blamed.family
      | legacyName single' accepted _ refused =>
          obtain ⟨rfl, -⟩ := List.cons.inj (single.symm.trans single')
          obtain ⟨settings, unnamed, -⟩ := exportsOwn.expresses ofOwn accepted
          rw [merge_of_none unnamed] at refused
          cases refused

/-- **The arrangement of options makes no difference.** Two functions whose decorators are given the
same chunks are both exported, under the same name, with the same text signature and the same flag,
and with the same keys specified; or both are refused, for what the grammar says. -/
theorem readExport_arranged (all : ∀ chunk ∈ chunks, IsChunk chunk)
    (arranged : Arranges function chunks) {other : Function} (arranged' : Arranges other chunks) :
    (∃ found found', readExport function = .ok (some found) ∧
        readExport other = .ok (some found') ∧
          found.descriptor.options.Equivalent found'.descriptor.options) ∨
      ∃ reason reason', readExport function = .error reason ∧ readExport other = .error reason' ∧
        reason.family = .grammar ∧ reason'.family = .grammar := by
  -- What one of them is exported with, the other one is exported with as well.
  have transfer {first second : Function} (arranged : Arranges first chunks)
      (arranged' : Arranges second chunks) {found : Export}
      (read : readExport first = .ok (some found)) :
      ∃ found', readExport second = .ok (some found') ∧
        found.descriptor.options.Equivalent found'.descriptor.options := by
    obtain ⟨written, settings, record, distinct, same, expresses⟩ := arranged.expresses all read
    have distinct' : (settings.map Setting.key).Nodup := by
      rw [← Directive.map_key_unplaced] at distinct
      exact (same.map Setting.key).nodup_iff.1 distinct
    obtain ⟨found', written', read', record', same'⟩ := arranged'.exists_export expresses distinct'
    refine ⟨found', read', ?_⟩
    rw [record, record']
    exact Options.extend_equivalent _ (same.trans same'.symm) distinct
  by_cases exported : ∃ found, readExport function = .ok (some found)
  · obtain ⟨found, read⟩ := exported
    obtain ⟨found', read', equivalent⟩ := transfer arranged arranged' read
    exact Or.inl ⟨found, found', read, read', equivalent⟩
  · have exported' : ∀ found, readExport other ≠ .ok (some found) := by
      intro found read
      obtain ⟨found', read', -⟩ := transfer arranged' arranged read
      exact exported ⟨found', read'⟩
    obtain ⟨reason, failed, family⟩ := arranged.refused all (not_exists.1 exported)
    obtain ⟨reason', failed', family'⟩ := arranged'.refused all exported'
    exact Or.inr ⟨reason, reason', failed, failed', family, family'⟩

end

/-- A decorator that is called with the arguments. -/
def called (name : String) (arguments : Source.Phrase) : Decorator where
  leading := []
  name := some name
  opening := [⟨.empty, "@"⟩, ⟨.empty, name⟩, ⟨.empty, "("⟩]
  arguments
  closing := [⟨.empty, ")"⟩]
  ending := .plain
  place := none
  argumentPlace := none

/-- The decorator `@pyfn(m, name=x, pass_module)`. -/
def fullMark : Decorator :=
  called exportMark [⟨.empty, "m"⟩, ⟨.empty, ","⟩, ⟨.space, "name"⟩, ⟨.empty, "="⟩, ⟨.empty, "x"⟩,
    ⟨.empty, ","⟩, ⟨.space, "pass_module"⟩]

/-- The decorator `@pyfn(m)`. -/
def bareMark : Decorator := called exportMark [⟨.empty, "m"⟩]

/-- The decorator `@pyglue(name = x)`. -/
def nameMark : Decorator :=
  called optionMark [⟨.empty, "name"⟩, ⟨.space, "="⟩, ⟨.space, "x"⟩]

/-- The decorator `@pyglue(pass_module,)`. -/
def flagMark : Decorator := called optionMark [⟨.empty, "pass_module"⟩, ⟨.empty, ","⟩]

/-- The function `def f(a): pass` under some decorators. -/
def decorated (decorators : List Decorator) : Function where
  head := ⟨[], decorators, []⟩
  signature := ⟨"f", true, [⟨.empty, "def f(a):"⟩], none⟩
  body := .inline [⟨.other, [⟨.space, "pass"⟩], []⟩] .plain

/-- The chunk `name = x`. -/
def nameChunk : List Lexeme := [⟨.ident, "name"⟩, ⟨.equals, "="⟩, ⟨.ident, "x"⟩]

/-- The chunk `pass_module`. -/
def flagChunk : List Lexeme := [⟨.ident, "pass_module"⟩]

theorem fullMark_exportsWith : ExportsWith fullMark [nameChunk, flagChunk] := by
  have lexemes : ((exportCursor fullMark).remaining.drop 1).map Token.toLexeme =
      ⟨.comma, ","⟩ :: (nameChunk ++ ⟨.comma, ","⟩ :: flagChunk) := by decide +kernel
  refine ⟨_, [⟨.ident, "m", ⟨⟨1, 0⟩, ⟨1, 1⟩⟩⟩], (exportCursor fullMark).remaining.drop 1, ?_,
    .last ⟨rfl, by decide⟩, ?_⟩
  · decide +kernel
  · rw [lexemes]
    exact .comma rfl (.more rfl (.last flagChunk))

theorem bareMark_exportsWith : ExportsWith bareMark [] := by
  refine ⟨_, [⟨.ident, "m", ⟨⟨1, 0⟩, ⟨1, 1⟩⟩⟩], [], ?_, .last ⟨rfl, by decide⟩, .nothing⟩
  decide +kernel

theorem flagMark_joined :
    JoinedChunks [flagChunk] ((optionTokens flagMark).map Token.toLexeme) := by
  have lexemes : (optionTokens flagMark).map Token.toLexeme = flagChunk ++ ⟨.comma, ","⟩ :: [] := by
    decide +kernel
  rw [lexemes]
  exact .more rfl .nothing

theorem nameMark_joined :
    JoinedChunks [nameChunk] ((optionTokens nameMark).map Token.toLexeme) := by
  have lexemes : (optionTokens nameMark).map Token.toLexeme = nameChunk := by decide +kernel
  rw [lexemes]
  exact .last nameChunk

theorem readExport_arranged_twoOptions :
    (∀ chunk ∈ [nameChunk, flagChunk], IsChunk chunk) ∧
      Arranges (decorated [fullMark]) [nameChunk, flagChunk] ∧
      Arranges (decorated [flagMark, bareMark, nameMark]) [nameChunk, flagChunk] ∧
      ∃ found found', readExport (decorated [fullMark]) = .ok (some found) ∧
        readExport (decorated [flagMark, bareMark, nameMark]) = .ok (some found') ∧
          found.descriptor.options.Equivalent found'.descriptor.options := by
  have all : ∀ chunk ∈ [nameChunk, flagChunk], IsChunk chunk := by
    intro chunk member
    rcases List.mem_pair.1 member with rfl | rfl
    · exact ⟨by decide, by decide, by decide⟩
    · exact ⟨by decide, by decide, by decide⟩
  have gathered : Arranges (decorated [fullMark]) [nameChunk, flagChunk] :=
    ⟨fullMark, [nameChunk, flagChunk], [], rfl, fullMark_exportsWith, .nil, .refl _⟩
  have scattered : Arranges (decorated [flagMark, bareMark, nameMark]) [nameChunk, flagChunk] :=
    ⟨bareMark, [], [[flagChunk], [nameChunk]], rfl, bareMark_exportsWith,
      .cons flagMark_joined (.cons nameMark_joined .nil), .swap ..⟩
  refine ⟨all, gathered, scattered, ?_⟩
  rcases readExport_arranged all gathered scattered with both | ⟨reason, -, failed, -⟩
  · exact both
  · have evaluated : succeedsWith (readExport (decorated [fullMark])) (·.isSome) = true := by
      decide +kernel
    rw [failed] at evaluated
    cases evaluated

end ModuleGlue.Expansion
