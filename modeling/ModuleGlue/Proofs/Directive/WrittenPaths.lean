import ModuleGlue.Proofs.Directive.Coverage
import ModuleGlue.Proofs.Directive.LineEnds
import ModuleGlue.Proofs.Directive.NameForms

/-!
Contract: the path that a text begins with.

Arguments begin with a path as it may be written: identifiers and dots, with layout around each of
them. Which path that is can be seen in the text, and it is the one that is read. Written without
layout, it is read as the same path again.

Main statements: `beginsWithPath_iff` (a text begins with a path exactly if its tokens do),
`segments_iff_of_parse` (the path that is read is the one in the text) and `readsAs_dotted` (a path is
read back from its dotted text).

Owns: the way from paths in texts to the paths of descriptors, and back.

Does not own: what is written behind a path.
-/

namespace ModuleGlue.Directive

open ModuleGlue.Text

/-- The text begins with a path of these names. Behind it stand at most layout, and a comma before
anything else. -/
def BeginsWithPath (names : List String) (text : List Char) : Prop :=
  ∃ path layout after, text = path ++ (layout ++ after) ∧ PathText names path ∧
    Layout layout after ∧ ∀ c ∈ after.head?, c = ','

/-! ## Layout in front of something -/

/-- Layout in front of something that is on its line is a gap. -/
theorem Layout.gap {layout after : List Char} (laid : Layout layout after) {c : Char}
    (first : after.head? = some c) (onLine : c ≠ '\n') : Gap layout := by
  induction laid with
  | none after => exact .none
  | blank white _ inductionHypothesis => exact .blank white (inductionHypothesis first)
  | continuation _ inductionHypothesis => exact .continuation (inductionHypothesis first)
  | @comment words rest after line ends _ inductionHypothesis =>
      cases rest with
      | nil => exact absurd (ends c first) onLine
      | cons d rest =>
          obtain rfl := ends d rfl
          -- The break that ends the comment is a blank by itself.
          cases inductionHypothesis first with
          | blank _ more => exact .comment line more

/-- Layout in front of nothing has no tokens. -/
theorem Layout.tokensFrom_eq_nil {layout : List Char} (laid : Layout layout [])
    (position : Position) : tokensFrom position layout = [] := by
  generalize nothing : ([] : List Char) = after at laid
  induction laid generalizing position with
  | none after => exact tokensFrom_nil position
  | blank white _ inductionHypothesis =>
      rw [tokensFrom_blank white]
      exact inductionHypothesis _ nothing
  | @continuation rest _ _ inductionHypothesis =>
      rw [show '\\' :: '\n' :: rest = ['\\', '\n'] ++ rest from rfl,
        tokensFrom_gap (.continuation .none)]
      exact inductionHypothesis _ nothing
  | @comment words rest after line ends _ inductionHypothesis =>
      cases rest with
      | nil =>
          rw [List.append_nil]
          exact tokensFrom_lastComment line position
      | cons d rest =>
          obtain rfl := ends d rfl
          -- The break behind the comment makes no difference to the place of what follows.
          have behind := inductionHypothesis (position.advance ('#' :: words)) nothing
          rw [tokensFrom_blank (by decide)] at behind
          rw [tokensFrom_comment line, show '#' :: (words ++ ['\n']) = '#' :: words ++ ['\n'] from rfl,
            Position.advance_append]
          exact behind

/-- What follows a path ends its last name. -/
theorem endsBefore_behindPath {layout after : List Char} (laid : Layout layout after)
    (comma : ∀ c ∈ after.head?, c = ',') : Kind.ident.EndsBefore (layout ++ after) := by
  have begins : ∀ {d : Char} {rest : List Char}, BeginsLayout d →
      Kind.ident.EndsBefore (d :: rest) := by
    intro d rest begins c first
    obtain rfl := Option.some.inj first
    exact ⟨begins.notWord, begins.notQuote, nofun⟩
  cases laid with
  | none =>
      intro c first
      obtain rfl := comma c first
      exact ⟨by decide, by decide, nofun⟩
  | blank white _ => exact begins (Or.inl white)
  | continuation _ => exact begins (Or.inr (Or.inr rfl))
  | comment _ _ _ => exact begins (Or.inr (Or.inl rfl))

/-- The first token behind a path is a comma. -/
theorem kind_of_behindPath {layout after : List Char} (laid : Layout layout after)
    (comma : ∀ c ∈ after.head?, c = ',') (position : Position) :
    ∀ token ∈ (tokensFrom position (layout ++ after)).head?, token.kind = .comma := by
  intro token first
  cases after with
  | nil =>
      rw [List.append_nil, laid.tokensFrom_eq_nil] at first
      cases first
  | cons c rest =>
      obtain rfl := comma c rfl
      rw [tokensFrom_gap (laid.gap rfl (by decide)), tokensFrom_comma] at first
      obtain rfl := Option.some.inj first
      rfl

/-! ## Texts of tokens -/

structure Token.Spelled (token : Token) : Prop where
  dot : token.kind = .dot → token.text = "."
  comma : token.kind = .comma → token.text = ","
  ident : token.kind = .ident → ∀ c ∈ token.text.toList, isWord c = true

theorem spelled_lexeme (first : Char) (rest : List Char) (span : Span) :
    Token.Spelled ⟨(lexeme first rest).1, String.ofList (lexeme first rest).2.1, span⟩ := by
  unfold lexeme
  split
  · exact ⟨nofun, nofun, nofun⟩
  · split_ifs with decimal word dot comma equals
    · exact ⟨nofun, nofun, nofun⟩
    · refine ⟨nofun, nofun, fun _ c member => ?_⟩
      rw [String.toList_ofList] at member
      rcases List.mem_cons.1 member with rfl | later
      · exact word
      · exact List.mem_takeWhile_imp later
    · subst dot
      exact ⟨fun _ => rfl, nofun, nofun⟩
    · subst comma
      exact ⟨nofun, fun _ => rfl, nofun⟩
    · exact ⟨nofun, nofun, nofun⟩
    · exact ⟨nofun, nofun, nofun⟩

theorem spelled_of_mem_tokensFrom {position : Position} {text : List Char} {token : Token}
    (member : token ∈ tokensFrom position text) : token.Spelled := by
  fun_induction tokensFrom position text with
  | case1 => cases member
  | case2 position text layout first rest division start found stop inductionHypothesis =>
      rcases List.mem_cons.1 member with rfl | later
      · exact spelled_lexeme first rest _
      · exact inductionHypothesis later

theorem spelled_of_mem_tokenize {text : String} {origin : Option Span} {token : Token}
    (member : token ∈ tokenize text origin) : token.Spelled := by
  obtain ⟨unplaced, inText, rfl⟩ := List.mem_map.1 member
  have spelled := spelled_of_mem_tokensFrom inText
  exact ⟨spelled.dot, spelled.comma, spelled.ident⟩

/-- The tokens of a text divide it, wherever they are placed. -/
theorem exists_divided (text : String) (origin : Option Span) :
    ∃ position, Divided position text.toList (tokenize text origin) := by
  have divided := tokensFrom_divided (Position.origin.advance []) text.toList
  cases origin with
  | none =>
      refine ⟨Position.origin, ?_⟩
      unfold tokenize
      rwa [show (fun token : Token => { token with span := token.span.rebase none }) = id from rfl,
        List.map_id]
  | some origin => exact ⟨_, divided.rebase origin.start⟩

/-! ## Paths in texts -/

/-- A segment with layout in front of it: the layout is a gap, and the segment a word. -/
theorem Token.IsSegment.gap {segment : Token} (named : segment.IsSegment)
    (spelled : segment.Spelled) {layout after : List Char} (nonempty : segment.text.toList ≠ [])
    (laid : Layout layout (segment.text.toList ++ after)) : Gap layout := by
  cases letters : segment.text.toList with
  | nil => exact absurd letters nonempty
  | cons c rest =>
      have word : isWord c = true := spelled.ident named.1 c (by simp [letters])
      rw [letters] at laid
      refine laid.gap rfl ?_
      rintro rfl
      revert word
      decide

/-- Tokens that are a path, and a comma before anything else, divide a text that begins with the
path. -/
theorem beginsWithPath_of_divided {segments path tail : List Token}
    (written : PathTokens segments path) {position : Position} {text : List Char}
    (divided : Divided position text (path ++ tail))
    (spelled : ∀ token ∈ path ++ tail, token.Spelled)
    (behind : ∀ token ∈ tail.head?, token.kind = .comma) :
    BeginsWithPath (segments.map Token.text) text := by
  induction written generalizing position text with
  | @last segment named =>
      have word := spelled segment List.mem_cons_self
      rw [List.singleton_append] at divided
      cases divided with
      | @token _ layout after _ _ skipped nonempty start stop more =>
          have front := named.gap word nonempty skipped
          obtain ⟨layout', after', rfl, laid, comma⟩ : ∃ layout' after', after = layout' ++ after' ∧
              Layout layout' after' ∧ ∀ c ∈ after'.head?, c = ',' := by
            cases more with
            | layout skipped => exact ⟨after, [], (List.append_nil _).symm, skipped, nofun⟩
            | @token _ layout' after' comma _ skipped' _ _ _ _ =>
                have separator := (spelled comma (by simp)).comma (behind comma rfl)
                rw [separator] at skipped' ⊢
                exact ⟨layout', _, rfl, skipped', fun c first => (Option.some.inj first).symm⟩
          refine ⟨layout ++ (segment.text.toList ++ []), layout', after', ?_,
            .last named.2 (word.ident named.1) front .none, laid, comma⟩
          simp only [List.append_nil, List.append_assoc]
  | @more segment dot segments tokens named joined _ inductionHypothesis =>
      have word := spelled segment List.mem_cons_self
      rw [List.cons_append, List.cons_append] at divided spelled
      cases divided with
      | @token _ layout after _ _ skipped nonempty start stop more =>
          have front := named.gap word nonempty skipped
          cases more with
          | @token _ layout' after' _ _ skipped' _ _ _ more =>
              have point := (spelled dot (by simp)).dot joined
              rw [point] at skipped' ⊢
              have back : Gap layout' := skipped'.gap (c := '.') rfl (by decide)
              obtain ⟨path, layout'', after'', rfl, others, laid, comma⟩ := inductionHypothesis more
                (fun token member => spelled token
                  (List.mem_cons_of_mem _ (List.mem_cons_of_mem _ member)))
              refine ⟨layout ++ (segment.text.toList ++ (layout' ++ '.' :: path)), layout'', after'',
                ?_, .more named.2 (word.ident named.1) front back others, laid, comma⟩
              simp only [List.append_assoc, List.cons_append]
              rfl

/-- A path in front of a text is read as its segments, wherever the text stands. -/
theorem tokenize_path {names : List String} {text : String} {path after : List Char}
    (written : PathText names path) (whole : text.toList = path ++ after)
    (ends : Kind.ident.EndsBefore after) (origin : Option Span) :
    ∃ segments tokens, PathTokens segments tokens ∧ segments.map Token.text = names ∧
      tokenize text origin = tokens ++ (tokensFrom (Position.origin.advance path) after).map
        fun token => { token with span := token.span.rebase origin } := by
  obtain ⟨segments, tokens, segmented, rfl, lexed⟩ := tokensFrom_path written .origin
  refine ⟨_, _, segmented.rebase origin, ?_, ?_⟩
  · rw [List.map_map]
    rfl
  · unfold tokenize
    rw [whole, lexed after ends, List.map_append]

/-- **A text begins with a path exactly if its tokens do.** -/
theorem beginsWithPath_iff {names : List String} {text : String} (origin : Option Span) :
    BeginsWithPath names text.toList ↔
      ∃ segments path tail, tokenize text origin = path ++ tail ∧ PathTokens segments path ∧
        segments.map Token.text = names ∧ ∀ token ∈ tail.head?, token.kind = .comma := by
  constructor
  · rintro ⟨path, layout, after, whole, written, laid, comma⟩
    obtain ⟨segments, tokens, segmented, same, read⟩ :=
      tokenize_path written whole (endsBefore_behindPath laid comma) origin
    refine ⟨segments, tokens, _, read, segmented, same, fun token first => ?_⟩
    rw [List.head?_map] at first
    obtain ⟨unplaced, first', rfl⟩ := Option.map_eq_some_iff.1 first
    exact kind_of_behindPath laid comma (Position.origin.advance path) unplaced first'
  · rintro ⟨segments, path, tail, whole, written, rfl, behind⟩
    obtain ⟨position, divided⟩ := exists_divided text origin
    have spelled := fun token (member : token ∈ tokenize text origin) =>
      spelled_of_mem_tokenize member
    rw [whole] at divided spelled
    exact beginsWithPath_of_divided written divided spelled behind

/-- The names of a path are identifiers, and the lexer knows them. -/
theorem PathText.names {names : List String} {path : List Char} (written : PathText names path) :
    names ≠ [] ∧ ∀ name ∈ names, isIdentifier name = true ∧ ∀ c ∈ name.toList, isWord c = true := by
  induction written with
  | last identifier word _ _ =>
      refine ⟨List.cons_ne_nil _ _, fun other member => ?_⟩
      rw [List.mem_singleton.1 member]
      exact ⟨identifier, word⟩
  | more identifier word _ _ _ inductionHypothesis =>
      refine ⟨List.cons_ne_nil _ _, fun other member => ?_⟩
      rcases List.mem_cons.1 member with rfl | later
      · exact ⟨identifier, word⟩
      · exact inductionHypothesis.2 other later

/-- Names with dots between them, and no layout, are a path. -/
theorem pathText_intercalate {names : List String} (some : names ≠ [])
    (each : ∀ name ∈ names, isIdentifier name = true ∧ ∀ c ∈ name.toList, isWord c = true) :
    PathText names (String.intercalate "." names).toList := by
  induction names with
  | nil => exact absurd rfl some
  | cons name rest inductionHypothesis =>
      obtain ⟨identifier, word⟩ := each name List.mem_cons_self
      cases rest with
      | nil =>
          have last := PathText.last identifier word .none .none
          rwa [List.nil_append, List.append_nil] at last
      | cons second others =>
          have behind := inductionHypothesis (List.cons_ne_nil _ _)
            fun other member => each other (List.mem_cons_of_mem _ member)
          have more := PathText.more identifier word .none .none behind
          rw [String.intercalate_cons_cons, String.toList_append, String.toList_append,
            List.append_assoc]
          exact more

/-! ## Paths of descriptors -/

/-- Merging keeps the path. -/
theorem path_of_merge {arguments : ExportArguments} {descriptor : ExportDescriptor}
    (merged : arguments.merge = .ok descriptor) : descriptor.path = arguments.path := by
  obtain ⟨path, options, legacyName⟩ := arguments
  cases legacyName with
  | none => exact (congrArg ExportDescriptor.path (Except.ok.inj merged)).symm
  | some literal =>
      obtain ⟨name, -, rfl⟩ := merge_eq_ok_iff.1 merged
      rfl

section
variable {text : String} {origin : Option Span} {descriptor : ExportDescriptor}
  {names : List String}

/-- **The path that is read is the one that the text begins with**, whatever layout there is. -/
theorem segments_iff_of_parse (parsed : ExportDescriptor.parse text origin = .ok descriptor) :
    BeginsWithPath names text.toList ↔ names = descriptor.path.segments := by
  unfold ExportDescriptor.parse at parsed
  obtain ⟨arguments, read, merged⟩ := bind_eq_ok_iff.1 parsed
  rw [path_of_merge merged, beginsWithPath_iff origin]
  constructor
  · rintro ⟨segments, path, tail, whole, written, rfl, behind⟩
    obtain ⟨first, others, rfl⟩ := written.exists_cons
    have maximal : ∀ token ∈ tail.head?, token.kind ≠ .dot := by
      intro token member isDot
      cases (behind token member).symm.trans isDot
    have pending : (Cursor.ofSource text origin).remaining = _ := whole
    obtain ⟨legacyName, settings, -, -, rfl⟩ :=
      (ExportArguments.parse_append_iff pending written maximal).1 read
    rfl
  · rintro rfl
    obtain ⟨final, found⟩ := ExportArguments.parse_eq_ok_iff.1 read
    obtain ⟨-, sentence, ⟨path, tail, whole, written, follows, distinct⟩, rfl⟩ :=
      ExportArguments.read_eq_ok_iff.1 found
    exact ⟨_, path, tail, whole, written, rfl,
      ExportArguments.AcceptsTail.head? ⟨sentence.legacyName, sentence.settings, follows, distinct⟩⟩

/-- The text is read as these names and nothing else, wherever it stands: no option is given, and no
legacy form used. -/
def ReadsAs (text : String) (names : List String) : Prop :=
  ∀ origin, ∃ path : ModulePath, ExportDescriptor.parse text origin = .ok ⟨path, .empty⟩ ∧
    path.segments = names

/-- A path by itself is read as its names. -/
theorem PathText.readsAs (written : PathText names text.toList) : ReadsAs text names := by
  intro origin
  obtain ⟨segments, path, segmented, rfl, whole⟩ :=
    tokenize_path written (List.append_nil _).symm nofun origin
  obtain ⟨first, others, rfl⟩ := segmented.exists_cons
  rw [tokensFrom_nil, List.map_nil] at whole
  have pending : (Cursor.ofSource text origin).remaining = _ := whole
  have read := (ExportArguments.parse_append_iff pending segmented nofun).2
    ⟨none, [], .nothing, List.nodup_nil, rfl⟩
  refine ⟨(⟨first, others, none, []⟩ : Sentence).path, ?_, rfl⟩
  unfold ExportDescriptor.parse
  rw [read]
  rfl

/-- **A path that was read is read back from its dotted text.** -/
theorem readsAs_dotted (parsed : ExportDescriptor.parse text origin = .ok descriptor) :
    ReadsAs descriptor.path.dotted descriptor.path.segments := by
  obtain ⟨path, -, -, -, written, -, -⟩ := (segments_iff_of_parse parsed).2 rfl
  obtain ⟨some, each⟩ := written.names
  exact (pathText_intercalate some each).readsAs

end

end ModuleGlue.Directive
