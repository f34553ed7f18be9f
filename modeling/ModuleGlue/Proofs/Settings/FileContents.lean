import ModuleGlue.Proofs.Settings.NearestFile
import ModuleGlue.Proofs.Text.Utf8
import ModuleGlue.Proofs.Toml.Limits

/-!
Contract: what the content of a settings file gives.

A file that is no text cannot be read. A text that is no document gives no entries, as if there were
no file. A document has to have tables where settings are looked for, if it has anything there; then
it gives the entries of its table. A reader with limits finds the same, or gives up.

Main statements: `loadWithin_of_contentGives` and `loadWithin_eq_tooMuch_iff` (loading goes by what
the content of the nearest file gives, and by whether it is beyond the limits).

Owns: the kinds of content, and what each of them gives.

Does not own: which file is nearest, and what becomes of entries.
-/

namespace ModuleGlue.Settings

open ModuleGlue.Files (Path Place Tree)
open ModuleGlue.Text (Utf8.decode)
open ModuleGlue.Text.Utf8 (encode decode_eq_ok_iff)

/-! ## Kinds of content -/

def IsText (content : List UInt8) : Prop := ∃ text, content = encode text

def IsDocument (content : List UInt8) (document : Table) : Prop :=
  ∃ text, content = encode text ∧ Toml.parse .unlimited (String.ofList text) = .ok document

/-- The table under a key of a document; it is empty if there is nothing. -/
inductive TableUnder (document : Table) (key : String) : Table → Prop
  | there {entries : Table} (found : document.lookup key = some (.table entries)) :
      TableUnder document key entries
  | missing (absent : document.lookup key = none) : TableUnder document key []

/-- The document has this table for the settings; where there is nothing, it is empty. -/
def SettingsTable (document entries : Table) : Prop :=
  ∃ tools, TableUnder document tablePath.1 tools ∧ TableUnder tools tablePath.2 entries

/-- The content is a text and, if this is a document, there are tables where settings are looked
for, if anything. -/
def IsOrderly (content : List UInt8) : Prop :=
  IsText content ∧
    ∀ document, IsDocument content document → ∃ entries, SettingsTable document entries

/-- The bytes are those of a text that is too much for a reader with these limits. -/
def IsTooMuch (limits : Toml.Limits) (content : List UInt8) (excess : Toml.Excess) : Prop :=
  ∃ text, content = encode text ∧
    Toml.parse limits (String.ofList text) = .error (.tooMuch excess)

/-- A reader with these limits does not give up at the content. -/
def Fits (limits : Toml.Limits) (content : List UInt8) : Prop :=
  ∀ excess, ¬ IsTooMuch limits content excess

/-- What a content gives: entries, or a reason why it cannot be used. -/
inductive ContentGives (content : List UInt8) : Except LoadError Table → Prop where
  | unreadable (noText : ¬ IsText content) : ContentGives content (.error .unreadable)
  | malformed (isText : IsText content) (noDocument : ∀ document, ¬ IsDocument content document) :
      ContentGives content (.ok [])
  | notTable {document : Table} (isDocument : IsDocument content document)
      (noTable : ∀ entries, ¬ SettingsTable document entries) :
      ContentGives content (.error .notTable)
  | entries {document entries : Table} (isDocument : IsDocument content document)
      (table : SettingsTable document entries) : ContentGives content (.ok entries)

section
variable {content : List UInt8} {document entries : Table} {text : List Char}

theorem IsDocument.isText (is : IsDocument content document) : IsText content := by
  obtain ⟨text, same, -⟩ := is
  exact ⟨text, same⟩

/-- A text is read as what it parses to. -/
theorem isDocument_encode_iff :
    IsDocument (encode text) document ↔
      Toml.parse .unlimited (String.ofList text) = .ok document := by
  constructor
  · rintro ⟨other, same, parsed⟩
    have read := decode_eq_ok_iff.2 same
    rw [decode_eq_ok_iff.2 rfl] at read
    obtain rfl := Except.ok.inj read
    exact parsed
  · intro parsed
    exact ⟨text, rfl, parsed⟩

/-- Bytes are those of one text at most, and so of one document. -/
theorem IsDocument.unique {other : Table} (is : IsDocument content document)
    (is' : IsDocument content other) : other = document := by
  obtain ⟨text, rfl, parsed⟩ := is
  exact Except.ok.inj ((isDocument_encode_iff.1 is').symm.trans parsed)

theorem entryOrEmpty_eq_table_iff {key : String} :
    entryOrEmpty document key = .table entries ↔ TableUnder document key entries := by
  unfold entryOrEmpty
  constructor
  · intro same
    cases found : document.lookup key with
    | none =>
        rw [found] at same
        obtain rfl := Value.table.inj same
        exact .missing found
    | some value =>
        rw [found] at same
        exact .there (found.trans (congrArg some same))
  · intro under
    cases under with
    | there found =>
        rw [found]
        rfl
    | missing absent =>
        rw [absent]
        rfl

/-- The value where settings are looked for in a document is a table exactly if the document has
one there. -/
theorem settingsValue_eq_table_iff :
    settingsValue document = .ok (.table entries) ↔ SettingsTable document entries := by
  unfold SettingsTable
  simp only [← entryOrEmpty_eq_table_iff]
  unfold settingsValue
  constructor
  · intro found
    split at found
    · rename_i tools shared
      exact ⟨tools, shared, Except.ok.inj found⟩
    · cases found
  · rintro ⟨tools, shared, own⟩
    rw [shared]
    dsimp only
    rw [own]

/-- Nothing else can be wrong with the place where settings are looked for. -/
theorem settingsValue_eq_error {fault : LoadError}
    (failed : settingsValue document = .error fault) : fault = .notTable := by
  unfold settingsValue at failed
  split at failed
  · cases failed
  · exact (Except.error.inj failed).symm

theorem SettingsTable.unique {other : Table} (table : SettingsTable document entries)
    (table' : SettingsTable document other) : other = entries := by
  have same := (settingsValue_eq_table_iff.2 table').symm.trans (settingsValue_eq_table_iff.2 table)
  exact Value.table.inj (Except.ok.inj same)

/-- Every content is of one of the kinds. -/
theorem exists_contentGives (content : List UInt8) : ∃ outcome, ContentGives content outcome := by
  by_cases isText : IsText content
  · by_cases isDocument : ∃ document, IsDocument content document
    · obtain ⟨document, isDocument⟩ := isDocument
      by_cases table : ∃ entries, SettingsTable document entries
      · obtain ⟨entries, table⟩ := table
        exact ⟨_, .entries isDocument table⟩
      · exact ⟨_, .notTable isDocument fun entries is => table ⟨entries, is⟩⟩
    · exact ⟨_, .malformed isText fun document is => isDocument ⟨document, is⟩⟩
  · exact ⟨_, .unreadable isText⟩

/-- A content gives entries exactly if it is orderly. -/
theorem exists_contentGives_ok_iff :
    (∃ entries, ContentGives content (.ok entries)) ↔ IsOrderly content := by
  constructor
  · rintro ⟨entries, gives⟩
    cases gives with
    | malformed isText noDocument =>
        exact ⟨isText, fun document is => absurd is (noDocument document)⟩
    | entries is table =>
        refine ⟨is.isText, fun other is' => ?_⟩
        obtain rfl := is.unique is'
        exact ⟨entries, table⟩
  · rintro ⟨isText, tables⟩
    obtain ⟨outcome, gives⟩ := exists_contentGives content
    cases gives with
    | unreadable noText => exact absurd isText noText
    | malformed isText noDocument => exact ⟨[], .malformed isText noDocument⟩
    | notTable is noTable =>
        obtain ⟨entries, table⟩ := tables _ is
        exact absurd table (noTable entries)
    | @entries _ entries is table => exact ⟨entries, .entries is table⟩

/-- There is only one table of entries that a content gives. -/
theorem ContentGives.unique {other : Table} (gives : ContentGives content (.ok entries))
    (gives' : ContentGives content (.ok other)) : other = entries := by
  cases gives with
  | malformed _ noDocument =>
      cases gives' with
      | malformed _ _ => rfl
      | entries is _ => exact absurd is (noDocument _)
  | entries is table =>
      cases gives' with
      | malformed _ noDocument => exact absurd is (noDocument _)
      | entries is' table' =>
          obtain rfl := is.unique is'
          exact table.unique table'

theorem contentGives_unreadable_iff :
    ContentGives content (.error .unreadable) ↔ ¬ IsText content := by
  constructor
  · intro gives
    cases gives with
    | unreadable noText => exact noText
  · exact .unreadable

theorem contentGives_notTable_iff :
    ContentGives content (.error .notTable) ↔
      ∃ document, IsDocument content document ∧ ∀ entries, ¬ SettingsTable document entries := by
  constructor
  · intro gives
    cases gives with
    | notTable is noTable => exact ⟨_, is, noTable⟩
  · rintro ⟨document, is, noTable⟩
    exact .notTable is noTable

end

/-! ## Limits -/

section
variable {limits : Toml.Limits} {content : List UInt8} {text : List Char} {excess : Toml.Excess}

/-- A reader gives up only at what exceeds its limits. -/
theorem IsTooMuch.exceeds (isTooMuch : IsTooMuch limits content excess) :
    limits.Exceeds excess := by
  obtain ⟨text, -, parsed⟩ := isTooMuch
  have restricts := Toml.restricts_parse limits (String.ofList text)
  rcases restricts.agrees with same | ⟨other, exceeds, same⟩
  · exact absurd (same.symm.trans parsed) (restricts.never excess)
  · obtain rfl := Toml.Fault.tooMuch.inj (Except.error.inj (same.symm.trans parsed))
    exact exceeds

/-- A text at which the reader does not give up is read as the format has it. -/
theorem Fits.parse_eq (fits : Fits limits (encode text)) :
    Toml.parse limits (String.ofList text) = Toml.parse .unlimited (String.ofList text) := by
  rcases (Toml.restricts_parse limits (String.ofList text)).agrees with same | ⟨excess, -, same⟩
  · exact same
  · exact absurd ⟨text, rfl, same⟩ (fits excess)

/-- What is no text has nothing in it that could be too much. -/
theorem fits_of_not_isText (noText : ¬ IsText content) : Fits limits content := by
  rintro excess ⟨text, same, -⟩
  exact noText ⟨text, same⟩

/-- There are no limits to the format by itself. -/
theorem fits_unlimited (content : List UInt8) : Fits .unlimited content := by
  rintro excess isTooMuch
  cases isTooMuch.exceeds with
  | digits refused => cases refused
  | nesting refused => cases refused

end

/-! ## Loading -/

section
variable {limits : Toml.Limits} {tree : Tree} {path : Path} {place directory : Place}
  {content : List UInt8} {outcome : Except LoadError Table}

/-- What loading makes of a text, once it is read. -/
theorem loadWithin_encode (placed : directoryPlace? path = some place) {text : List Char}
    (nearest : IsNearest tree place directory (encode text)) (overrides : Table) :
    loadWithin limits tree path overrides =
      match Toml.parse limits (String.ofList text) with
      | .error .malformed => (overrides.override []).validate.mapError .invalid
      | .error (.tooMuch excess) => .error (.tooMuch excess)
      | .ok document => (settingsValue document).bind fun
        | .table entries => (overrides.override entries).validate.mapError .invalid
        | _ => .error .notTable := by
  unfold loadWithin findGivenWithin readContent
  rw [placed, Option.bind_some, nearest?_eq_some_iff.2 nearest]
  dsimp only
  rw [decode_eq_ok_iff.2 rfl]
  dsimp only
  cases Toml.parse limits (String.ofList text) with
  | error fault => cases fault <;> rfl
  | ok document =>
      dsimp only
      cases settingsValue document with
      | error fault => rfl
      | ok value => cases value <;> rfl

/-- **Loading goes by what the content of the nearest file gives**, if the reader does not give up:
its entries are validated behind the values that take precedence, or it fails for the reason that
the content gives. -/
theorem loadWithin_of_contentGives (placed : directoryPlace? path = some place)
    (nearest : IsNearest tree place directory content) (fits : Fits limits content)
    (gives : ContentGives content outcome) (overrides : Table) :
    loadWithin limits tree path overrides = outcome.bind fun entries =>
      (overrides.override entries).validate.mapError .invalid := by
  cases gives with
  | unreadable noText =>
      unfold loadWithin findGivenWithin readContent
      rw [placed, Option.bind_some, nearest?_eq_some_iff.2 nearest]
      dsimp only
      cases read : Utf8.decode content with
      | ok text => exact absurd ⟨text, decode_eq_ok_iff.1 read⟩ noText
      | error fault => rfl
  | malformed isText noDocument =>
      obtain ⟨text, rfl⟩ := isText
      rw [loadWithin_encode placed nearest, fits.parse_eq]
      cases parsed : Toml.parse .unlimited (String.ofList text) with
      | ok document => exact absurd ⟨text, rfl, parsed⟩ (noDocument document)
      | error fault =>
          cases fault with
          | malformed => rfl
          | tooMuch excess => exact absurd ⟨text, rfl, parsed⟩ (fits_unlimited _ excess)
  | @notTable document isDocument noTable =>
      obtain ⟨text, rfl, parsed⟩ := isDocument
      rw [loadWithin_encode placed nearest, fits.parse_eq, parsed]
      dsimp only
      cases found : settingsValue document with
      | error fault =>
          obtain rfl := settingsValue_eq_error found
          rfl
      | ok value =>
          cases value with
          | table entries => exact absurd (settingsValue_eq_table_iff.1 found) (noTable entries)
          | _ => rfl
  | @entries document entries isDocument table =>
      obtain ⟨text, rfl, parsed⟩ := isDocument
      rw [loadWithin_encode placed nearest, fits.parse_eq, parsed]
      dsimp only
      rw [settingsValue_eq_table_iff.2 table]
      rfl

theorem loadWithin_of_isTooMuch (placed : directoryPlace? path = some place)
    (nearest : IsNearest tree place directory content) {excess : Toml.Excess}
    (isTooMuch : IsTooMuch limits content excess) (overrides : Table) :
    loadWithin limits tree path overrides = .error (.tooMuch excess) := by
  obtain ⟨text, rfl, parsed⟩ := isTooMuch
  rw [loadWithin_encode placed nearest, parsed]

/-- Where loading does not give up, the content is within the limits. -/
theorem fits_of_loadWithin (placed : directoryPlace? path = some place)
    (nearest : IsNearest tree place directory content) {overrides : Table}
    {result : Except LoadError Settings}
    (ended : loadWithin limits tree path overrides = result)
    (other : ∀ excess, result ≠ .error (.tooMuch excess)) : Fits limits content := by
  intro excess isTooMuch
  exact other excess (ended.symm.trans (loadWithin_of_isTooMuch placed nearest isTooMuch overrides))

/-- **Loading gives up exactly if the reader does.** -/
theorem loadWithin_eq_tooMuch_iff (placed : directoryPlace? path = some place)
    (nearest : IsNearest tree place directory content) (overrides : Table)
    {excess : Toml.Excess} :
    loadWithin limits tree path overrides = .error (.tooMuch excess) ↔
      IsTooMuch limits content excess := by
  constructor
  · intro failed
    by_cases fits : Fits limits content
    · obtain ⟨outcome, gives⟩ := exists_contentGives content
      rw [loadWithin_of_contentGives placed nearest fits gives overrides] at failed
      cases gives with
      | unreadable | notTable => cases failed
      | malformed | entries =>
          obtain ⟨faults, -, impossible⟩ := mapError_eq_error_iff.1 failed
          cases impossible
    · obtain ⟨other, isTooMuch⟩ := not_forall_not.1 fits
      have failed' := loadWithin_of_isTooMuch placed nearest isTooMuch overrides
      obtain rfl := LoadError.tooMuch.inj (Except.error.inj (failed.symm.trans failed'))
      exact isTooMuch
  · exact fun isTooMuch => loadWithin_of_isTooMuch placed nearest isTooMuch overrides

end

end ModuleGlue.Settings
