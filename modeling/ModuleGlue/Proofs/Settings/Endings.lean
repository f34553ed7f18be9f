import ModuleGlue.Proofs.Settings.Resolution

/-!
Contract: how loading ends, whatever a settings file holds.

Loading ends in one of five ways: with settings, with a report of invalid values, or without either
because the file is no text, is too much for its reader, or has no tables where settings are looked
for. The content of the file decides which, and a text that is no document counts for nothing.

Main statement: `load_of_content`.

Owns: the endings, and the content that leads to each of them.

Does not own: which file is nearest, and which values are valid.
-/

namespace ModuleGlue.Settings

open ModuleGlue.Files (Path Place Tree)
open ModuleGlue.Text.Utf8 (encode)

section
variable {limits : Toml.Limits} {tree : Tree} {path : Path} {place directory : Place}
  {content : List UInt8}

/-- Loading from a content within the limits fails without a report exactly for the reason that the
content gives. -/
theorem loadWithin_eq_error_iff (placed : directoryPlace? path = some place)
    (nearest : IsNearest tree place directory content) (fits : Fits limits content)
    (overrides : Table) {error : LoadError} (noReport : ∀ faults, error ≠ .invalid faults) :
    loadWithin limits tree path overrides = .error error ↔ ContentGives content (.error error) := by
  obtain ⟨outcome, gives⟩ := exists_contentGives content
  constructor
  · intro failed
    cases outcome with
    | error reason =>
        rw [loadWithin_of_contentGives placed nearest fits gives overrides] at failed
        obtain rfl := Except.error.inj failed
        exact gives
    | ok entries =>
        obtain ⟨faults, same, -⟩ :=
          (loadWithin_settledBy placed nearest fits gives overrides).reported error failed
        exact absurd same (noReport faults)
  · intro gives'
    rw [loadWithin_of_contentGives placed nearest fits gives' overrides]
    rfl

theorem loadWithin_eq_unreadable_iff (placed : directoryPlace? path = some place)
    (nearest : IsNearest tree place directory content) (overrides : Table) :
    loadWithin limits tree path overrides = .error .unreadable ↔ ¬ IsText content := by
  have noReport : ∀ faults, LoadError.unreadable ≠ .invalid faults := nofun
  rw [← contentGives_unreadable_iff]
  constructor
  · intro failed
    have fits := fits_of_loadWithin placed nearest failed nofun
    exact (loadWithin_eq_error_iff placed nearest fits overrides noReport).1 failed
  · intro gives
    have fits : Fits limits content := fits_of_not_isText (contentGives_unreadable_iff.1 gives)
    exact (loadWithin_eq_error_iff placed nearest fits overrides noReport).2 gives

theorem loadWithin_eq_notTable_iff (placed : directoryPlace? path = some place)
    (nearest : IsNearest tree place directory content) (overrides : Table) :
    loadWithin limits tree path overrides = .error .notTable ↔ Fits limits content ∧
      ∃ document, IsDocument content document ∧ ∀ entries, ¬ SettingsTable document entries := by
  have noReport : ∀ faults, LoadError.notTable ≠ .invalid faults := nofun
  rw [← contentGives_notTable_iff]
  constructor
  · intro failed
    have fits := fits_of_loadWithin placed nearest failed nofun
    exact ⟨fits, (loadWithin_eq_error_iff placed nearest fits overrides noReport).1 failed⟩
  · rintro ⟨fits, gives⟩
    exact (loadWithin_eq_error_iff placed nearest fits overrides noReport).2 gives

/-- **What loading makes of a content.** It ends with settings or a report of invalid values exactly
if the content of the nearest file is a text that is not too much for the reader and, if this is a
document, there are tables where settings are looked for, if anything. Other bytes cannot be read,
and other texts fail, each in its own way; too much is only what exceeds the limits. Within them, a
text that is no document counts as one without entries, so that the defaults hold beside the values
that take precedence, and the entries of a document are settled with those values. -/
theorem load_of_content (placed : directoryPlace? path = some place)
    (nearest : IsNearest tree place directory content) (limits : Toml.Limits) (overrides : Table) :
    ((∃ settings, loadWithin limits tree path overrides = .ok settings) ∨
        (∃ faults, loadWithin limits tree path overrides = .error (.invalid faults)) ↔
      IsOrderly content ∧ Fits limits content) ∧
    (loadWithin limits tree path overrides = .error .unreadable ↔ ¬ IsText content) ∧
    (∀ excess, loadWithin limits tree path overrides = .error (.tooMuch excess) ↔
      IsTooMuch limits content excess) ∧
    (∀ excess, IsTooMuch limits content excess → limits.Exceeds excess) ∧
    (loadWithin limits tree path overrides = .error .notTable ↔ Fits limits content ∧
      ∃ document, IsDocument content document ∧ ∀ entries, ¬ SettingsTable document entries) ∧
    (Fits limits content → IsText content → (∀ document, ¬ IsDocument content document) →
      SettledBy overrides [] (loadWithin limits tree path overrides)) ∧
    ∀ document entries, Fits limits content → IsDocument content document →
      SettingsTable document entries →
        SettledBy overrides entries (loadWithin limits tree path overrides) :=
  ⟨loadWithin_usable_iff placed nearest overrides,
    loadWithin_eq_unreadable_iff placed nearest overrides,
    fun _ => loadWithin_eq_tooMuch_iff placed nearest overrides,
    fun _ => IsTooMuch.exceeds,
    loadWithin_eq_notTable_iff placed nearest overrides,
    fun fits isText noDocument =>
      loadWithin_settledBy placed nearest fits (.malformed isText noDocument) overrides,
    fun _ _ fits is table =>
      loadWithin_settledBy placed nearest fits (.entries is table) overrides⟩

end

def unclosedHead : List Char := "[tool.".toList

/-- A number where the table of tools should be. -/
def numberForTools : List Char := "tool = 1\n".toList

theorem load_of_content_unclosedHead :
    directoryPlace? topPath = some [] ∧
      IsNearest (treeWith (encode unclosedHead)) [] [] (encode unclosedHead) ∧
      load (treeWith (encode unclosedHead)) topPath [("fail_fast", .truth true)] =
        .ok ⟨"_pyglue", none, true, true⟩ ∧
      Resolves [("fail_fast", .truth true)] [] ⟨"_pyglue", none, true, true⟩ := by
  have placed : directoryPlace? topPath = some [] := rfl
  have nearest := isNearest_treeWith (encode unclosedHead)
  have noDocument : ∀ document, ¬ IsDocument (encode unclosedHead) document := by
    intro document is
    have unparsed : (Toml.parse .unlimited (String.ofList unclosedHead)).toOption = none := by
      decide +kernel
    rw [isDocument_encode_iff.1 is] at unparsed
    cases unparsed
  have loaded : load (treeWith (encode unclosedHead)) topPath [("fail_fast", .truth true)] =
      .ok ⟨"_pyglue", none, true, true⟩ := by decide +kernel
  have fits : Fits .standard (encode unclosedHead) := fits_of_loadWithin placed nearest loaded nofun
  obtain ⟨-, -, -, -, -, malformed, -⟩ :=
    load_of_content placed nearest .standard [("fail_fast", .truth true)]
  exact ⟨placed, nearest, loaded, ((malformed fits ⟨_, rfl⟩ noDocument).loaded _).1 loaded⟩

/-- A byte that begins no text cannot be read, and a number is no table of tools. -/
theorem load_illEncoded_numberForTools :
    load (treeWith [0xFF]) topPath [] = .error .unreadable ∧
      load (treeWith (encode numberForTools)) topPath [] = .error .notTable := by
  decide +kernel

end ModuleGlue.Settings
