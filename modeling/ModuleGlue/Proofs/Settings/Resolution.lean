import ModuleGlue.Proofs.Outcome
import ModuleGlue.Proofs.Settings.FileContents
import ModuleGlue.Proofs.Settings.Precedence
import ModuleGlue.Proofs.Settings.ValidValues
import ModuleGlue.Proofs.Toml.NestedLists

/-!
Contract: the settings that are loaded for a directory.

Each setting is resolved by itself: the caller's value counts, then the entry of the nearest
settings file, then the default. Only values that count are validated. A file that is too much for
its reader is not made up for.

Main statement: `load_resolves` (unless the file is too much, settings are loaded exactly if every
value that counts is valid, and they are what these values stand for).

Owns: the three sources of a setting, put together.

Does not own: each of them.
-/

namespace ModuleGlue.Settings

open ModuleGlue.Files (Path Place Tree)
open ModuleGlue.Text (isIdentifier)
open ModuleGlue.Text.Utf8 (encode)

/-- The settings for the values of a caller and the entries of a table: each of them is what the
value that counts for its key stands for, or its default. -/
structure Resolves (overrides entries : Table) (settings : Settings) : Prop where
  runtimeAlias : ∃ value, Chosen overrides entries .runtimeAlias value ∧
    Settles IsName Settings.default.runtimeAlias value settings.runtimeAlias
  runtimeModule : ∃ value, Chosen overrides entries .runtimeModule value ∧
    Settles IsPath Settings.default.runtimeModule value settings.runtimeModule
  failFast : ∃ value, Chosen overrides entries .failFast value ∧
    Settles IsTruth Settings.default.failFast value settings.failFast
  entryPoints : ∃ value, Chosen overrides entries .entryPoints value ∧
    Settles IsTruth Settings.default.entryPoints value settings.entryPoints

def IsRefused (overrides entries : Table) (key : Key) : Prop :=
  ∃ value, Chosen overrides entries key (some value) ∧ ¬ key.Accepts value

section
variable {overrides entries : Table}

theorem resolves_iff {settings : Settings} :
    Resolves overrides entries settings ↔
      (overrides.override entries).validate = .ok settings := by
  have counts : ∀ {α : Type} {standsFor : Value → α → Prop} {default result : α} (key : Key),
      (∃ value, Chosen overrides entries key value ∧ Settles standsFor default value result) ↔
        Settles standsFor default ((overrides.override entries).get? key) result := by
    intro α standsFor default result key
    simp only [chosen_iff, exists_eq_left']
  rw [validate_eq_ok_iff, ← counts, ← counts, ← counts, ← counts]
  constructor
  · rintro ⟨named, pathed, fast, entered⟩
    exact ⟨named, pathed, fast, entered⟩
  · rintro ⟨named, pathed, fast, entered⟩
    exact ⟨named, pathed, fast, entered⟩

theorem isRefused_iff {key : Key} :
    IsRefused overrides entries key ↔
      ∃ value, (overrides.override entries).get? key = some value ∧ ¬ key.Accepts value := by
  simp only [IsRefused, chosen_iff]

/-- Values are refused as a whole exactly if one that counts is, and exactly such keys are reported. -/
theorem exists_refused_iff :
    (∃ faults, (overrides.override entries).validate = .error faults) ↔
      ∃ key, IsRefused overrides entries key := by
  simp only [isRefused_iff]
  exact exists_faults_iff

theorem mem_keys_iff {faults : List Fault}
    (refused : (overrides.override entries).validate = .error faults) {key : Key} :
    key ∈ faults.map Fault.key ↔ IsRefused overrides entries key := by
  rw [isRefused_iff]
  exact mem_keys_of_faults_iff refused

/-- The name for the runtime is an identifier, and its module, if there is one, a dotted path. -/
theorem Resolves.wellFormed {settings : Settings} (resolves : Resolves overrides entries settings) :
    isIdentifier settings.runtimeAlias = true ∧
      ∀ path, settings.runtimeModule = some path → IsDotted path.toList := by
  constructor
  · obtain ⟨value, -, settles⟩ := resolves.runtimeAlias
    generalize settings.runtimeAlias = name at settles
    cases settles with
    | default => decide
    | value stands =>
        cases stands with
        | mk within is => exact is
  · obtain ⟨value, -, settles⟩ := resolves.runtimeModule
    intro path given
    rw [given] at settles
    cases settles with
    | value stands =>
        cases stands with
        | some within dotted => exact dotted

end

/-! ## Loading from a content -/

/-- How loading ends once the entries are known: with the settings for them and for the values that
take precedence, or with a report of exactly the values that count and are invalid. -/
structure SettledBy (overrides entries : Table) (result : Except LoadError Settings) : Prop where
  loaded : ∀ settings, result = .ok settings ↔ Resolves overrides entries settings
  refused : (∃ faults, result = .error (.invalid faults)) ↔ ∃ key, IsRefused overrides entries key
  reported : ∀ error, result = .error error → ∃ faults, error = .invalid faults ∧
    ∀ key, key ∈ faults.map Fault.key ↔ IsRefused overrides entries key

theorem settledBy_validate (overrides entries : Table) :
    SettledBy overrides entries ((overrides.override entries).validate.mapError .invalid) where
  loaded settings := by rw [mapError_eq_ok_iff, resolves_iff]
  refused := by
    rw [← exists_refused_iff]
    simp only [mapError_eq_error_iff, LoadError.invalid.injEq, exists_eq_right]
  reported error failed := by
    obtain ⟨faults, refused, rfl⟩ := mapError_eq_error_iff.1 failed
    exact ⟨faults, rfl, fun key => mem_keys_iff refused⟩

section
variable {limits : Toml.Limits} {tree : Tree} {path : Path} {place directory : Place}
  {content : List UInt8} {overrides entries : Table}

/-- Nothing but settings and reports of invalid values comes of entries. -/
theorem SettledBy.settings_or_faults {result : Except LoadError Settings}
    (settled : SettledBy overrides entries result) :
    (∃ settings, result = .ok settings) ∨ ∃ faults, result = .error (.invalid faults) := by
  cases result with
  | ok settings => exact Or.inl ⟨settings, rfl⟩
  | error error =>
      obtain ⟨faults, rfl, -⟩ := settled.reported error rfl
      exact Or.inr ⟨faults, rfl⟩

/-- Entries that the content of the nearest file gives settle how loading ends. -/
theorem loadWithin_settledBy (placed : directoryPlace? path = some place)
    (nearest : IsNearest tree place directory content) (fits : Fits limits content)
    (gives : ContentGives content (.ok entries)) (overrides : Table) :
    SettledBy overrides entries (loadWithin limits tree path overrides) := by
  rw [loadWithin_of_contentGives placed nearest fits gives overrides]
  exact settledBy_validate overrides entries

/-- Loading ends with settings or a report of invalid values exactly if the content of the nearest
file is orderly and within the limits. -/
theorem loadWithin_usable_iff (placed : directoryPlace? path = some place)
    (nearest : IsNearest tree place directory content) (overrides : Table) :
    ((∃ settings, loadWithin limits tree path overrides = .ok settings) ∨
        ∃ faults, loadWithin limits tree path overrides = .error (.invalid faults)) ↔
      IsOrderly content ∧ Fits limits content := by
  rw [← exists_contentGives_ok_iff]
  constructor
  · intro usable
    have fits : Fits limits content := by
      obtain ⟨settings, loaded⟩ | ⟨faults, refused⟩ := usable
      · exact fits_of_loadWithin placed nearest loaded nofun
      · exact fits_of_loadWithin placed nearest refused nofun
    obtain ⟨outcome, gives⟩ := exists_contentGives content
    rw [loadWithin_of_contentGives placed nearest fits gives overrides] at usable
    refine ⟨?_, fits⟩
    cases outcome with
    | error reason => cases gives <;> simp [Except.bind] at usable
    | ok entries => exact ⟨entries, gives⟩
  · rintro ⟨⟨entries, gives⟩, fits⟩
    exact (loadWithin_settledBy placed nearest fits gives overrides).settings_or_faults

end

/-! ## Loading for a place -/

/-- The entries that the nearest settings file for a place gives; without a file there are none. The
files further out are not asked. -/
inductive Gives (tree : Tree) (place : Place) : Table → Prop
  | nothing (without : ∀ directory content, ¬ IsNearest tree place directory content) :
      Gives tree place []
  | file {directory : Place} {content : List UInt8} {entries : Table}
      (nearest : IsNearest tree place directory content)
      (gives : ContentGives content (.ok entries)) : Gives tree place entries

/-- The nearest settings file, if there is one, is orderly. -/
def Orderly (tree : Tree) (place : Place) : Prop :=
  ∀ directory content, IsNearest tree place directory content → IsOrderly content

/-- The nearest settings file is too much for a reader with these limits. -/
def TooMuch (limits : Toml.Limits) (tree : Tree) (place : Place) (excess : Toml.Excess) : Prop :=
  ∃ directory content, IsNearest tree place directory content ∧ IsTooMuch limits content excess

section
variable {limits : Toml.Limits} {tree : Tree} {path : Path} {place directory : Place}
  {content : List UInt8} {overrides entries : Table}

theorem exists_gives (orderly : Orderly tree place) : ∃ entries, Gives tree place entries := by
  cases found : nearest? tree place with
  | none => exact ⟨[], .nothing (nearest?_eq_none_iff.1 found)⟩
  | some file =>
      have nearest := nearest?_eq_some_iff.1 found
      obtain ⟨entries, gives⟩ := exists_contentGives_ok_iff.2 (orderly _ _ nearest)
      exact ⟨entries, .file nearest gives⟩

/-- There is only one thing that the nearest file gives. -/
theorem Gives.unique {others : Table} (gives : Gives tree place entries)
    (gives' : Gives tree place others) : others = entries := by
  cases gives with
  | nothing without =>
      cases gives' with
      | nothing _ => rfl
      | file nearest _ => exact absurd nearest (without _ _)
  | file nearest gives =>
      cases gives' with
      | nothing without => exact absurd nearest (without _ _)
      | file nearest' gives' =>
          obtain ⟨-, rfl⟩ := nearest.unique nearest'
          exact gives.unique gives'

/-- Without a settings file, only the values that take precedence are validated. -/
theorem loadWithin_of_none (placed : directoryPlace? path = some place)
    (without : ∀ directory content, ¬ IsNearest tree place directory content)
    (overrides : Table) :
    loadWithin limits tree path overrides =
      (overrides.override []).validate.mapError .invalid := by
  unfold loadWithin findGivenWithin
  rw [placed, Option.bind_some, nearest?_eq_none_iff.2 without]
  rfl

/-- Settings are settled by what the nearest file gives, if it is not too much. -/
theorem settledBy_of_gives (placed : directoryPlace? path = some place)
    (gives : Gives tree place entries)
    (fits : ∀ excess, ¬ TooMuch limits tree place excess) (overrides : Table) :
    SettledBy overrides entries (loadWithin limits tree path overrides) := by
  cases gives with
  | nothing without =>
      rw [loadWithin_of_none placed without overrides]
      exact settledBy_validate overrides []
  | file nearest gives =>
      exact loadWithin_settledBy placed nearest
        (fun excess isTooMuch => fits excess ⟨_, _, nearest, isTooMuch⟩) gives overrides

theorem loadWithin_eq_error_tooMuch_iff (placed : directoryPlace? path = some place)
    (overrides : Table) {excess : Toml.Excess} :
    loadWithin limits tree path overrides = .error (.tooMuch excess) ↔
      TooMuch limits tree place excess := by
  unfold TooMuch
  cases found : nearest? tree place with
  | none =>
      have without := nearest?_eq_none_iff.1 found
      rw [loadWithin_of_none placed without overrides]
      constructor
      · intro failed
        obtain ⟨faults, -, impossible⟩ := mapError_eq_error_iff.1 failed
        cases impossible
      · rintro ⟨directory, content, nearest, -⟩
        exact absurd nearest (without directory content)
  | some file =>
      have nearest := nearest?_eq_some_iff.1 found
      rw [loadWithin_eq_tooMuch_iff placed nearest overrides]
      constructor
      · exact fun isTooMuch => ⟨_, _, nearest, isTooMuch⟩
      · rintro ⟨directory, content, nearest', isTooMuch⟩
        obtain ⟨-, rfl⟩ := nearest.unique nearest'
        exact isTooMuch

/-- A file from which settings are loaded is orderly. -/
theorem orderly_of_load {settings : Settings} (placed : directoryPlace? path = some place)
    (loaded : loadWithin limits tree path overrides = .ok settings) : Orderly tree place :=
  fun _ _ nearest =>
    ((loadWithin_usable_iff placed nearest overrides).1 (Or.inl ⟨settings, loaded⟩)).1

/-- A file from which settings are loaded is not too much. -/
theorem not_tooMuch_of_load {settings : Settings} (placed : directoryPlace? path = some place)
    (loaded : loadWithin limits tree path overrides = .ok settings) (excess : Toml.Excess) :
    ¬ TooMuch limits tree place excess := by
  intro tooMuch
  rw [(loadWithin_eq_error_tooMuch_iff placed overrides).2 tooMuch] at loaded
  cases loaded

/-- **Settings are resolved key by key.** The nearest settings file gives some entries, and no other
file does or changes what is loaded. Loading gives up exactly if that file is too much for its
reader, and this takes something that exceeds the limits. Otherwise settings are loaded exactly if
each of them is what the value that counts for its key stands for, or its default; else exactly the
keys are reported whose value that counts is invalid, and there is one. Whenever settings are
loaded, the name for the runtime is an identifier and its module a dotted path. -/
theorem load_resolves (placed : directoryPlace? path = some place) (orderly : Orderly tree place)
    (limits : Toml.Limits) (overrides : Table) :
    ∃ entries, Gives tree place entries ∧
      (∀ others, Gives tree place others → others = entries) ∧
      (∀ other, SameNearest tree other place →
        loadWithin limits other path overrides = loadWithin limits tree path overrides) ∧
      (∀ excess, loadWithin limits tree path overrides = .error (.tooMuch excess) ↔
        TooMuch limits tree place excess) ∧
      (∀ excess, TooMuch limits tree place excess → limits.Exceeds excess) ∧
      ((∀ excess, ¬ TooMuch limits tree place excess) →
        SettledBy overrides entries (loadWithin limits tree path overrides)) ∧
      ∀ settings, loadWithin limits tree path overrides = .ok settings →
        isIdentifier settings.runtimeAlias = true ∧
          ∀ path, settings.runtimeModule = some path → IsDotted path.toList := by
  obtain ⟨entries, gives⟩ := exists_gives orderly
  refine ⟨entries, gives, fun _ => gives.unique,
    fun _ same => loadWithin_eq_of_nearest placed same limits overrides,
    fun _ => loadWithin_eq_error_tooMuch_iff placed overrides,
    fun _ ⟨_, _, _, isTooMuch⟩ => isTooMuch.exceeds,
    fun fits => settledBy_of_gives placed gives fits overrides, fun settings loaded => ?_⟩
  have settled := settledBy_of_gives placed gives (not_tooMuch_of_load placed loaded) overrides
  exact ((settled.loaded settings).1 loaded).wellFormed

end

/-- Settings for `sub`, one of which is no module path. -/
def innerSettings : String :=
  "[tool.pyglue]\nruntime_alias = \" rt \"\nruntime_module = 3\nfail_fast = true\n"

/-- Two settings files, and a directory with the name of one. -/
def nestedFiles : Tree := ⟨[
  (["pyproject.toml"], .file (encode "[tool.pyglue]\nemit_init = false\n".toList)),
  (["sub"], .directory),
  (["sub", "pyproject.toml"], .file (encode innerSettings.toList)),
  (["sub", "deep"], .directory),
  (["sub", "deep", "pyproject.toml"], .directory)]⟩

/-- The path `sub/deep`. -/
def deepPath : Path := ⟨0, ["sub", "deep"]⟩

theorem load_resolves_nestedFiles :
    directoryPlace? deepPath = some ["sub", "deep"] ∧ Orderly nestedFiles ["sub", "deep"] ∧
    (∃ entries, Gives nestedFiles ["sub", "deep"] entries ∧
      Resolves [("runtime_module", .text "a.b"), ("fail_fast", .truth false)] entries
        ⟨"rt", some "a.b", false, true⟩) ∧
    ∃ entries, Gives nestedFiles ["sub", "deep"] entries ∧
      IsRefused [("runtime_alias", .text "class")] entries .runtimeAlias ∧
        IsRefused [("runtime_alias", .text "class")] entries .runtimeModule := by
  have placed : directoryPlace? deepPath = some ["sub", "deep"] := by decide
  have loaded : load nestedFiles deepPath
      [("runtime_module", .text "a.b"), ("fail_fast", .truth false)] =
        .ok ⟨"rt", some "a.b", false, true⟩ := by decide +kernel
  have refused : load nestedFiles deepPath [("runtime_alias", .text "class")] =
      .error (.invalid [⟨.runtimeAlias, .notName "class"⟩, ⟨.runtimeModule, .notText⟩]) := by
    decide +kernel
  have orderly := orderly_of_load placed loaded
  refine ⟨placed, orderly, ?_, ?_⟩
  · obtain ⟨entries, gives, -, -, -, -, settled, -⟩ := load_resolves placed orderly .standard
      [("runtime_module", .text "a.b"), ("fail_fast", .truth false)]
    exact ⟨entries, gives, ((settled (not_tooMuch_of_load placed loaded)).loaded _).1 loaded⟩
  · obtain ⟨entries, gives, -, -, -, -, settled, -⟩ := load_resolves placed orderly .standard
      [("runtime_alias", .text "class")]
    obtain ⟨faults, same, keys⟩ :=
      (settled (not_tooMuch_of_load placed loaded)).reported _ refused
    obtain rfl := LoadError.invalid.inj same
    exact ⟨entries, gives, (keys _).1 (by decide), (keys _).1 (by decide)⟩

/-- A tree with a settings file of this content, and nothing else. -/
def treeWith (content : List UInt8) : Tree := ⟨[([fileName], .file content)]⟩

def topPath : Path := ⟨0, []⟩

theorem isNearest_treeWith (content : List UInt8) :
    IsNearest (treeWith content) [] [] content := by
  rw [← nearest?_eq_some_iff]
  rfl

/-- Five hundred lists in a list are in order and no settings, so that the defaults should hold, but
they are too much. -/
theorem nestedLists_tooMuch :
    Gives (treeWith (encode (Toml.nestedLists 500))) [] [] ∧
      Resolves [] [] Settings.default ∧
      load (treeWith (encode (Toml.nestedLists 500))) topPath [] = .error (.tooMuch .nesting) := by
  have nearest := isNearest_treeWith (encode (Toml.nestedLists 500))
  have isDocument : IsDocument (encode (Toml.nestedLists 500)) [("x", Toml.nestedList 500)] :=
    ⟨_, rfl, Toml.parse_nestedLists fun _ _ _ => rfl⟩
  have isTooMuch : IsTooMuch .standard (encode (Toml.nestedLists 500)) .nesting :=
    ⟨_, rfl, Toml.parse_nestedLists_of_refused (by decide) (Toml.standard_nesting_lists 490)⟩
  refine ⟨.file nearest (.entries isDocument ⟨[], .missing rfl, .missing rfl⟩),
    resolves_iff.2 (by decide), loadWithin_of_isTooMuch rfl nearest isTooMuch []⟩

end ModuleGlue.Settings
