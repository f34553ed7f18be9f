import ModuleGlue.Proofs.Files.Places

/-!
Contract: how a tree grows.

Files are written at some places, and directories are made where nothing stands; all else stays.
Nothing is ever taken away, and a directory never becomes a file.

Main statements: `grown_of_write` and `grown_of_makeDirectories` (what the operations on a tree
change).

Owns: growth, and what an operation on a tree changes.

Does not own: what is written.
-/

namespace ModuleGlue.Files

open ModuleGlue.Settings (directoryPlace?)

namespace Tree

/-! ## Growth -/

/-- A tree that has grown out of another one: files have been written at places of some set, and
directories have been made. -/
structure Grown (written : Place → Prop) (tree later : Tree) : Prop where
  /-- Elsewhere, all stays as it is, or a directory is made where nothing was. -/
  elsewhere : ∀ place, ¬ written place → later.entry? place = tree.entry? place ∨
    tree.entry? place = none ∧ later.entry? place = some .directory
  /-- A directory stays one. -/
  directories : KeepsDirectories tree later

section
variable {written written' : Place → Prop} {tree middle later : Tree}

theorem Grown.refl (written : Place → Prop) (tree : Tree) : Grown written tree tree :=
  ⟨fun _ _ => Or.inl rfl, fun _ found => found⟩

theorem Grown.trans (first : Grown written tree middle) (second : Grown written middle later) :
    Grown written tree later where
  elsewhere place outside := by
    rcases second.elsewhere place outside with same | ⟨none, made⟩
    · rw [same]
      exact first.elsewhere place outside
    · rcases first.elsewhere place outside with same | ⟨-, directory⟩
      · exact Or.inr ⟨same ▸ none, made⟩
      · rw [none] at directory
        cases directory
  directories place found := second.directories place (first.directories place found)

theorem Grown.mono (grown : Grown written tree later)
    (wider : ∀ place, written place → written' place) : Grown written' tree later :=
  ⟨fun place outside => grown.elsewhere place fun inside => outside (wider place inside),
    grown.directories⟩

/-- What stands elsewhere stays. -/
theorem Grown.stays (grown : Grown written tree later) {place : Place} {entry : Entry}
    (outside : ¬ written place) (found : tree.entry? place = some entry) :
    later.entry? place = some entry := by
  rcases grown.elsewhere place outside with same | ⟨none, -⟩
  · rw [same, found]
  · rw [found] at none
    cases none

/-- A file elsewhere is read as before, and what is no file is as unreadable as before. -/
theorem Grown.read_eq (grown : Grown written tree later) {path : Path} {place : Place}
    {entry : Entry} (located : tree.locate path = .ok place)
    (found : tree.entry? place = some entry) (outside : ¬ written place) :
    later.read path = tree.read path := by
  have same := grown.stays outside found
  unfold read find
  rw [locate_mono grown.directories located, located]
  dsimp only [bind, Except.bind]
  rw [same, found]

/-- Something is put at a place that no directory loses, or a directory where no file is. -/
theorem grown_of_put {place : Place} {entry : Entry} (inside : place ≠ [])
    (keeps : tree.entry? place = some .directory → entry = .directory)
    (allowed : written place ∨
      entry = .directory ∧ ∀ content, tree.entry? place ≠ some (.file content)) :
    Grown written tree (tree.put place entry) where
  elsewhere other outside := by
    rw [entry?_put inside]
    split
    · rename_i same
      subst same
      obtain ⟨rfl, noFile⟩ := allowed.resolve_left outside
      cases here : tree.entry? other with
      | none => exact Or.inr ⟨rfl, rfl⟩
      | some entry =>
          cases entry with
          | file content => exact absurd here (noFile content)
          | directory => exact Or.inl rfl
    · exact Or.inl rfl
  directories other found := by
    rw [entry?_put inside]
    split
    · rename_i same
      rw [keeps (same ▸ found)]
    · exact found

end

/-! ## Operations -/

section
variable {tree later : Tree} {path : Path}

/-- Writing a file: it stands where the path leads, and can be read there. -/
theorem grown_of_write {content : List UInt8} (wrote : tree.write path content = .ok later) :
    ∃ place, directoryPlace? path = some place ∧ Grown (· = place) tree later ∧
      later.entry? place = some (.file content) ∧ later.locate path = .ok place := by
  unfold write at wrote
  obtain ⟨place, located, put⟩ := bind_eq_ok_iff.1 wrote
  have free : tree.entry? place ≠ some .directory := by
    intro directory
    rw [directory] at put
    cases put
  have inside : place ≠ [] := fun root => free (root ▸ tree.entry?_root)
  have whole : tree.put place (.file content) = later := by
    split at put
    · cases put
    · exact Except.ok.inj put
  subst whole
  have grown : Grown (· = place) tree (tree.put place (.file content)) :=
    grown_of_put inside (fun directory => absurd directory free) (Or.inl rfl)
  refine ⟨place, directoryPlace?_of_locate located, grown, ?_,
    locate_mono grown.directories located⟩
  rw [entry?_put inside, if_pos rfl]

/-- Nothing is written where a directory is made. -/
def nowhere : Place → Prop := fun _ => False

theorem grown_of_makeDirectory (made : tree.makeDirectory path = .ok later) :
    Grown nowhere tree later := by
  unfold makeDirectory at made
  obtain ⟨place, -, put⟩ := bind_eq_ok_iff.1 made
  cases free : tree.entry? place with
  | some entry =>
      rw [free] at put
      cases put
  | none =>
      have inside : place ≠ [] := by
        rintro rfl
        cases free
      rw [free] at put
      obtain rfl := Except.ok.inj put
      exact grown_of_put inside (fun _ => rfl) (Or.inr ⟨rfl, by simp [free]⟩)

/-- A directory that may have been there. -/
theorem grown_of_orThere {there : Bool}
    (made : (match tree.makeDirectory path with
      | .ok made => .ok made
      | .error fault => if there then .ok tree else .error fault) = Except.ok later) :
    Grown nowhere tree later := by
  cases attempt : tree.makeDirectory path with
  | ok after =>
      rw [attempt] at made
      obtain rfl := Except.ok.inj made
      exact grown_of_makeDirectory attempt
  | error fault =>
      rw [attempt] at made
      dsimp only at made
      split at made
      · obtain rfl := Except.ok.inj made
        exact .refl _ _
      · cases made

theorem grown_of_makeDirectoriesFrom {slashes : Nat} {names : List String}
    (made : tree.makeDirectoriesFrom slashes names = .ok later) : Grown nowhere tree later := by
  induction names generalizing later with
  | nil =>
      obtain rfl := Except.ok.inj made
      exact .refl _ _
  | cons name above inductionHypothesis =>
      unfold makeDirectoriesFrom at made
      dsimp only at made
      split at made
      · obtain ⟨middle, outer, made⟩ := bind_eq_ok_iff.1 made
        exact (inductionHypothesis outer).trans (grown_of_orThere made)
      · exact grown_of_orThere made

theorem grown_of_makeDirectories (made : tree.makeDirectories path = .ok later) :
    Grown nowhere tree later :=
  grown_of_makeDirectoriesFrom made

end

end Tree

end ModuleGlue.Files
