import Mathlib.Data.List.Basic
import ModuleGlue.Settings.Load

/-!
Contract: which settings file counts for a place.

The nearest settings file is the one in the innermost directory, from the place on upwards, that has
one. Files further out do not matter.

Main statements: `nearest?_eq_some_iff` (the file that is found is the nearest one) and
`loadWithin_eq_of_nearest` (only the content of the nearest file matters).

Owns: the nearest file.

Does not own: what its content gives.
-/

namespace ModuleGlue.Settings

open ModuleGlue.Files (Path Place Tree)

/-! ## Places above a place -/

theorem mem_ancestors_iff {place directory : Place} :
    directory ∈ ancestors place ↔ directory <+: place := by
  unfold ancestors
  simp only [List.mem_map, List.mem_reverse, List.mem_range]
  constructor
  · rintro ⟨length, -, rfl⟩
    exact List.take_prefix ..
  · intro above
    exact ⟨directory.length, Nat.lt_succ_of_le above.length_le,
      (List.prefix_iff_eq_take.1 above).symm⟩

/-- The places above a place come one after the other, the innermost first. -/
theorem pairwise_ancestors (place : Place) :
    (ancestors place).Pairwise fun inner outer => outer.length < inner.length := by
  unfold ancestors
  rw [List.pairwise_map, List.pairwise_reverse]
  refine List.pairwise_lt_range.imp_of_mem ?_
  intro outer inner inRange inRange' shorter
  rw [List.mem_range] at inRange inRange'
  rw [List.length_take, List.length_take]
  omega

/-! ## The nearest file -/

/-- A settings file of this content is in the directory. -/
def HasFile (tree : Tree) (directory : Place) (content : List UInt8) : Prop :=
  tree.entry? (directory ++ [fileName]) = some (.file content)

/-- The directory is the innermost one, from the place on upwards, that has a settings file. -/
structure IsNearest (tree : Tree) (place directory : Place) (content : List UInt8) : Prop where
  above : directory <+: place
  here : HasFile tree directory content
  innermost : ∀ other, other <+: place → directory.length < other.length →
    ∀ content, ¬ HasFile tree other content

section
variable {tree : Tree} {place directory : Place} {content : List UInt8}

/-- What a directory contributes to the search. -/
theorem found_iff (other : Place) :
    (match tree.entry? (other ++ [fileName]) with
      | some (.file content) => some (other, content)
      | _ => none) = some (directory, content) ↔
        directory = other ∧ HasFile tree other content := by
  unfold HasFile
  split
  · rename_i inside whole
    rw [whole]
    simp [eq_comm]
  · rename_i noFile
    constructor
    · intro impossible
      cases impossible
    · rintro ⟨-, whole⟩
      exact absurd whole (noFile content)

/-- **The file that is found is the nearest one.** -/
theorem nearest?_eq_some_iff :
    nearest? tree place = some (directory, content) ↔ IsNearest tree place directory content := by
  unfold nearest?
  rw [List.findSome?_eq_some_iff]
  have ordered := pairwise_ancestors place
  constructor
  · rintro ⟨inner, other, outer, whole, found, none⟩
    obtain ⟨rfl, here⟩ := (found_iff other).1 found
    rw [whole, List.pairwise_append, List.pairwise_cons] at ordered
    refine ⟨mem_ancestors_iff.1 (whole ▸ by simp), here, ?_⟩
    intro other above longer content' inside
    have member := mem_ancestors_iff.2 above
    rw [whole, List.mem_append, List.mem_cons] at member
    rcases member with before | rfl | after
    · cases (none other before).symm.trans ((found_iff other).2 ⟨rfl, inside⟩)
    · exact Nat.lt_irrefl _ longer
    · exact Nat.lt_asymm longer (ordered.2.1.1 other after)
  · intro nearest
    obtain ⟨inner, outer, whole⟩ := List.append_of_mem (mem_ancestors_iff.2 nearest.above)
    rw [whole, List.pairwise_append] at ordered
    refine ⟨inner, directory, outer, whole, (found_iff directory).2 ⟨rfl, nearest.here⟩, ?_⟩
    intro other member
    rw [Option.eq_none_iff_forall_ne_some]
    rintro ⟨other', content'⟩ found
    obtain ⟨-, inside⟩ := (found_iff other).1 found
    exact nearest.innermost other (mem_ancestors_iff.1 (whole ▸ by simp [member]))
      (ordered.2.2 other member directory List.mem_cons_self) content' inside

/-- There is only one nearest file. -/
theorem IsNearest.unique {other : Place} {content' : List UInt8}
    (nearest : IsNearest tree place directory content)
    (nearest' : IsNearest tree place other content') : other = directory ∧ content' = content := by
  have same := (nearest?_eq_some_iff.2 nearest').symm.trans (nearest?_eq_some_iff.2 nearest)
  exact Prod.mk.inj (Option.some.inj same)

theorem nearest?_eq_none_iff :
    nearest? tree place = none ↔ ∀ directory content, ¬ IsNearest tree place directory content := by
  rw [Option.eq_none_iff_forall_ne_some, Prod.forall]
  simp only [ne_eq, nearest?_eq_some_iff]

end

/-- Trees have the same nearest settings file for a place, or both have none. -/
def SameNearest (tree other : Tree) (place : Place) : Prop :=
  ∀ directory content,
    IsNearest other place directory content ↔ IsNearest tree place directory content

/-- **Only the content of the nearest file matters**, whatever it holds and whatever there is
further out. -/
theorem loadWithin_eq_of_nearest {tree other : Tree} {path : Path} {place : Place}
    (placed : directoryPlace? path = some place) (same : SameNearest tree other place)
    (limits : Toml.Limits) (overrides : Table) :
    loadWithin limits other path overrides = loadWithin limits tree path overrides := by
  have found : nearest? other place = nearest? tree place := by
    apply Option.ext
    rintro ⟨directory, content⟩
    rw [nearest?_eq_some_iff, nearest?_eq_some_iff]
    exact same directory content
  unfold loadWithin findGivenWithin
  rw [placed, Option.bind_some, Option.bind_some, found]

end ModuleGlue.Settings
