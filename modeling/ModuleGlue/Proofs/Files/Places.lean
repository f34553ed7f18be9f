import Mathlib.Data.List.Induction
import ModuleGlue.Proofs.Outcome
import ModuleGlue.Settings.Load

/-!
Contract: where paths lead in a tree, and what stands below a place.

In a tree that can come to be, whatever stands somewhere stands in a directory, and no place has the
name of a parent directory in it. There a path that continues with the names of a place below leads
to that place.

Main statements: `locate_below` (where such paths lead), `mem_below_iff` and `below_nodup` (the list
of what stands below a place).

Owns: sound trees, and walks along names.

Does not own: how a tree changes.
-/

namespace ModuleGlue.Files

open ModuleGlue.Settings (directoryPlace?)

namespace Tree

/-! ## Entries -/

theorem entry?_root (tree : Tree) : tree.entry? [] = some .directory := rfl

theorem entry?_put {place : Place} (inside : place ≠ []) (tree : Tree) (entry : Entry)
    (other : Place) :
    Tree.entry? (tree.put place entry) other =
      if other = place then some entry else tree.entry? other := by
  unfold entry? put
  by_cases same : other = place
  · subst same
    rw [if_pos rfl, if_neg (by simpa using inside), List.lookup_cons_self]
  · rw [if_neg same, List.lookup_cons, beq_false_of_ne same]

/-- Something stands where the tree has an entry. -/
theorem entry?_isSome_iff (tree : Tree) {place : Place} (inside : place ≠ []) :
    (tree.entry? place).isSome ↔ ∃ entry, (place, entry) ∈ tree.entries := by
  unfold entry?
  rw [if_neg (by simpa using inside), List.lookup_isSome_iff]
  constructor
  · rintro ⟨⟨other, entry⟩, member, same⟩
    obtain rfl := eq_of_beq same
    exact ⟨entry, member⟩
  · rintro ⟨entry, member⟩
    exact ⟨(place, entry), member, beq_self_eq_true place⟩

/-! ## Sound trees -/

/-- A tree that can come to be. -/
structure Sound (tree : Tree) : Prop where
  /-- Whatever stands somewhere stands in a directory. -/
  within : ∀ place entry, tree.entry? place = some entry →
    tree.entry? place.dropLast = some .directory
  /-- No place is named as one above it. -/
  named : ∀ place entry, tree.entry? place = some entry → Path.up ∉ place

/-- A tree is sound if its entries are in order. -/
theorem sound_iff_entries (tree : Tree) :
    tree.Sound ↔ ∀ found ∈ tree.entries, found.1 ≠ [] →
      tree.entry? found.1.dropLast = some .directory ∧ Path.up ∉ found.1 := by
  constructor
  · rintro sound ⟨place, entry⟩ member inside
    obtain ⟨entry, found⟩ :=
      Option.isSome_iff_exists.1 ((tree.entry?_isSome_iff inside).2 ⟨entry, member⟩)
    exact ⟨sound.within place entry found, sound.named place entry found⟩
  · intro entries
    have inOrder : ∀ place entry, tree.entry? place = some entry →
        tree.entry? place.dropLast = some .directory ∧ Path.up ∉ place := by
      intro place entry found
      by_cases inside : place = []
      · subst inside
        exact ⟨rfl, List.not_mem_nil⟩
      · obtain ⟨entry, member⟩ :=
          (tree.entry?_isSome_iff inside).1 (Option.isSome_iff_exists.2 ⟨entry, found⟩)
        exact entries (place, entry) member inside
    exact ⟨fun place entry found => (inOrder place entry found).1,
      fun place entry found => (inOrder place entry found).2⟩

instance (tree : Tree) : Decidable tree.Sound := decidable_of_iff' _ (sound_iff_entries tree)

/-- All that is above something is directories. -/
theorem Sound.directory_of_append {tree : Tree} (sound : tree.Sound) {front back : Place}
    {entry : Entry} (found : tree.entry? (front ++ back) = some entry) (below : back ≠ []) :
    tree.entry? front = some .directory := by
  induction back using List.reverseRecOn generalizing entry with
  | nil => exact absurd rfl below
  | append_singleton rest name inductionHypothesis =>
      have above := sound.within _ _ found
      rw [← List.append_assoc, List.dropLast_concat] at above
      by_cases last : rest = []
      · rwa [last, List.append_nil] at above
      · exact inductionHypothesis above last

/-! ## Walks -/

/-- A step leads from a directory to something in it, or to the directory above it. -/
theorem step_eq_ok_iff {tree : Tree} {place next : Place} {name : String} :
    tree.step place name = .ok next ↔ tree.entry? place = some .directory ∧
      if name = Path.up then place ≠ [] ∧ next = place.dropLast else next = place ++ [name] := by
  unfold step
  cases tree.entry? place with
  | none => simp
  | some entry =>
      cases entry with
      | file content => simp
      | directory =>
          by_cases isUp : name = Path.up
          · rw [if_pos isUp, if_pos isUp]
            cases place with
            | nil => simp
            | cons first rest => simp [eq_comm]
          · rw [if_neg isUp, if_neg isUp]
            simp [eq_comm]

/-- A tree in which directories stay what they are. -/
def KeepsDirectories (tree later : Tree) : Prop :=
  ∀ place, tree.entry? place = some .directory → later.entry? place = some .directory

/-- Where directories stay, walks lead where they led. -/
theorem walk_mono {tree later : Tree} (keeps : KeepsDirectories tree later) {names : List String}
    {start place : Place} (walked : names.foldlM tree.step start = .ok place) :
    names.foldlM later.step start = .ok place := by
  induction names generalizing start with
  | nil => exact walked
  | cons name rest inductionHypothesis =>
      rw [List.foldlM_cons] at walked ⊢
      obtain ⟨next, stepped, walked⟩ := bind_eq_ok_iff.1 walked
      obtain ⟨directory, leads⟩ := step_eq_ok_iff.1 stepped
      have again : later.step start name = .ok next :=
        step_eq_ok_iff.2 ⟨keeps start directory, leads⟩
      exact bind_eq_ok_iff.2 ⟨next, again, inductionHypothesis walked⟩

theorem locate_mono {tree later : Tree} (keeps : KeepsDirectories tree later) {path : Path}
    {place : Place} (located : tree.locate path = .ok place) : later.locate path = .ok place := by
  unfold locate at located ⊢
  split at located
  · cases located
  · rename_i relative
    rw [if_neg relative]
    exact walk_mono keeps located

theorem locate_append (tree : Tree) (path : Path) (names : List String) :
    tree.locate (path.append names) =
      (tree.locate path).bind fun place => names.foldlM tree.step place := by
  unfold locate Path.append Path.isRooted
  dsimp only
  split
  · rfl
  · rw [List.foldlM_append]
    rfl

/-- A walk along the names of something that is there leads to it. -/
theorem Sound.walk_below {tree : Tree} (sound : tree.Sound) {start names : Place} {entry : Entry}
    (found : tree.entry? (start ++ names) = some entry) :
    names.foldlM tree.step start = .ok (start ++ names) := by
  induction names generalizing start with
  | nil =>
      rw [List.append_nil]
      rfl
  | cons name rest inductionHypothesis =>
      have notUp : name ≠ Path.up := by
        rintro rfl
        exact sound.named _ _ found (List.mem_append_right start List.mem_cons_self)
      have stepped : tree.step start name = .ok (start ++ [name]) := step_eq_ok_iff.2
        ⟨sound.directory_of_append found (List.cons_ne_nil name rest), by rw [if_neg notUp]⟩
      rw [List.append_cons] at found ⊢
      rw [List.foldlM_cons, stepped]
      exact inductionHypothesis found

/-- **The paths of what stands below a place**: they continue the path of the place. -/
theorem Sound.locate_below {tree : Tree} (sound : tree.Sound) {path : Path} {place below : Place}
    {entry : Entry} (located : tree.locate path = .ok place)
    (found : tree.entry? (place ++ below) = some entry) :
    tree.locate (path.append below) = .ok (place ++ below) := by
  rw [locate_append, located]
  exact sound.walk_below found

/-! ## Places that are not looked up -/

/-- The place that a name leads to if it is that of a directory. -/
def follow (place : Place) (name : String) : Option Place :=
  if name = Path.up then if place.isEmpty then none else some place.dropLast
  else some (place ++ [name])

theorem directoryPlace?_eq (path : Path) :
    directoryPlace? path = if path.isRooted then none else path.names.foldlM follow [] := rfl

theorem follow_of_step {tree : Tree} {place next : Place} {name : String}
    (stepped : tree.step place name = .ok next) : follow place name = some next := by
  obtain ⟨-, leads⟩ := step_eq_ok_iff.1 stepped
  unfold follow
  split at leads
  · rename_i isUp
    obtain ⟨inside, rfl⟩ := leads
    rw [if_pos isUp, if_neg (by simpa using inside)]
  · rename_i notUp
    rw [if_neg notUp, leads]

/-- A walk that succeeds leads where the names say. -/
theorem directoryPlace?_of_locate {tree : Tree} {path : Path} {place : Place}
    (located : tree.locate path = .ok place) : directoryPlace? path = some place := by
  have walk : ∀ (names : List String) (start : Place),
      names.foldlM tree.step start = .ok place → names.foldlM follow start = some place := by
    intro names
    induction names with
    | nil =>
        intro start walked
        rw [← Except.ok.inj walked]
        rfl
    | cons name rest inductionHypothesis =>
        intro start walked
        rw [List.foldlM_cons] at walked ⊢
        obtain ⟨next, stepped, walked⟩ := bind_eq_ok_iff.1 walked
        rw [follow_of_step stepped]
        exact inductionHypothesis next walked
  unfold locate at located
  rw [directoryPlace?_eq]
  split at located
  · cases located
  · rename_i relative
    rw [if_neg relative]
    exact walk path.names [] located

/-- Names that lead downwards are added to the place. -/
theorem directoryPlace?_append (path : Path) {names : List String} (downwards : Path.up ∉ names) :
    directoryPlace? (path.append names) = (directoryPlace? path).map (· ++ names) := by
  have walk : ∀ start : Place, names.foldlM follow start = some (start ++ names) := by
    induction names with
    | nil =>
        intro start
        rw [List.append_nil]
        rfl
    | cons name rest inductionHypothesis =>
        intro start
        have notUp : name ≠ Path.up := fun same => downwards (same ▸ List.mem_cons_self)
        have others : Path.up ∉ rest := fun member => downwards (List.mem_cons_of_mem name member)
        rw [List.foldlM_cons, follow, if_neg notUp, List.append_cons start name rest]
        exact inductionHypothesis others (start ++ [name])
  rw [directoryPlace?_eq, directoryPlace?_eq]
  unfold Path.append Path.isRooted
  dsimp only
  split
  · rfl
  · rw [List.foldlM_append]
    cases List.foldlM follow [] path.names with
    | none => rfl
    | some place => exact walk place

/-! ## What stands below a place -/

theorem nodup_eraseDups {α : Type} [BEq α] [LawfulBEq α] (items : List α) :
    items.eraseDups.Nodup := by
  induction size : items.length using Nat.strongRecOn generalizing items with
  | ind size inductionHypothesis =>
      cases items with
      | nil => exact List.nodup_nil
      | cons item rest =>
          rw [List.eraseDups_cons, List.nodup_cons, List.mem_eraseDups]
          refine ⟨by simp, inductionHypothesis _ ?_ _ rfl⟩
          have shorter := List.length_filter_le (fun other => !other == item) rest
          rw [← size, List.length_cons]
          omega

/-- The places below a place, as names from there, each of them once, in the order of the entries. -/
def namesBelow (tree : Tree) (place : Place) : List Place :=
  (tree.entries.filterMap fun (other, _) =>
    if place.isPrefixOf other && place.length < other.length then some (other.drop place.length)
    else none).eraseDups

theorem below_perm (tree : Tree) (place : Place) :
    (tree.below place).Perm (tree.namesBelow place) :=
  List.mergeSort_perm _ _

/-- Where the entries are in order, they are listed as they are. -/
theorem below_eq_of_sorted {tree : Tree} {place : Place}
    (sorted : (tree.namesBelow place).Pairwise fun first second => precedes first second = true) :
    tree.below place = tree.namesBelow place :=
  List.mergeSort_of_pairwise sorted

theorem below_nodup (tree : Tree) (place : Place) : (tree.below place).Nodup :=
  (tree.below_perm place).nodup_iff.2 (nodup_eraseDups _)

/-- Everything that stands below a place is listed. -/
theorem mem_below_iff {tree : Tree} {place below : Place} :
    below ∈ tree.below place ↔ below ≠ [] ∧ (tree.entry? (place ++ below)).isSome := by
  rw [(tree.below_perm place).mem_iff, namesBelow, List.mem_eraseDups, List.mem_filterMap]
  constructor
  · rintro ⟨⟨other, entry⟩, member, found⟩
    dsimp only at found
    split at found
    · rename_i within
      obtain ⟨isPrefix, longer⟩ := Bool.and_eq_true_iff.1 within
      obtain ⟨rest, rfl⟩ := List.isPrefixOf_iff_prefix.1 isPrefix
      rw [List.drop_left] at found
      obtain rfl := Option.some.inj found
      have nonempty : rest ≠ [] := by
        rintro rfl
        simp at longer
      exact ⟨nonempty, (tree.entry?_isSome_iff (List.append_ne_nil_of_right_ne_nil _ nonempty)).2
        ⟨entry, member⟩⟩
    · cases found
  · rintro ⟨nonempty, found⟩
    obtain ⟨entry, member⟩ :=
      (tree.entry?_isSome_iff (List.append_ne_nil_of_right_ne_nil _ nonempty)).1 found
    refine ⟨(place ++ below, entry), member, ?_⟩
    have within : (place.isPrefixOf (place ++ below) &&
        decide (place.length < (place ++ below).length)) = true := by
      simpa using List.length_pos_iff.2 nonempty
    dsimp only
    rw [if_pos within, List.drop_left]

end Tree

end ModuleGlue.Files
