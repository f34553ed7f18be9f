import Mathlib.Data.List.Perm.Basic
import ModuleGlue.Proofs.Directive.OptionList

/-!
Contract: records that configure a function in the same way.

Where a value was written, and in which order the keys were given, makes no difference to the
function.

Main statement: `Options.extend_equivalent` (settings in another order and at other places make
records that are equivalent).

Owns: equivalence of records, and settings without their places.

Does not own: which token lists write which settings.
-/

namespace ModuleGlue.Directive

open ModuleGlue.Text

structure Options.Equivalent (first second : Options) : Prop where
  externalName : first.externalName = second.externalName
  textSignature : first.textSignature.map TextSignature.value =
    second.textSignature.map TextSignature.value
  passModule : first.passModule = second.passModule
  specified : ∀ key, key ∈ first.specified ↔ key ∈ second.specified

def Setting.unplaced : Setting → Setting
  | .name value => .name ⟨value.value, none⟩
  | .textSignature value => .textSignature ⟨value.value, none⟩
  | .passModule value => .passModule value

@[simp] theorem Setting.key_unplaced (setting : Setting) : setting.unplaced.key = setting.key := by
  cases setting <;> rfl

theorem map_key_unplaced (settings : List Setting) :
    (settings.map Setting.unplaced).map Setting.key = settings.map Setting.key := by
  rw [List.map_map]
  exact List.map_congr_left fun setting _ => setting.key_unplaced

theorem map_key_of_unplaced {settings others : List Setting}
    (same : others.map Setting.unplaced = settings.map Setting.unplaced) :
    others.map Setting.key = settings.map Setting.key := by
  rw [← map_key_unplaced, same, map_key_unplaced]

section
variable {first second : List Setting} {α : Type}

/-- Where no key is written twice, a value is found in every order. -/
theorem findSome?_eq_of_perm {read : Setting → Option α} (key : OptionKey)
    (only : ∀ setting, setting.key ≠ key → read setting = none) (same : first.Perm second)
    (distinct : (first.map Setting.key).Nodup) : first.findSome? read = second.findSome? read := by
  induction same with
  | nil => rfl
  | cons setting _ inductionHypothesis =>
      rw [List.map_cons, List.nodup_cons] at distinct
      rw [List.findSome?_cons, List.findSome?_cons, inductionHypothesis distinct.2]
  | swap setting other rest =>
      have different : other.key ≠ setting.key := by
        rw [List.map_cons, List.map_cons, List.nodup_cons, List.mem_cons, not_or] at distinct
        exact distinct.1.1
      simp only [List.findSome?_cons]
      by_cases here : setting.key = key
      · rw [only other (here ▸ different)]
      · rw [only setting here]
  | trans before _ inductionHypothesis inductionHypothesis' =>
      rw [inductionHypothesis distinct,
        inductionHypothesis' ((before.map Setting.key).nodup_iff.1 distinct)]

/-- Where places are not looked at, settings may be compared without them. -/
theorem findSome?_eq_of_unplaced (read : Setting → Option α) (key : OptionKey)
    (only : ∀ setting, setting.key ≠ key → read setting = none)
    (unplaced : ∀ setting, read setting.unplaced = read setting)
    (same : (first.map Setting.unplaced).Perm (second.map Setting.unplaced))
    (distinct : (first.map Setting.key).Nodup) : first.findSome? read = second.findSome? read := by
  rw [← map_key_unplaced] at distinct
  have found := findSome?_eq_of_perm key only same distinct
  have skips : read ∘ Setting.unplaced = read := funext unplaced
  rwa [List.findSome?_map, List.findSome?_map, skips] at found

/-- **Settings in another order and at other places make records that are equivalent.** -/
theorem Options.extend_equivalent (options : Options)
    (same : (first.map Setting.unplaced).Perm (second.map Setting.unplaced))
    (distinct : (first.map Setting.key).Nodup) :
    (options.extend first).Equivalent (options.extend second) where
  externalName := by
    have found := findSome?_eq_of_unplaced (Option.map Name.value ∘ Setting.name?) .name
      (by rintro (_ | _ | _) different <;> trivial) (by rintro (_ | _ | _) <;> rfl) same distinct
    rw [← List.map_findSome?, ← List.map_findSome?] at found
    simp only [Options.externalName, Options.extend, Option.map_or, found]
  textSignature := by
    have found := findSome?_eq_of_unplaced
      (Option.map TextSignature.value ∘ Setting.textSignature?) .textSignature
      (by rintro (_ | _ | _) different <;> trivial) (by rintro (_ | _ | _) <;> rfl) same distinct
    rw [← List.map_findSome?, ← List.map_findSome?] at found
    simp only [Options.extend, Option.map_or, found]
  passModule := by
    have found := findSome?_eq_of_unplaced Setting.passModule? .passModule
      (by rintro (_ | _ | _) different <;> trivial) (by rintro (_ | _ | _) <;> rfl) same distinct
    simp only [Options.extend, found]
  specified key := by
    have keys := same.map Setting.key
    rw [map_key_unplaced, map_key_unplaced] at keys
    simp only [Options.extend, List.mem_append, keys.mem_iff]

end

end ModuleGlue.Directive
