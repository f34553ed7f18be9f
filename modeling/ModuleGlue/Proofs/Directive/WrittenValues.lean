import Mathlib.Data.List.Nodup
import ModuleGlue.Proofs.Directive.OptionList

/-!
Contract: the values that a record of settings comes to.

A record looks each value up by its key. Where no key is written twice, the value that is found is
the one that is written, wherever it stands.

Main statements: `extend_externalName_iff` (the name in effect) and `extend_isForModule_iff` (whether
the values are those that a module may have).

Owns: values as members of a list of settings, and which settings a module may have.

Does not own: how settings get into a record.
-/

namespace ModuleGlue.Directive

/-! ## Written values -/

/-- Where no key is written twice, the value that is found is the one that is written. -/
theorem findSome?_eq_some_iff_mem {α : Type} {read : Setting → Option α} {write : α → Setting}
    (inverse : ∀ setting value, read setting = some value ↔ setting = write value)
    (sameKey : ∀ value other, (write value).key = (write other).key) {settings : List Setting}
    (distinct : (settings.map Setting.key).Nodup) {value : α} :
    settings.findSome? read = some value ↔ write value ∈ settings := by
  constructor
  · intro found
    obtain ⟨setting, member, here⟩ := List.exists_of_findSome?_eq_some found
    rwa [(inverse setting value).1 here] at member
  · intro member
    cases found : settings.findSome? read with
    | none =>
        have unread := List.findSome?_eq_none_iff.1 found _ member
        rw [(inverse _ value).2 rfl] at unread
        cases unread
    | some other =>
        obtain ⟨setting, member', here⟩ := List.exists_of_findSome?_eq_some found
        rw [(inverse setting other).1 here] at member' here
        have same := List.inj_on_of_nodup_map distinct member' member (sameKey other value)
        rw [same, (inverse _ value).2 rfl] at here
        exact here.symm

/-- The settings that a module may have: its name, and a flag that is not set. -/
def Setting.IsForModule : Setting → Prop
  | .name _ => True
  | .textSignature _ => False
  | .passModule flag => flag = false

/-- The name that some settings give to what has a name of its own. -/
def NamedBy (settings : List Setting) (own name : String) : Prop :=
  (∃ value, .name value ∈ settings ∧ name = value.value) ∨
    (∀ value, .name value ∉ settings) ∧ name = own

section
variable {settings : List Setting}

theorem name?_eq_some_iff (setting : Setting) (value : Name) :
    setting.name? = some value ↔ setting = .name value := by
  cases setting <;> simp [Setting.name?]

theorem textSignature?_eq_some_iff (setting : Setting) (value : TextSignature) :
    setting.textSignature? = some value ↔ setting = .textSignature value := by
  cases setting <;> simp [Setting.textSignature?]

theorem passModule?_eq_some_iff (setting : Setting) (value : Bool) :
    setting.passModule? = some value ↔ setting = .passModule value := by
  cases setting <;> simp [Setting.passModule?]

/-- The values of a record that are checked are those of a module exactly if its settings are. -/
theorem extend_isForModule_iff (distinct : (settings.map Setting.key).Nodup) :
    ((Options.empty.extend settings).passModule ||
        (Options.empty.extend settings).textSignature.isSome) = false ↔
      ∀ setting ∈ settings, setting.IsForModule := by
  have flag : (Options.empty.extend settings).passModule = false ↔
      .passModule true ∉ settings := by
    rw [← findSome?_eq_some_iff_mem passModule?_eq_some_iff (fun _ _ => rfl) distinct]
    show (settings.findSome? Setting.passModule?).getD false = false ↔ _
    cases settings.findSome? Setting.passModule? <;> simp
  have signature : (Options.empty.extend settings).textSignature.isSome = false ↔
      ∀ value, .textSignature value ∉ settings := by
    simp only [← findSome?_eq_some_iff_mem textSignature?_eq_some_iff (fun _ _ => rfl) distinct]
    show ((settings.findSome? Setting.textSignature?).or none).isSome = false ↔ _
    cases settings.findSome? Setting.textSignature? <;> simp
  rw [Bool.or_eq_false_iff, flag, signature]
  constructor
  · rintro ⟨unset, unsigned⟩ setting member
    cases setting with
    | name value => trivial
    | textSignature value => exact unsigned value member
    | passModule value =>
        cases value with
        | false => rfl
        | true => exact absurd member unset
  · intro every
    exact ⟨fun member => Bool.noConfusion (every _ member), fun value member => every _ member⟩

/-- The external name of a record is the one that its settings give. -/
theorem extend_externalName_iff (distinct : (settings.map Setting.key).Nodup)
    {own name : String} :
    (Options.empty.extend settings).externalName.getD own = name ↔ NamedBy settings own name := by
  have found : (Options.empty.extend settings).externalName =
      (settings.findSome? Setting.name?).map Name.value := by
    simp [Options.externalName, Options.extend, Options.empty]
  unfold NamedBy
  simp only [← findSome?_eq_some_iff_mem name?_eq_some_iff (fun _ _ => rfl) distinct]
  rw [found]
  cases settings.findSome? Setting.name? with
  | none => simp [eq_comm]
  | some value => simp [eq_comm]

end

end ModuleGlue.Directive
