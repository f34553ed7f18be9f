import ModuleGlue.Proofs.Directive.NameSpellings
import ModuleGlue.Settings.Validation

/-!
Contract: which values are valid for a key, and what they stand for.

A name is an identifier, a module path is made of identifiers with dots between them; either may
have blanks around it. A flag is a truth value, the number zero or one, or one of a few words.

Main statements: `validate_eq_ok_iff` (a table is valid exactly if each of its settings is what the
value under its key stands for, or the default) and `mem_keys_of_faults_iff` (if it is not, exactly
the keys of invalid values are reported).

Owns: the values that are valid, as relations to what they stand for.

Does not own: which value counts for a key.
-/

namespace ModuleGlue.Settings

open ModuleGlue.Directive (exists_cons_of_isIdentifier)
open ModuleGlue.Text (isBlank isIdentifier trimBlanks)

/-! ## Blanks -/

/-- A text is another one with blanks, and nothing else, around it. -/
def IsWithinBlanks (given text : List Char) : Prop :=
  ∃ front behind, given = front ++ (text ++ behind) ∧ (∀ c ∈ front, isBlank c = true) ∧
    ∀ c ∈ behind, isBlank c = true

theorem dropWhile_blanks {front text : List Char} (blanks : ∀ c ∈ front, isBlank c = true)
    (noBlank : ∀ c ∈ text.head?, isBlank c = false) :
    (front ++ text).dropWhile isBlank = text := by
  rw [List.dropWhile_append_of_pos blanks]
  cases text with
  | nil => rfl
  | cons c rest => rw [List.dropWhile_cons_of_neg (by simp [noBlank c rfl])]

/-- What is left without blanks at both ends is what the blanks are around. -/
theorem trimBlanks_eq_iff {given text : List Char} (solid : text ≠ [])
    (noBlank : ∀ c ∈ text, isBlank c = false) :
    trimBlanks given = text ↔ IsWithinBlanks given text := by
  unfold trimBlanks
  constructor
  · rintro rfl
    refine ⟨given.takeWhile isBlank,
      ((given.dropWhile isBlank).reverse.takeWhile isBlank).reverse, ?_, ?_, ?_⟩
    · rw [← List.reverse_append, List.takeWhile_append_dropWhile, List.reverse_reverse,
        List.takeWhile_append_dropWhile]
    · exact fun c member => List.mem_takeWhile_imp member
    · exact fun c member => List.mem_takeWhile_imp (List.mem_reverse.1 member)
  · rintro ⟨front, behind, rfl, before, after⟩
    have first : ∀ c ∈ (text ++ behind).head?, isBlank c = false := by
      intro c member
      rw [List.head?_append_of_ne_nil _ solid] at member
      exact noBlank c (List.mem_of_mem_head? member)
    have last : ∀ c ∈ text.reverse.head?, isBlank c = false := by
      intro c member
      exact noBlank c (List.mem_reverse.1 (List.mem_of_mem_head? member))
    rw [dropWhile_blanks before first, List.reverse_append,
      dropWhile_blanks (fun c member => after c (List.mem_reverse.1 member)) last,
      List.reverse_reverse]

/-! ## Names -/

/-- An identifier is not empty, and there is no blank in it. -/
theorem solid_of_isIdentifier {name : String} (is : isIdentifier name = true) :
    name.toList ≠ [] ∧ ∀ c ∈ name.toList, isBlank c = false := by
  obtain ⟨first, rest, spelling, -, named⟩ := exists_cons_of_isIdentifier is
  rw [spelling]
  exact ⟨List.cons_ne_nil _ _, fun c member => (named c member).notBlank⟩

/-- The value is a name, up to blanks around it. -/
inductive IsName : Value → String → Prop
  | mk {given name : String} (within : IsWithinBlanks given.toList name.toList)
      (is : isIdentifier name = true) : IsName (.text given) name

theorem readName_eq_ok_iff {value : Value} {name : String} :
    value.readName = .ok name ↔ IsName value name := by
  constructor
  · intro read
    unfold Value.readName at read
    split at read
    · rename_i given
      dsimp only at read
      split at read
      · rename_i is
        obtain rfl := Except.ok.inj read
        obtain ⟨solid, noBlank⟩ := solid_of_isIdentifier is
        refine .mk ((trimBlanks_eq_iff solid noBlank).1 ?_) is
        rw [String.toList_ofList]
      · cases read
    · cases read
  · rintro ⟨within, is⟩
    obtain ⟨solid, noBlank⟩ := solid_of_isIdentifier is
    have trimmed := (trimBlanks_eq_iff solid noBlank).2 within
    unfold Value.readName
    dsimp only
    rw [trimmed, String.ofList_toList, if_pos is]

/-! ## Module paths -/

/-- A text is made of identifiers with dots between them. -/
def IsDotted (path : List Char) : Prop :=
  ∃ segments, segments ≠ [] ∧
    (∀ segment ∈ segments, isIdentifier (String.ofList segment) = true) ∧
      path = ['.'].intercalate segments

theorem isModulePath_iff {path : String} : isModulePath path = true ↔ IsDotted path.toList := by
  unfold isModulePath
  rw [List.all_eq_true]
  constructor
  · intro names
    exact ⟨path.toList.splitOn '.', by simp, names, (List.intercalate_splitOn '.').symm⟩
  · rintro ⟨segments, some, names, joined⟩
    have noDot : ∀ segment ∈ segments, '.' ∉ segment := by
      intro segment member dot
      obtain ⟨first, rest, spelling, -, named⟩ :=
        exists_cons_of_isIdentifier (names segment member)
      rw [String.toList_ofList] at spelling
      rw [spelling] at dot
      exact (named '.' dot).ne_of_ascii (by decide) (by decide) rfl
    rw [joined, List.splitOn_intercalate '.' noDot some]
    exact names

/-- A dotted path is not empty, and there is no blank in it. -/
theorem IsDotted.solid {path : List Char} (dotted : IsDotted path) :
    path ≠ [] ∧ ∀ c ∈ path, isBlank c = false := by
  obtain ⟨segments, some, names, rfl⟩ := dotted
  induction segments with
  | nil => exact absurd rfl some
  | cons segment rest inductionHypothesis =>
      obtain ⟨here, noBlank⟩ := solid_of_isIdentifier (names segment List.mem_cons_self)
      rw [String.toList_ofList] at here noBlank
      cases rest with
      | nil =>
          rw [List.intercalate_singleton]
          exact ⟨here, noBlank⟩
      | cons second others =>
          obtain ⟨-, noBlank'⟩ := inductionHypothesis (List.cons_ne_nil _ _)
            fun segment member => names segment (List.mem_cons_of_mem _ member)
          rw [List.intercalate_cons_cons]
          refine ⟨by simp [here], ?_⟩
          intro c member
          rcases List.mem_append.1 member with front | behind
          · rcases List.mem_append.1 front with inside | dot
            · exact noBlank c inside
            · rw [List.mem_singleton.1 dot]
              decide
          · exact noBlank' c behind

/-- The value is a module path, up to blanks around it; or it says that there is none. -/
inductive IsPath : Value → Option String → Prop
  | none : IsPath .null none
  | some {given path : String} (within : IsWithinBlanks given.toList path.toList)
      (dotted : IsDotted path.toList) : IsPath (.text given) (some path)

theorem readModulePath_eq_ok_iff {value : Value} {path : Option String} :
    value.readModulePath = .ok path ↔ IsPath value path := by
  constructor
  · intro read
    unfold Value.readModulePath at read
    split at read
    · obtain rfl := Except.ok.inj read
      exact .none
    · rename_i given
      dsimp only at read
      split at read
      · rename_i is
        obtain rfl := Except.ok.inj read
        have dotted := isModulePath_iff.1 is
        refine .some ((trimBlanks_eq_iff dotted.solid.1 dotted.solid.2).1 ?_) dotted
        rw [String.toList_ofList]
      · cases read
    · cases read
  · intro isPath
    cases isPath with
    | none => rfl
    | some within dotted =>
        have trimmed := (trimBlanks_eq_iff dotted.solid.1 dotted.solid.2).2 within
        unfold Value.readModulePath
        dsimp only
        rw [trimmed, String.ofList_toList, if_pos (isModulePath_iff.2 dotted)]

/-! ## Flags -/

inductive IsWhole : Double → Int → Prop
  | mk {count size : Nat} {unit : Int} (isNegative : Bool)
      (same : count * Nat.pow 2 unit.toNat = size * Nat.pow 2 (-unit).toNat) :
      IsWhole (.finite isNegative count unit) (if isNegative then -(size : Int) else size)

theorem whole?_eq_some_iff {value : Double} {whole : Int} :
    value.whole? = some whole ↔ IsWhole value whole := by
  constructor
  · intro found
    unfold Double.whole? at found
    split at found
    · rename_i isNegative count unit
      dsimp only at found
      split at found
      · rename_i divides
        obtain rfl := Option.some.inj found
        exact .mk isNegative (Nat.div_mul_cancel (Nat.dvd_of_mod_eq_zero divides)).symm
      · cases found
    · cases found
  · rintro ⟨isNegative, same⟩
    have positive : ∀ places, 0 < Nat.pow 2 places := fun _ => Nat.pow_pos Nat.two_pos
    unfold Double.whole?
    dsimp only
    rw [same, Nat.mul_mod_left, if_pos rfl, Nat.mul_div_cancel _ (positive _)]

/-- The value stands for a truth value. Words may be written in upper case. -/
inductive IsTruth : Value → Bool → Prop
  | truth (flag : Bool) : IsTruth (.truth flag) flag
  | integer (flag : Bool) : IsTruth (.integer flag.toNat) flag
  | real {value : Double} {flag : Bool} (is : IsWhole value flag.toNat) : IsTruth (.real value) flag
  | word {written : String} {flag : Bool} (listed : (written.toLower, flag) ∈ truthWords) :
      IsTruth (.text written) flag

theorem lookup_truthWords_iff {word : String} {flag : Bool} :
    truthWords.lookup word = some flag ↔ (word, flag) ∈ truthWords := by
  constructor
  · intro found
    obtain ⟨before, after, whole, -⟩ := List.lookup_eq_some_iff.1 found
    rw [whole]
    simp
  · intro listed
    have each : ∀ entry ∈ truthWords, truthWords.lookup entry.1 = some entry.2 := by decide
    exact each _ listed

theorem readWholeTruth_eq_ok_iff {whole : Int} {flag : Bool} :
    readWholeTruth whole = .ok flag ↔ whole = flag.toNat := by
  unfold readWholeTruth
  constructor
  · intro read
    split at read
    · rename_i zero
      obtain rfl := Except.ok.inj read
      exact zero
    · split at read
      · rename_i one
        obtain rfl := Except.ok.inj read
        exact one
      · split at read <;> cases read
  · rintro rfl
    cases flag <;> rfl

theorem readTruth_eq_ok_iff {value : Value} {flag : Bool} :
    value.readTruth = .ok flag ↔ IsTruth value flag := by
  constructor
  · intro read
    unfold Value.readTruth at read
    split at read
    · obtain rfl := Except.ok.inj read
      exact .truth _
    · rw [readWholeTruth_eq_ok_iff.1 read]
      exact .integer flag
    · split at read
      · rename_i found
        obtain rfl := readWholeTruth_eq_ok_iff.1 read
        exact .real (whole?_eq_some_iff.1 found)
      · cases read
    · split at read
      · rename_i found
        obtain rfl := Except.ok.inj read
        exact .word (lookup_truthWords_iff.1 found)
      · cases read
    · cases read
  · intro isTruth
    cases isTruth with
    | truth => rfl
    | integer => exact readWholeTruth_eq_ok_iff.2 rfl
    | real is =>
        unfold Value.readTruth
        dsimp only
        rw [whole?_eq_some_iff.2 is]
        exact readWholeTruth_eq_ok_iff.2 rfl
    | word listed =>
        unfold Value.readTruth
        dsimp only
        rw [lookup_truthWords_iff.2 listed]

/-! ## Tables -/

def Key.Accepts (key : Key) (value : Value) : Prop :=
  match key with
  | .runtimeAlias => ∃ name, IsName value name
  | .runtimeModule => ∃ path, IsPath value path
  | .failFast | .entryPoints => ∃ flag, IsTruth value flag

/-- A setting for the value that counts: what this stands for or, if there is none, the default. -/
inductive Settles {α : Type} (standsFor : Value → α → Prop) (default : α) : Option Value → α → Prop
  | default : Settles standsFor default none default
  | value {value : Value} {result : α} (stands : standsFor value result) :
      Settles standsFor default (some value) result

theorem Settles.stands {α : Type} {standsFor : Value → α → Prop} {default result : α}
    {value : Value} {found : Option Value} (settles : Settles standsFor default found result)
    (here : found = some value) : ∃ result, standsFor value result := by
  subst here
  cases settles with
  | value stands => exact ⟨result, stands⟩

theorem exists_settles {α : Type} {standsFor : Value → α → Prop} (default : α)
    {found : Option Value} (stands : ∀ value, found = some value → ∃ result, standsFor value result) :
    ∃ result, Settles standsFor default found result := by
  cases found with
  | none => exact ⟨default, .default⟩
  | some value =>
      obtain ⟨result, here⟩ := stands value rfl
      exact ⟨result, .value here⟩

section
variable {α : Type} {read : Value → Except Cause α} {standsFor : Value → α → Prop}
variable {values : Table} {key : Key} {default : α}

theorem setting_eq_ok_iff
    (reads : ∀ value result, read value = .ok result ↔ standsFor value result) {result : α} :
    values.setting key default read = .ok result ↔
      Settles standsFor default (values.get? key) result := by
  unfold Table.setting
  cases values.get? key with
  | none =>
      constructor
      · intro same
        obtain rfl := Except.ok.inj same
        exact .default
      · rintro ⟨⟩
        rfl
  | some value =>
      dsimp only
      constructor
      · intro found
        cases outcome : read value with
        | ok other =>
            rw [outcome] at found
            obtain rfl := Except.ok.inj found
            exact .value ((reads value other).1 outcome)
        | error cause =>
            rw [outcome] at found
            cases found
      · intro settles
        cases settles with
        | value stands =>
            rw [(reads value result).2 stands]
            rfl

/-- A fault is found under a key exactly if the value there stands for nothing. -/
theorem faultOf?_eq_some_iff
    (reads : ∀ value result, read value = .ok result ↔ standsFor value result) :
    (∃ fault, faultOf? (values.setting key default read) = some fault) ↔
      ∃ value, values.get? key = some value ∧ ¬ ∃ result, standsFor value result := by
  unfold Table.setting
  cases values.get? key with
  | none => simp [faultOf?]
  | some value =>
      simp only [Option.some.injEq, exists_eq_left', ← reads]
      constructor
      · rintro ⟨fault, found⟩ ⟨result, valid⟩
        rw [valid] at found
        cases found
      · intro invalid
        cases outcome : read value with
        | ok result => exact absurd ⟨result, outcome⟩ invalid
        | error cause => exact ⟨_, rfl⟩

theorem key_of_faultOf? {fault : Fault}
    (found : faultOf? (values.setting key default read) = some fault) : fault.key = key := by
  unfold Table.setting at found
  cases here : values.get? key with
  | none =>
      rw [here] at found
      cases found
  | some value =>
      rw [here] at found
      dsimp only at found
      cases outcome : read value with
      | ok result =>
          rw [outcome] at found
          cases found
      | error cause =>
          rw [outcome] at found
          obtain rfl := Option.some.inj found
          rfl

end

section
variable {values : Table}

/-- **A table is valid exactly if every value in it that counts is**, and then each setting is what
its value stands for. -/
theorem validate_eq_ok_iff {settings : Settings} :
    values.validate = .ok settings ↔
      Settles IsName Settings.default.runtimeAlias (values.get? .runtimeAlias)
        settings.runtimeAlias ∧
      Settles IsPath Settings.default.runtimeModule (values.get? .runtimeModule)
        settings.runtimeModule ∧
      Settles IsTruth Settings.default.failFast (values.get? .failFast) settings.failFast ∧
      Settles IsTruth Settings.default.entryPoints (values.get? .entryPoints)
        settings.entryPoints := by
  rw [← setting_eq_ok_iff fun _ _ => readName_eq_ok_iff,
    ← setting_eq_ok_iff fun _ _ => readModulePath_eq_ok_iff,
    ← setting_eq_ok_iff fun _ _ => readTruth_eq_ok_iff,
    ← setting_eq_ok_iff fun _ _ => readTruth_eq_ok_iff]
  unfold Table.validate
  dsimp only
  constructor
  · intro valid
    split at valid
    · rename_i name path failFast entryPoints named pathed fast entered
      obtain rfl := Except.ok.inj valid
      exact ⟨named, pathed, fast, entered⟩
    · cases valid
  · rintro ⟨named, pathed, fast, entered⟩
    rw [named, pathed, fast, entered]

def Table.faultUnder (values : Table) : Key → Option Fault
  | .runtimeAlias =>
    faultOf? (values.setting .runtimeAlias Settings.default.runtimeAlias Value.readName)
  | .runtimeModule =>
    faultOf? (values.setting .runtimeModule Settings.default.runtimeModule Value.readModulePath)
  | .failFast => faultOf? (values.setting .failFast Settings.default.failFast Value.readTruth)
  | .entryPoints =>
    faultOf? (values.setting .entryPoints Settings.default.entryPoints Value.readTruth)

theorem faultUnder_iff {key : Key} :
    (∃ fault, values.faultUnder key = some fault) ↔
      ∃ value, values.get? key = some value ∧ ¬ key.Accepts value := by
  cases key with
  | runtimeAlias => exact faultOf?_eq_some_iff fun _ _ => readName_eq_ok_iff
  | runtimeModule => exact faultOf?_eq_some_iff fun _ _ => readModulePath_eq_ok_iff
  | failFast => exact faultOf?_eq_some_iff fun _ _ => readTruth_eq_ok_iff
  | entryPoints => exact faultOf?_eq_some_iff fun _ _ => readTruth_eq_ok_iff

theorem key_of_faultUnder {key : Key} {fault : Fault}
    (found : values.faultUnder key = some fault) : fault.key = key := by
  cases key <;> exact key_of_faultOf? found

/-- The keys, in the order in which they are validated. -/
def allKeys : List Key := [.runtimeAlias, .runtimeModule, .failFast, .entryPoints]

theorem mem_allKeys (key : Key) : key ∈ allKeys := by
  cases key <;> decide

/-- What is wrong with a table is what is wrong under its keys, in their order. -/
theorem faults_of_validate {faults : List Fault} (invalid : values.validate = .error faults) :
    faults = allKeys.filterMap values.faultUnder := by
  unfold Table.validate at invalid
  dsimp only at invalid
  split at invalid
  · cases invalid
  · rw [← Except.error.inj invalid]
    rfl

/-- **The keys that are reported are those of invalid values.** -/
theorem mem_keys_of_faults_iff {faults : List Fault} (invalid : values.validate = .error faults)
    {key : Key} :
    key ∈ faults.map Fault.key ↔ ∃ value, values.get? key = some value ∧ ¬ key.Accepts value := by
  rw [← faultUnder_iff, faults_of_validate invalid]
  constructor
  · intro member
    obtain ⟨fault, reported, rfl⟩ := List.mem_map.1 member
    obtain ⟨other, -, found⟩ := List.mem_filterMap.1 reported
    rw [key_of_faultUnder found]
    exact ⟨fault, found⟩
  · rintro ⟨fault, found⟩
    exact List.mem_map.2 ⟨fault, List.mem_filterMap.2 ⟨key, mem_allKeys key, found⟩,
      key_of_faultUnder found⟩

/-- A table is valid exactly if the values under its keys are. -/
theorem exists_validate_iff (values : Table) :
    (∃ settings, values.validate = .ok settings) ↔
      ∀ key value, values.get? key = some value → key.Accepts value := by
  constructor
  · rintro ⟨settings, valid⟩ key value found
    obtain ⟨named, pathed, fast, entered⟩ := validate_eq_ok_iff.1 valid
    cases key with
    | runtimeAlias => exact named.stands found
    | runtimeModule => exact pathed.stands found
    | failFast => exact fast.stands found
    | entryPoints => exact entered.stands found
  · intro accepts
    obtain ⟨name, named⟩ := exists_settles Settings.default.runtimeAlias (accepts .runtimeAlias)
    obtain ⟨path, pathed⟩ := exists_settles Settings.default.runtimeModule (accepts .runtimeModule)
    obtain ⟨failFast, fast⟩ := exists_settles Settings.default.failFast (accepts .failFast)
    obtain ⟨entryPoints, entered⟩ :=
      exists_settles Settings.default.entryPoints (accepts .entryPoints)
    exact ⟨⟨name, path, failFast, entryPoints⟩,
      validate_eq_ok_iff.2 ⟨named, pathed, fast, entered⟩⟩

/-- A table is invalid exactly if the value under one of its keys is. -/
theorem exists_faults_iff :
    (∃ faults, values.validate = .error faults) ↔
      ∃ key value, values.get? key = some value ∧ ¬ key.Accepts value := by
  have valid := exists_validate_iff values
  cases outcome : values.validate with
  | ok settings =>
      have accepts := valid.1 ⟨settings, outcome⟩
      constructor
      · rintro ⟨faults, impossible⟩
        cases impossible
      · rintro ⟨key, value, found, refused⟩
        exact absurd (accepts key value found) refused
  | error faults =>
      refine ⟨fun _ => ?_, fun _ => ⟨faults, rfl⟩⟩
      by_contra every
      obtain ⟨settings, impossible⟩ := valid.2 fun key value found =>
        not_not.1 fun refused => every ⟨key, value, found, refused⟩
      rw [outcome] at impossible
      cases impossible

end

end ModuleGlue.Settings
