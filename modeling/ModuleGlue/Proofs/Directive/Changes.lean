import ModuleGlue.Proofs.Directive.OptionList

/-!
Contract: the single changes that are made to a record of options.

A record changes in three ways: a key is counted as given and its value is stored; a key is counted
as given and its value turns out to be wrong; the name is set from outside. Whatever is read, the
first two happen only to keys that are new. So a value that was stored is not stored again, and only
the name can change after that.

Main statements: `Options.readInto_course` (whatever becomes of reading a list, the record went
through changes that its tokens write), `Course.accounted`, `Course.agrees` and `Course.distinct`
(what changes keep, and that no key is given twice).

Owns: the changes, what a list of them keeps, and the changes that reading makes.

Does not own: who reads into a record, and in which order.
-/

namespace ModuleGlue.Directive

/-! ## Changes -/

inductive Change where
  /-- The key is counted as given, and its value is stored. -/
  | stored (setting : Setting)
  /-- The key is counted as given; its value was refused. -/
  | given (key : OptionKey)
  /-- The name is set, whether or not there is one. -/
  | renamed (name : Name)

namespace Change

/-- The key that is counted as given because it was read. -/
def key? : Change → Option OptionKey
  | .stored setting => some setting.key
  | .given key => some key
  | .renamed _ => none

def IsRenaming : Change → Prop
  | .renamed _ => True
  | _ => False

end Change

def Options.changed (options : Options) : Change → Options
  | .stored setting => options.store setting
  | .given key => options.mark key
  | .renamed name => options.setName name

/-- Changes that lead from one record to another. Each key that is read is new at that time. -/
inductive Course : Options → List Change → Options → Prop where
  | nil (options : Options) : Course options [] options
  | cons {options options' : Options} {change : Change} {changes : List Change}
      (new : ∀ key ∈ change.key?, key ∉ options.specified)
      (more : Course (options.changed change) changes options') :
      Course options (change :: changes) options'

/-- Every value in the record has its key counted as given, and no key is counted twice. -/
structure Options.Accounted (options : Options) : Prop where
  distinct : options.specified.Nodup
  name : options.name ≠ none → .name ∈ options.specified
  textSignature : options.textSignature ≠ none → .textSignature ∈ options.specified
  passModule : options.passModule = true → .passModule ∈ options.specified

def Options.AgreeOn (first second : Options) : OptionKey → Prop
  | .name => first.name = second.name
  | .textSignature => first.textSignature = second.textSignature
  | .passModule => first.passModule = second.passModule

theorem Options.AgreeOn.refl (options : Options) (key : OptionKey) :
    options.AgreeOn options key := by
  cases key <;> rfl

theorem Options.AgreeOn.trans {first second third : Options} {key : OptionKey}
    (front : first.AgreeOn second key) (behind : second.AgreeOn third key) :
    first.AgreeOn third key := by
  cases key <;> exact Eq.trans front behind

/-! ## What a change keeps -/

section
variable {options : Options} {change : Change} {key : OptionKey}

theorem Options.empty_accounted : Options.empty.Accounted := by
  constructor <;> simp [Options.empty]

/-- Keys stay counted, in their order. -/
theorem Options.specified_prefix_changed (options : Options) (change : Change) :
    options.specified <+: (options.changed change).specified := by
  have marked (key : OptionKey) : options.specified <+: (options.mark key).specified := by
    unfold Options.mark
    split
    · exact List.prefix_refl _
    · exact List.prefix_append _ _
  cases change with
  | stored setting => cases setting <;> exact marked _
  | given key => exact marked key
  | renamed name => exact marked .name

theorem Options.mem_specified_mark (options : Options) (key : OptionKey) :
    key ∈ (options.mark key).specified := by
  unfold Options.mark
  split
  · rename_i already
    exact List.contains_iff_mem.1 already
  · simp

theorem Options.Accounted.mark (accounted : options.Accounted) (key : OptionKey) :
    (options.mark key).Accounted := by
  have kept := (options.specified_prefix_changed (.given key)).subset
  have same : (options.mark key).name = options.name ∧
      (options.mark key).textSignature = options.textSignature ∧
      (options.mark key).passModule = options.passModule := by
    unfold Options.mark
    split <;> exact ⟨rfl, rfl, rfl⟩
  refine ⟨?_, ?_, ?_, ?_⟩
  · unfold Options.mark
    split
    · exact accounted.distinct
    · rename_i new
      refine List.nodup_append.2 ⟨accounted.distinct, by simp, ?_⟩
      intro other member
      simp only [List.mem_singleton]
      rintro _ rfl rfl
      exact new (List.contains_iff_mem.2 member)
  · rw [same.1]
    exact fun present => kept (accounted.name present)
  · rw [same.2.1]
    exact fun present => kept (accounted.textSignature present)
  · rw [same.2.2]
    exact fun present => kept (accounted.passModule present)

/-- What is stored is counted first. -/
theorem Options.Accounted.changed (accounted : options.Accounted) (change : Change) :
    (options.changed change).Accounted := by
  have counted := options.mem_specified_mark
  cases change with
  | given key => exact accounted.mark key
  | renamed name => exact { accounted.mark .name with name := fun _ => counted .name }
  | stored setting =>
      cases setting with
      | name value => exact { accounted.mark .name with name := fun _ => counted .name }
      | textSignature value =>
          exact { accounted.mark .textSignature with
            textSignature := fun _ => counted .textSignature }
      | passModule value =>
          exact { accounted.mark .passModule with passModule := fun _ => counted .passModule }

/-- The value of a key stays if another key is read, and if the name is set. -/
theorem Options.agreeOn_changed (new : ∀ other ∈ change.key?, other ≠ key)
    (kept : key = .name → ¬ change.IsRenaming) : options.AgreeOn (options.changed change) key := by
  have marked (other : OptionKey) : options.AgreeOn (options.mark other) key := by
    unfold Options.mark
    split
    · exact .refl options key
    · cases key <;> rfl
  cases change with
  | given other => exact marked other
  | renamed name =>
      cases key with
      | name => exact absurd trivial (kept rfl)
      | textSignature | passModule => exact marked .name
  | stored setting =>
      have different : setting.key ≠ key := new setting.key rfl
      apply (marked setting.key).trans
      cases setting <;> cases key <;> first | rfl | exact absurd rfl different

end

/-! ## What a course of changes keeps -/

namespace Course

variable {options middle options' : Options} {changes others : List Change} {key : OptionKey}

theorem append (first : Course options changes middle) (second : Course middle others options') :
    Course options (changes ++ others) options' := by
  induction first with
  | nil => exact second
  | cons new _ inductionHypothesis => exact .cons new (inductionHypothesis second)

theorem eq_foldl (course : Course options changes options') :
    options' = changes.foldl Options.changed options := by
  induction course with
  | nil => rfl
  | cons _ _ inductionHypothesis => exact inductionHypothesis

theorem specified_prefix (course : Course options changes options') :
    options.specified <+: options'.specified := by
  induction course with
  | nil => exact List.prefix_refl _
  | cons _ _ inductionHypothesis =>
      exact (Options.specified_prefix_changed _ _).trans inductionHypothesis

theorem accounted (course : Course options changes options') (accounted : options.Accounted) :
    options'.Accounted := by
  induction course with
  | nil => exact accounted
  | cons _ _ inductionHypothesis => exact inductionHypothesis (accounted.changed _)

/-- The value of a key that is counted as given stays, as long as no name is set from outside. -/
theorem agrees (course : Course options changes options') (counted : key ∈ options.specified)
    (kept : key = .name → ∀ change ∈ changes, ¬ change.IsRenaming) :
    options.AgreeOn options' key := by
  induction course with
  | nil => exact .refl _ key
  | @cons options options' change changes new _ inductionHypothesis =>
      have here : options.AgreeOn (options.changed change) key := by
        apply Options.agreeOn_changed
        · rintro other member rfl
          exact new other member counted
        · intro isName
          exact kept isName change (List.mem_cons_self ..)
      apply here.trans
      apply inductionHypothesis ((Options.specified_prefix_changed _ _).subset counted)
      intro isName other member
      exact kept isName other (List.mem_cons_of_mem _ member)

/-- No key is read twice, and none that was counted before. -/
theorem distinct (course : Course options changes options') (accounted : options.Accounted) :
    (options.specified ++ changes.filterMap Change.key?).Nodup := by
  induction course with
  | nil =>
      rw [List.filterMap_nil, List.append_nil]
      exact accounted.distinct
  | @cons options options' change changes new _ inductionHypothesis =>
      have rest := inductionHypothesis (accounted.changed change)
      cases change with
      | stored setting =>
          rw [Options.changed, Options.specified_store (new setting.key rfl),
            List.append_assoc] at rest
          exact rest
      | given key =>
          rw [Options.changed, Options.mark_of_fresh (new key rfl), List.append_assoc] at rest
          exact rest
      | renamed name =>
          have kept := (Options.specified_prefix_changed options (.renamed name)).sublist
          exact rest.sublist (kept.append_right _)

end Course

/-! ## Changes that are read -/

/-- The changes that reading some tokens makes. The options that are written there, up to where it
stops, are stored; the key behind them may be counted as given without a value. -/
inductive ReadChanges : List Token → List Change → Prop where
  | stored {before : List Token} {settings : List Setting} (rest : List Token)
      (written : WritesOptions settings before) :
      ReadChanges (before ++ rest) (settings.map .stored)
  | unvalued {before : List Token} {settings : List Setting} {key : Token} {known : OptionKey}
      (rest : List Token) (written : WritesOptions settings before)
      (word : key.IsWord known.word) :
      ReadChanges (before ++ key :: rest) (settings.map .stored ++ [.given known])

theorem ReadChanges.nil (tokens : List Token) : ReadChanges tokens [] :=
  .stored tokens (Or.inl ⟨rfl, rfl⟩)

/-- Nothing that is read sets the name from outside. -/
theorem ReadChanges.not_isRenaming {tokens : List Token} {changes : List Change}
    (read : ReadChanges tokens changes) : ∀ change ∈ changes, ¬ change.IsRenaming := by
  intro change member renames
  cases read with
  | stored rest written =>
      obtain ⟨setting, -, rfl⟩ := List.mem_map.1 member
      exact renames
  | unvalued rest written word =>
      rcases List.mem_append.1 member with stored | given
      · obtain ⟨setting, -, rfl⟩ := List.mem_map.1 stored
        exact renames
      · rw [List.mem_singleton.1 given] at renames
        exact renames

/-- An option in front of what is read, and the comma between them. -/
theorem ReadChanges.behindOption {setting : Setting} {tokens others : List Token} {comma : Token}
    {changes : List Change} (option : OptionTokens setting tokens) (isComma : comma.kind = .comma)
    (more : ReadChanges others changes) :
    ReadChanges (tokens ++ comma :: others) (.stored setting :: changes) := by
  have joined {before : List Token} {settings : List Setting}
      (written : WritesOptions settings before) :
      WritesOptions (setting :: settings) (tokens ++ comma :: before) :=
    Or.inr (optionsTokens_iff.2 ⟨setting, settings, tokens, _, rfl, rfl, option,
      Or.inr ⟨comma, before, rfl, isComma, written⟩⟩)
  cases more with
  | stored rest written =>
      have whole := ReadChanges.stored rest (joined written)
      rw [List.append_assoc, List.cons_append] at whole
      exact whole
  | unvalued rest written word =>
      have whole := ReadChanges.unvalued rest (joined written) word
      rw [List.append_assoc, List.cons_append] at whole
      exact whole

section
variable {options options' : Options} {cursor next : Cursor} {reason : Diagnostic}

/-- An option that is refused leaves a record as it was, or with its key counted as given. -/
theorem Options.readOption_course (failed : options.readOption cursor = (options', .error reason)) :
    ∃ changes, ReadChanges cursor.remaining changes ∧ Course options changes options' := by
  unfold Options.readOption at failed
  split at failed
  · obtain ⟨rfl, -⟩ := Prod.mk.inj failed
    exact ⟨[], .nil _, .nil _⟩
  · rename_i token afterKey taken
    obtain ⟨moved, isWord⟩ := Cursor.take_eq_ok_iff.1 taken
    split at failed
    · obtain ⟨rfl, -⟩ := Prod.mk.inj failed
      exact ⟨[], .nil _, .nil _⟩
    · rename_i known named
      split at failed
      · obtain ⟨rfl, -⟩ := Prod.mk.inj failed
        exact ⟨[], .nil _, .nil _⟩
      · rename_i new
        split at failed
        · obtain ⟨rfl, -⟩ := Prod.mk.inj failed
          have word : token.IsWord known.word :=
            ⟨Cursor.requires_iff.1 isWord, OptionKey.ofWord?_eq_some_iff.1 named⟩
          refine ⟨[.given known], ?_, .cons ?_ (.nil _)⟩
          · rw [moved.remaining]
            exact .unvalued afterKey.remaining (Or.inl ⟨rfl, rfl⟩) word
          · intro key same
            obtain rfl := Option.some.inj same
            simpa using new
        · cases (Prod.mk.inj failed).2

/-- **Whatever becomes of reading a list, the record goes through changes that its tokens write**,
each of them to a key that is new. -/
theorem Options.readInto_course (options : Options) (cursor : Cursor) :
    ∃ changes, ReadChanges cursor.remaining changes ∧
      Course options changes (options.readInto cursor).1 := by
  -- Every round that succeeds stores one option, and the rest is read into the record that has it.
  induction measured : cursor.remaining.length using Nat.strongRecOn
    generalizing options cursor with
  | ind size inductionHypothesis =>
      rw [Options.readInto]
      split
      · exact ⟨[], .nil _, .nil _⟩
      · split
        · rename_i unread
          exact Options.readOption_course unread
        · rename_i middle after read
          obtain ⟨setting, tokens, moved, option, new, rfl, -⟩ :=
            Options.readOption_eq_ok_iff.1 read
          have stored : Course options [.stored setting] (options.store setting) :=
            .cons (fun key same => Option.some.inj same ▸ new) (.nil _)
          have alone : ReadChanges cursor.remaining [.stored setting] := by
            rw [moved.remaining]
            exact .stored _ (Or.inr (.last option))
          split
          · exact ⟨_, alone, stored⟩
          · split
            · exact ⟨_, alone, stored⟩
            · rename_i comma rest taken
              obtain ⟨movedComma, isComma⟩ := Cursor.take_eq_ok_iff.1 taken
              have shorter : rest.remaining.length < size := by
                have fewer := Options.readOption_remaining_lt read
                rw [movedComma.remaining, List.length_append, measured] at fewer
                omega
              obtain ⟨changes, written, course⟩ :=
                inductionHypothesis _ shorter (options.store setting) rest rfl
              refine ⟨.stored setting :: changes, ?_, stored.append course⟩
              rw [moved.remaining, movedComma.remaining]
              exact written.behindOption option (Cursor.requires_iff.1 isComma)

end

end ModuleGlue.Directive
