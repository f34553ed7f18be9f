import ModuleGlue.Proofs.Directive.Reading

/-!
Contract: option lists are read exactly where the grammar has them.

The readers store settings one after another; the grammar says which settings a list writes. The two
meet in `Options.extend`, the record in which every value written is looked up by its key.

Main statement: `Options.readInto_eq_ok_iff` (a list is read into a record exactly if it is one of
the grammar and its keys are new to the record).

Owns: storing, the once-only rule as a condition on settings, and the loop over a list.

Does not own: the statement for a single option, and the grammar.
-/

namespace ModuleGlue.Directive

open ModuleGlue.Text

/-! ## Storing settings one by one -/

theorem Options.mark_of_fresh {options : Options} {key : OptionKey}
    (fresh : key ∉ options.specified) :
    options.mark key = { options with specified := options.specified ++ [key] } := by
  unfold Options.mark
  rw [if_neg (by simpa using fresh)]

theorem Options.specified_store {options : Options} {setting : Setting}
    (fresh : setting.key ∉ options.specified) :
    (options.store setting).specified = options.specified ++ [setting.key] := by
  unfold Options.store
  rw [Options.mark_of_fresh fresh]
  cases setting <;> rfl

/-- A value is not found among settings that are all written with other keys. -/
theorem findSome?_eq_none_of_absent {α : Type} {read : Setting → Option α} {key : OptionKey}
    {settings : List Setting} (only : ∀ setting, setting.key ≠ key → read setting = none)
    (absent : key ∉ settings.map Setting.key) : settings.findSome? read = none := by
  rw [List.findSome?_eq_none_iff]
  intro setting member
  apply only
  intro same
  exact absent (List.mem_map.2 ⟨setting, member, same⟩)

/-- Adding settings to a record that has another setting stored is adding both. -/
theorem Options.extend_store {options : Options} {setting : Setting} {rest : List Setting}
    (fresh : setting.key ∉ options.specified) (absent : setting.key ∉ rest.map Setting.key) :
    (options.store setting).extend rest = options.extend (setting :: rest) := by
  unfold Options.store
  rw [Options.mark_of_fresh fresh]
  cases setting with
  | name value =>
      have unwritten : rest.findSome? Setting.name? = none :=
        findSome?_eq_none_of_absent (by rintro (_ | _ | _) different <;> trivial) absent
      simp [Options.extend, Options.apply, List.findSome?_cons, unwritten, Setting.name?,
        Setting.textSignature?, Setting.passModule?]
  | textSignature value =>
      have unwritten : rest.findSome? Setting.textSignature? = none :=
        findSome?_eq_none_of_absent (by rintro (_ | _ | _) different <;> trivial) absent
      simp [Options.extend, Options.apply, List.findSome?_cons, unwritten, Setting.name?,
        Setting.textSignature?, Setting.passModule?]
  | passModule value =>
      have unwritten : rest.findSome? Setting.passModule? = none :=
        findSome?_eq_none_of_absent (by rintro (_ | _ | _) different <;> trivial) absent
      simp [Options.extend, Options.apply, List.findSome?_cons, unwritten, Setting.name?,
        Setting.textSignature?, Setting.passModule?]

/-! ## Option lists -/

/-- The settings can be added to the record: no key of theirs is in it, and none is there twice. -/
structure Options.Admits (options : Options) (settings : List Setting) : Prop where
  fresh : ∀ setting ∈ settings, setting.key ∉ options.specified
  distinct : (settings.map Setting.key).Nodup

theorem Options.Admits.nil {options : Options} : options.Admits [] :=
  ⟨by simp, List.nodup_nil⟩

/-- Settings are admitted if the first is, and the others are once it is stored. -/
theorem Options.admits_cons_iff {options : Options} {setting : Setting} {rest : List Setting} :
    options.Admits (setting :: rest) ↔
      setting.key ∉ options.specified ∧ (options.store setting).Admits rest := by
  constructor
  · rintro ⟨fresh, distinct⟩
    have here := fresh setting (List.mem_cons_self ..)
    rw [List.map_cons, List.nodup_cons] at distinct
    refine ⟨here, ?_, distinct.2⟩
    intro other member
    rw [Options.specified_store here, List.mem_append, List.mem_singleton]
    rintro (earlier | same)
    · exact fresh other (List.mem_cons_of_mem _ member) earlier
    · exact distinct.1 (List.mem_map.2 ⟨other, member, same⟩)
  · rintro ⟨here, fresh, distinct⟩
    rw [Options.specified_store here] at fresh
    refine ⟨?_, ?_⟩
    · intro other member
      rcases List.mem_cons.1 member with rfl | later
      · exact here
      · exact fun earlier => fresh other later (List.mem_append_left _ earlier)
    · rw [List.map_cons, List.nodup_cons]
      refine ⟨?_, distinct⟩
      intro again
      obtain ⟨other, member, same⟩ := List.mem_map.1 again
      exact fresh other member (by simp [same])

/-- Settings that are admitted can be stored one after another; then all of them are there. -/
theorem Options.foldl_store {options : Options} {settings : List Setting}
    (admitted : options.Admits settings) :
    settings.foldl Options.store options = options.extend settings := by
  induction settings generalizing options with
  | nil => simp [Options.extend]
  | cons setting rest inductionHypothesis =>
      have absent : setting.key ∉ rest.map Setting.key := by
        have distinct := admitted.distinct
        rw [List.map_cons, List.nodup_cons] at distinct
        exact distinct.1
      obtain ⟨fresh, later⟩ := Options.admits_cons_iff.1 admitted
      rw [List.foldl_cons, inductionHypothesis later, Options.extend_store fresh absent]

/-- Settings are admitted if some first ones are, and the others are once these are added. -/
theorem Options.admits_append_iff {options : Options} {settings others : List Setting} :
    options.Admits (settings ++ others) ↔
      options.Admits settings ∧ (options.extend settings).Admits others := by
  induction settings generalizing options with
  | nil => simp [Options.extend, Options.Admits.nil]
  | cons setting rest inductionHypothesis =>
      rw [List.cons_append, Options.admits_cons_iff, inductionHypothesis, Options.admits_cons_iff,
        and_assoc]
      refine and_congr_right fun fresh => and_congr_right fun admitted => ?_
      have admittedAll := Options.admits_cons_iff.2 ⟨fresh, admitted⟩
      rw [← Options.foldl_store admittedAll, List.foldl_cons, Options.foldl_store admitted]

/-- Adding settings in two portions is adding all of them. -/
theorem Options.extend_append {options : Options} {settings others : List Setting}
    (admitted : options.Admits (settings ++ others)) :
    (options.extend settings).extend others = options.extend (settings ++ others) := by
  obtain ⟨first, later⟩ := Options.admits_append_iff.1 admitted
  rw [← Options.foldl_store admitted, List.foldl_append, Options.foldl_store first,
    Options.foldl_store later]

theorem Options.admits_empty_iff {settings : List Setting} :
    Options.empty.Admits settings ↔ (settings.map Setting.key).Nodup := by
  constructor
  · exact Options.Admits.distinct
  · intro distinct
    exact ⟨fun setting _ => List.not_mem_nil, distinct⟩

/-- The tokens write no options, or a list of them. -/
def WritesOptions (settings : List Setting) (tokens : List Token) : Prop :=
  (settings = [] ∧ tokens = []) ∨ OptionsTokens settings tokens

/-- The tokens may stand behind an option: nothing, or a comma and options. -/
def WritesBehind (settings : List Setting) (tokens : List Token) : Prop :=
  (settings = [] ∧ tokens = []) ∨
    ∃ comma rest, tokens = comma :: rest ∧ comma.kind = .comma ∧ WritesOptions settings rest

/-- A list of options is its first one, and what is behind it. -/
theorem optionsTokens_iff {settings : List Setting} {tokens : List Token} :
    OptionsTokens settings tokens ↔
      ∃ setting rest option others, settings = setting :: rest ∧ tokens = option ++ others ∧
        OptionTokens setting option ∧ WritesBehind rest others := by
  constructor
  · intro written
    cases written with
    | last option =>
        exact ⟨_, [], _, [], rfl, (List.append_nil _).symm, option, Or.inl ⟨rfl, rfl⟩⟩
    | trailing option isComma =>
        exact ⟨_, [], _, [_], rfl, rfl, option, Or.inr ⟨_, [], rfl, isComma, Or.inl ⟨rfl, rfl⟩⟩⟩
    | more option isComma written =>
        exact ⟨_, _, _, _, rfl, rfl, option, Or.inr ⟨_, _, rfl, isComma, Or.inr written⟩⟩
  · rintro ⟨setting, rest, tokens, others, rfl, rfl, option, ⟨rfl, rfl⟩ |
      ⟨mark, more, rfl, isComma, ⟨rfl, rfl⟩ | written⟩⟩
    · rw [List.append_nil]
      exact .last option
    · exact .trailing option isComma
    · exact .more option isComma written

theorem WritesBehind.head? {settings : List Setting} {tokens : List Token}
    (written : WritesBehind settings tokens) : ∀ token ∈ tokens.head?, token.kind = .comma := by
  rcases written with ⟨-, rfl⟩ | ⟨comma, rest, rfl, isComma, -⟩
  · exact fun token member => nomatch member
  · intro token member
    exact Option.some.inj member ▸ isComma

/-- A list of options begins with a key. -/
theorem OptionsTokens.exists_cons {settings : List Setting} {tokens : List Token}
    (written : OptionsTokens settings tokens) :
    ∃ key rest, tokens = key :: rest ∧ key.kind = .ident := by
  cases written with
  | last option | trailing option | more option =>
      cases option with
      | mk word follows => exact ⟨_, _, rfl, word.1⟩

/-- One round of the loop: nothing is pending, or an option is read and is the last one, or a comma
follows it and the others are read into what there is by then. -/
theorem Options.readInto_eq_ok_iff_round {options options' : Options} {cursor next : Cursor} :
    options.readInto cursor = (options', .ok next) ↔
      (cursor.remaining = [] ∧ options' = options ∧ next = cursor) ∨
      ∃ middle after, options.readOption cursor = (middle, .ok after) ∧
        ((after.remaining = [] ∧ options' = middle ∧ next = after) ∨
          ∃ comma rest, after.take (some .comma) "`,`" = .ok (comma, rest) ∧
            middle.readInto rest = (options', .ok next)) := by
  constructor
  · intro found
    rw [Options.readInto] at found
    split at found
    · rename_i empty
      obtain ⟨rfl, same⟩ := Prod.mk.inj found
      exact Or.inl ⟨Cursor.isEmpty_iff.1 empty, rfl, (Except.ok.inj same).symm⟩
    · refine Or.inr ?_
      split at found
      · cases (Prod.mk.inj found).2
      · rename_i middle after read
        refine ⟨middle, after, read, ?_⟩
        split at found
        · rename_i empty
          obtain ⟨rfl, same⟩ := Prod.mk.inj found
          exact Or.inl ⟨Cursor.isEmpty_iff.1 empty, rfl, (Except.ok.inj same).symm⟩
        · split at found
          · cases (Prod.mk.inj found).2
          · rename_i comma rest taken
            exact Or.inr ⟨comma, rest, taken, found⟩
  · rintro (⟨empty, rfl, rfl⟩ | ⟨middle, after, read, outcome⟩)
    · rw [Options.readInto, if_pos (Cursor.isEmpty_iff.2 empty)]
    · have shorter := Options.readOption_remaining_lt read
      have pending : ¬ cursor.isEmpty = true := by
        intro empty
        rw [Cursor.isEmpty_iff.1 empty] at shorter
        exact Nat.not_lt_zero _ shorter
      rw [Options.readInto, if_neg pending]
      split
      · rename_i failed
        rw [read] at failed
        cases (Prod.mk.inj failed).2
      · rename_i middle' after' again
        rw [read] at again
        obtain ⟨rfl, same⟩ := Prod.mk.inj again
        obtain rfl := Except.ok.inj same
        rcases outcome with ⟨empty, rfl, rfl⟩ | ⟨comma, rest, taken, found⟩
        · rw [if_pos (Cursor.isEmpty_iff.2 empty)]
        · have more : ¬ after.isEmpty = true := by
            rw [Cursor.isEmpty_iff, Cursor.take_remaining taken]
            exact List.cons_ne_nil _ _
          rw [if_neg more]
          split
          · rename_i failed
            rw [taken] at failed
            cases failed
          · rename_i comma' rest' again
            rw [taken] at again
            obtain ⟨rfl, rfl⟩ := Prod.mk.inj (Except.ok.inj again)
            exact found

@[simp] theorem Options.extend_nil (options : Options) : options.extend [] = options := by
  simp [Options.extend]

/-- What is read into a record is a list of options that it admits. -/
theorem Options.readInto_sound {options options' : Options} {cursor next : Cursor}
    (found : options.readInto cursor = (options', .ok next)) :
    cursor.Passes cursor.remaining next ∧ ∃ settings,
      WritesOptions settings cursor.remaining ∧ options.Admits settings ∧
        options' = options.extend settings := by
  -- The induction is on the pending tokens, of which every round takes at least two or the last.
  induction measured : cursor.remaining.length using Nat.strongRecOn
    generalizing options cursor with
  | ind size inductionHypothesis =>
      rcases Options.readInto_eq_ok_iff_round.1 found with
        ⟨empty, rfl, rfl⟩ | ⟨middle, after, read, outcome⟩
      · rw [empty]
        exact ⟨Cursor.passes_nil, [], Or.inl ⟨rfl, rfl⟩, .nil, (Options.extend_nil _).symm⟩
      · obtain ⟨setting, tokens, moved, option, fresh, rfl, -⟩ :=
          Options.readOption_eq_ok_iff.1 read
        rcases outcome with ⟨empty, rfl, rfl⟩ | ⟨comma, rest, taken, found'⟩
        · have whole : cursor.remaining = tokens := by
            rw [moved.remaining, empty, List.append_nil]
          have admitted : options.Admits [setting] := Options.admits_cons_iff.2 ⟨fresh, .nil⟩
          rw [whole]
          exact ⟨moved, [setting], Or.inr (.last option), admitted,
            (Options.foldl_store admitted).symm ▸ rfl⟩
        · obtain ⟨movedComma, separator⟩ := Cursor.take_eq_ok_iff.1 taken
          have isComma := Cursor.requires_iff.1 separator
          have whole : cursor.remaining = tokens ++ comma :: rest.remaining := by
            rw [moved.remaining, movedComma.remaining, List.singleton_append]
          have shorter : rest.remaining.length < size := by
            rw [← measured, whole, List.length_append, List.length_cons]
            omega
          obtain ⟨movedRest, settings, written, admitted, rfl⟩ :=
            inductionHypothesis _ shorter found' rfl
          have admittedAll := Options.admits_cons_iff.2 ⟨fresh, admitted⟩
          rw [whole]
          refine ⟨moved.append (movedComma.append movedRest), setting :: settings, Or.inr ?_,
            admittedAll, ?_⟩
          · rcases written with ⟨rfl, empty⟩ | written
            · rw [empty]
              exact .trailing option isComma
            · exact .more option isComma written
          · rw [← Options.foldl_store admittedAll, List.foldl_cons, Options.foldl_store admitted]

/-- Where the grammar has an option and no value can follow it, one option is read. -/
theorem Options.readOption_complete {options : Options} {cursor : Cursor} {setting : Setting}
    {tokens rest : List Token} (pending : cursor.remaining = tokens ++ rest)
    (option : OptionTokens setting tokens) (fresh : setting.key ∉ options.specified)
    (maximal : ∀ token ∈ rest.head?, token.kind ≠ .equals) :
    ∃ next, cursor.Passes tokens next ∧ next.remaining = rest ∧
      options.readOption cursor = (options.store setting, .ok next) := by
  obtain ⟨next, moved, left⟩ := Cursor.exists_passes tokens rest pending
  refine ⟨next, moved, left, Options.readOption_eq_ok_iff.2
    ⟨setting, tokens, moved, option, fresh, rfl, fun _ => ?_⟩⟩
  exact Cursor.startsWith_eq_false_iff.2 (left ▸ maximal)

/-- Every list of options that a record admits is read into it, up to its end. -/
theorem Options.readInto_complete {options : Options} {cursor : Cursor} {settings : List Setting}
    (written : WritesOptions settings cursor.remaining) (admitted : options.Admits settings) :
    ∃ next, cursor.Passes cursor.remaining next ∧
      options.readInto cursor = (options.extend settings, .ok next) := by
  rcases written with ⟨rfl, empty⟩ | written
  · rw [empty, Options.extend_nil]
    exact ⟨cursor, Cursor.passes_nil,
      Options.readInto_eq_ok_iff_round.2 (Or.inl ⟨empty, rfl, rfl⟩)⟩
  · rw [← Options.foldl_store admitted]
    generalize whole : cursor.remaining = tokens at written
    induction written generalizing options cursor with
    | @last setting tokens option =>
        obtain ⟨fresh, -⟩ := Options.admits_cons_iff.1 admitted
        obtain ⟨next, moved, left, read⟩ := Options.readOption_complete
          (whole.trans (List.append_nil _).symm) option fresh (by simp)
        exact ⟨next, moved,
          Options.readInto_eq_ok_iff_round.2 (Or.inr ⟨_, next, read, Or.inl ⟨left, rfl, rfl⟩⟩)⟩
    | @trailing setting tokens comma option separator =>
        obtain ⟨fresh, -⟩ := Options.admits_cons_iff.1 admitted
        obtain ⟨after, moved, left, read⟩ := Options.readOption_complete whole option fresh
          (by simp [separator])
        obtain ⟨next, movedComma, empty⟩ := Cursor.exists_passes [comma] [] left
        refine ⟨next, moved.append movedComma,
          Options.readInto_eq_ok_iff_round.2
            (Or.inr ⟨_, after, read, Or.inr ⟨comma, next, ?_, ?_⟩⟩)⟩
        · exact Cursor.take_eq_ok_iff.2 ⟨movedComma, Cursor.requires_iff.2 separator⟩
        · exact Options.readInto_eq_ok_iff_round.2 (Or.inl ⟨empty, rfl, rfl⟩)
    | @more setting tokens comma settings others option separator rest inductionHypothesis =>
        obtain ⟨fresh, later⟩ := Options.admits_cons_iff.1 admitted
        obtain ⟨after, moved, left, read⟩ := Options.readOption_complete whole option fresh
          (by simp [separator])
        obtain ⟨between, movedComma, left'⟩ :=
          Cursor.exists_passes [comma] others left
        obtain ⟨next, movedRest, found⟩ := inductionHypothesis later left'
        refine ⟨next, moved.append (movedComma.append movedRest),
          Options.readInto_eq_ok_iff_round.2
            (Or.inr ⟨_, after, read, Or.inr ⟨comma, between, ?_, ?_⟩⟩)⟩
        · exact Cursor.take_eq_ok_iff.2 ⟨movedComma, Cursor.requires_iff.2 separator⟩
        · exact found

/-- **Option lists are read exactly where the grammar has them.** All pending tokens are taken, and
the record gets the settings that they write, none of which it had. -/
theorem Options.readInto_eq_ok_iff {options options' : Options} {cursor next : Cursor} :
    options.readInto cursor = (options', .ok next) ↔
      cursor.Passes cursor.remaining next ∧ ∃ settings,
        WritesOptions settings cursor.remaining ∧ options.Admits settings ∧
          options' = options.extend settings := by
  constructor
  · exact Options.readInto_sound
  · rintro ⟨moved, settings, written, admitted, rfl⟩
    obtain ⟨next', moved', found⟩ := Options.readInto_complete written admitted
    rw [found, Cursor.Passes.unique moved moved']

end ModuleGlue.Directive
