import ModuleGlue.Directive.Cursor

/-!
Contract: the keyword options of an exported function.

    options := [option ("," option)* [","]]
    option  := "name" "=" (IDENT | STRING)
             | "text_signature" "=" (STRING | "None")
             | "pass_module" ["=" ("True" | "False")]

Each option is given at most once in a record, however many lists are read into it. A list that
fails leaves in the record what was read before the failure; the key whose value failed counts as
given.

Owns: the record, the grammar, and the once-only rule.

Does not own: which decorators carry options.
-/

namespace ModuleGlue.Directive

open ModuleGlue.Text

inductive OptionKey where
  | name
  | textSignature
  | passModule
deriving DecidableEq, Repr

def OptionKey.word : OptionKey → String
  | .name => "name"
  | .textSignature => "text_signature"
  | .passModule => "pass_module"

def OptionKey.ofWord? (word : String) : Option OptionKey :=
  if word = "name" then some .name
  else if word = "text_signature" then some .textSignature
  else if word = "pass_module" then some .passModule
  else none

/-- An explicit text signature; without a value the function is to have none. -/
structure TextSignature where
  value : Option Points
  span : Option Span
deriving DecidableEq, Repr

/-- The export configuration of one function. -/
structure Options where
  name : Option Name
  textSignature : Option TextSignature
  passModule : Bool
  deprecations : List Deprecation
  /-- The keys that were given, each once. -/
  specified : List OptionKey
deriving DecidableEq, Repr

inductive Setting where
  | name (value : Name)
  | textSignature (value : TextSignature)
  | passModule (value : Bool)
deriving DecidableEq, Repr

namespace Options

def empty : Options := ⟨none, none, false, [], []⟩

def mark (options : Options) (key : OptionKey) : Options :=
  if options.specified.contains key then options
  else { options with specified := options.specified ++ [key] }

def apply (options : Options) : Setting → Options
  | .name value => { options with name := some value }
  | .textSignature value => { options with textSignature := some value }
  | .passModule value => { options with passModule := value }

/-- Sets the name whether or not one was given, and counts it as given. The legacy positional name
comes in this way and so wins over a keyword. -/
def setName (options : Options) (name : Name) : Options :=
  { options.mark .name with name := some name }

/-- The name in effect, if the function's own is overridden. -/
def externalName (options : Options) : Option String := options.name.map Name.value

end Options

/-! ## Grammar -/

def TextSignature.ofToken (token : Token) : Except Diagnostic TextSignature :=
  if token.kind = .ident ∧ token.text = "None" then .ok ⟨none, token.span⟩
  else if token.kind = .string then do
    let value ← token.stringValue
    .ok ⟨some value, token.span⟩
  else .error (.grammar (.expected "string literal or `None`" token.text) token.span)

def readTruth (token : Token) : Except Diagnostic Bool :=
  if token.text = "True" then .ok true
  else if token.text = "False" then .ok false
  else .error (.grammar (.expected "`True` or `False`" token.text) token.span)

/-- Reads what follows a key: an equals sign and a value, which one key may leave out. -/
def readSetting (key : OptionKey) (cursor : Cursor) : Except Diagnostic (Setting × Cursor) :=
  match key with
  | .passModule =>
    if cursor.startsWith .equals then do
      let (_, afterEquals) ← cursor.take none ""
      let (token, next) ← afterEquals.take (some .ident) "`True` or `False`"
      let value ← readTruth token
      .ok (.passModule value, next)
    else .ok (.passModule true, cursor)
  | .name => do
    let (_, afterEquals) ← cursor.take (some .equals) "`=`"
    let (token, next) ← afterEquals.take none "identifier"
    let value ← Name.ofToken token
    .ok (.name value, next)
  | .textSignature => do
    let (_, afterEquals) ← cursor.take (some .equals) "`=`"
    let (token, next) ← afterEquals.take none "string literal or `None`"
    let value ← TextSignature.ofToken token
    .ok (.textSignature value, next)

theorem readSetting_remaining_le {key : OptionKey} {cursor next : Cursor} {setting : Setting}
    (found : readSetting key cursor = .ok (setting, next)) :
    next.remaining.length ≤ cursor.remaining.length := by
  have step : ∀ {before after : Cursor} {kind : Option Kind} {expected : String} {token : Token},
      before.take kind expected = .ok (token, after) →
        after.remaining.length < before.remaining.length := by
    intro before after kind expected token taken
    simp [Cursor.take_remaining taken]
  unfold readSetting at found
  split at found
  · split at found
    · cases first : cursor.take none "" with
      | error => simp [first, bind, Except.bind] at found
      | ok pair =>
        cases second : pair.2.take (some .ident) "`True` or `False`" with
        | error => simp [first, second, bind, Except.bind] at found
        | ok pair' =>
          cases third : readTruth pair'.1 with
          | error => simp [first, second, third, bind, Except.bind] at found
          | ok value =>
            simp only [first, second, third, bind, Except.bind, Except.ok.injEq,
              Prod.mk.injEq] at found
            have less := step first
            have less' := step second
            rw [← found.2]
            omega
    · simp only [Except.ok.injEq, Prod.mk.injEq] at found
      exact Nat.le_of_eq (by simp only [found.2])
  · cases first : cursor.take (some .equals) "`=`" with
    | error => simp [first, bind, Except.bind] at found
    | ok pair =>
      cases second : pair.2.take none "identifier" with
      | error => simp [first, second, bind, Except.bind] at found
      | ok pair' =>
        cases third : Name.ofToken pair'.1 with
        | error => simp [first, second, third, bind, Except.bind] at found
        | ok value =>
          simp only [first, second, third, bind, Except.bind, Except.ok.injEq,
            Prod.mk.injEq] at found
          have less := step first
          have less' := step second
          rw [← found.2]
          omega
  · cases first : cursor.take (some .equals) "`=`" with
    | error => simp [first, bind, Except.bind] at found
    | ok pair =>
      cases second : pair.2.take none "string literal or `None`" with
      | error => simp [first, second, bind, Except.bind] at found
      | ok pair' =>
        cases third : TextSignature.ofToken pair'.1 with
        | error => simp [first, second, third, bind, Except.bind] at found
        | ok value =>
          simp only [first, second, third, bind, Except.bind, Except.ok.injEq,
            Prod.mk.injEq] at found
          have less := step first
          have less' := step second
          rw [← found.2]
          omega

/-- What became of a record after a list was read into it: the record, and the cursor behind the
list or what was wrong. -/
abbrev Reading := Options × Except Diagnostic Cursor

def Options.readOption (options : Options) (cursor : Cursor) : Reading :=
  match cursor.take (some .ident) "option name" with
  | .error diagnostic => (options, .error diagnostic)
  | .ok (token, afterKey) =>
    match OptionKey.ofWord? token.text with
    | none => (options, .error (.grammar (.unknownOption token.text) token.span))
    | some key =>
      if options.specified.contains key then
        (options, .error (.grammar (.repeatedOption token.text) token.span))
      else
        match readSetting key afterKey with
        | .error diagnostic => (options.mark key, .error diagnostic)
        | .ok (setting, next) => ((options.mark key).apply setting, .ok next)

theorem Options.readOption_remaining_lt {options options' : Options} {cursor next : Cursor}
    (found : options.readOption cursor = (options', .ok next)) :
    next.remaining.length < cursor.remaining.length := by
  unfold Options.readOption at found
  split at found
  · simp at found
  · rename_i token afterKey taken
    have shape := Cursor.take_remaining taken
    split at found
    · simp at found
    · split at found
      · simp at found
      · split at found
        · simp at found
        · rename_i setting next' read
          simp only [Prod.mk.injEq, Except.ok.injEq] at found
          have less := readSetting_remaining_le read
          rw [found.2] at less
          simp only [shape, List.length_cons]
          omega

/-- Reads all pending tokens as options, separated by commas; one comma may trail. -/
def Options.readInto (options : Options) (cursor : Cursor) : Reading :=
  if cursor.isEmpty then (options, .ok cursor)
  else
    match _read : options.readOption cursor with
    | (options', .error diagnostic) => (options', .error diagnostic)
    | (options', .ok next) =>
      if next.isEmpty then (options', .ok next)
      else
        match _taken : next.take (some .comma) "`,`" with
        | .error diagnostic => (options', .error diagnostic)
        | .ok (_, afterComma) => options'.readInto afterComma
termination_by cursor.remaining.length
decreasing_by
  have less := Options.readOption_remaining_lt _read
  have shape := Cursor.take_remaining _taken
  simp only [shape, List.length_cons] at less
  omega

def Options.read (cursor : Cursor) : Except Diagnostic (Options × Cursor) :=
  match Options.empty.readInto cursor with
  | (options, .ok next) => .ok (options, next)
  | (_, .error diagnostic) => .error diagnostic

def Options.parse (cursor : Cursor) : Except Diagnostic Options :=
  (Options.read cursor).map Prod.fst

end ModuleGlue.Directive
