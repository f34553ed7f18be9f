import ModuleGlue.Directive.Export

/-!
Contract: the sentences of export arguments, and what each of them denotes.

    sentence := path tail
    path     := IDENT (DOT IDENT)*
    tail     := nothing | COMMA | COMMA STRING | COMMA STRING COMMA
              | COMMA STRING COMMA options | COMMA options
    options  := option (COMMA option)* [COMMA]
    option   := "name" EQUALS (IDENT | STRING)
              | "text_signature" EQUALS (STRING | "None")
              | "pass_module" [EQUALS ("True" | "False")]

The grammar relates token lists to what they stand for. It speaks of tokens alone: no place in a
list and no order of reading occurs in it, so it can be held against the readers.

Owns: the relations, the rule that no key is written twice, and the record that settings denote.

Does not own: the readers, and their agreement with the grammar.
-/

namespace ModuleGlue.Directive

open ModuleGlue.Text

/-! ## Single tokens -/

def Token.IsWord (token : Token) (word : String) : Prop := token.kind = .ident ∧ token.text = word

def Token.Evaluates (token : Token) (value : Points) : Prop :=
  token.kind = .string ∧ literalValue? token.text.toList = some value

def Token.IsSegment (token : Token) : Prop := token.kind = .ident ∧ isIdentifier token.text

/-- The token denotes an identifier, bare or by a literal. -/
def Token.Names (token : Token) (text : String) : Prop :=
  isIdentifier text ∧ (token.IsWord text ∨ token.Evaluates (.ofString text))

/-- The token denotes a text signature: a text, or none by its word. -/
def Token.Signs (token : Token) : Option Points → Prop
  | none => token.IsWord "None"
  | some text => token.Evaluates text

def truthWord : Bool → String
  | true => "True"
  | false => "False"

/-! ## Options -/

def Setting.key : Setting → OptionKey
  | .name _ => .name
  | .textSignature _ => .textSignature
  | .passModule _ => .passModule

/-- What may follow a key: an equals sign and a value. One key may stand alone. -/
inductive ValueTokens : Setting → List Token → Prop
  | name {equals value : Token} {text : String} (sign : equals.kind = .equals)
      (named : value.Names text) : ValueTokens (.name ⟨text, value.span⟩) [equals, value]
  | textSignature {equals value : Token} {text : Option Points} (sign : equals.kind = .equals)
      (signed : value.Signs text) :
      ValueTokens (.textSignature ⟨text, value.span⟩) [equals, value]
  | passModule {equals value : Token} {flag : Bool} (sign : equals.kind = .equals)
      (truth : value.IsWord (truthWord flag)) : ValueTokens (.passModule flag) [equals, value]
  | alone : ValueTokens (.passModule true) []

/-- An option: its key and what follows it. -/
inductive OptionTokens : Setting → List Token → Prop
  | mk {key : Token} {setting : Setting} {value : List Token}
      (word : key.IsWord setting.key.word) (follows : ValueTokens setting value) :
      OptionTokens setting (key :: value)

/-- Options separated by commas; one comma may trail. -/
inductive OptionsTokens : List Setting → List Token → Prop
  | last {setting : Setting} {tokens : List Token} (option : OptionTokens setting tokens) :
      OptionsTokens [setting] tokens
  | trailing {setting : Setting} {tokens : List Token} {comma : Token}
      (option : OptionTokens setting tokens) (separator : comma.kind = .comma) :
      OptionsTokens [setting] (tokens ++ [comma])
  | more {setting : Setting} {tokens : List Token} {comma : Token} {settings : List Setting}
      {others : List Token} (option : OptionTokens setting tokens)
      (separator : comma.kind = .comma) (rest : OptionsTokens settings others) :
      OptionsTokens (setting :: settings) (tokens ++ comma :: others)

def Setting.name? : Setting → Option Name
  | .name value => some value
  | _ => none

def Setting.textSignature? : Setting → Option TextSignature
  | .textSignature value => some value
  | _ => none

def Setting.passModule? : Setting → Option Bool
  | .passModule value => some value
  | _ => none

/-- A record with settings added to it. A value that is not written stays as it was. -/
def Options.extend (options : Options) (settings : List Setting) : Options where
  name := (settings.findSome? Setting.name?).or options.name
  textSignature := (settings.findSome? Setting.textSignature?).or options.textSignature
  passModule := (settings.findSome? Setting.passModule?).getD options.passModule
  deprecations := options.deprecations
  specified := options.specified ++ settings.map Setting.key

/-! ## Sentences -/

/-- Identifiers joined by dots; the first list holds the identifiers. -/
inductive PathTokens : List Token → List Token → Prop
  | last {segment : Token} (named : segment.IsSegment) : PathTokens [segment] [segment]
  | more {segment dot : Token} {segments tokens : List Token} (named : segment.IsSegment)
      (joined : dot.kind = .dot) (rest : PathTokens segments tokens) :
      PathTokens (segment :: segments) (segment :: dot :: tokens)

/-- What may follow the path: the legacy name, and options. -/
inductive TailTokens : Option Token → List Setting → List Token → Prop
  | nothing : TailTokens none [] []
  | comma {comma : Token} (separator : comma.kind = .comma) : TailTokens none [] [comma]
  | legacy {comma literal : Token} (separator : comma.kind = .comma)
      (quoted : literal.kind = .string) : TailTokens (some literal) [] [comma, literal]
  | legacyComma {comma literal second : Token} (separator : comma.kind = .comma)
      (quoted : literal.kind = .string) (trailing : second.kind = .comma) :
      TailTokens (some literal) [] [comma, literal, second]
  | legacyOptions {comma literal second : Token} {settings : List Setting} {tokens : List Token}
      (separator : comma.kind = .comma) (quoted : literal.kind = .string)
      (trailing : second.kind = .comma) (options : OptionsTokens settings tokens) :
      TailTokens (some literal) settings (comma :: literal :: second :: tokens)
  | options {comma : Token} {settings : List Setting} {tokens : List Token}
      (separator : comma.kind = .comma) (options : OptionsTokens settings tokens) :
      TailTokens none settings (comma :: tokens)

/-- What a sentence says: a path of at least one segment, perhaps a legacy name, and settings. -/
structure Sentence where
  first : Token
  others : List Token
  legacyName : Option Token
  settings : List Setting

namespace Sentence

/-- The tokens write the sentence, and no key in it twice. -/
def IsWrittenAs (sentence : Sentence) (tokens : List Token) : Prop :=
  ∃ path tail, tokens = path ++ tail ∧
    PathTokens (sentence.first :: sentence.others) path ∧
    TailTokens sentence.legacyName sentence.settings tail ∧
    (sentence.settings.map Setting.key).Nodup

/-- The module path. Its span runs from the start of its first segment to the end of its last. -/
def path (sentence : Sentence) : ModulePath where
  head := sentence.first.text
  tail := sentence.others.map Token.text
  span := some ⟨sentence.first.span.start, (sentence.others.getLastD sentence.first).span.stop⟩

/-- What the sentence denotes: its path, the settings it writes and the defaults of all others, and
the legacy name as it was written. -/
def denotation (sentence : Sentence) : ExportArguments :=
  ⟨sentence.path, Options.empty.extend sentence.settings, sentence.legacyName⟩

end Sentence

end ModuleGlue.Directive
