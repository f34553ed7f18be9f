import ModuleGlue.Directive.Options

/-!
Contract: the arguments of the export decorator.

    Path ["," StringLiteral] ["," Options]

The path names the module that a function is registered into. The literal is the legacy form of
the external name: it is read first, and merged into the options afterwards, so that its use is
recorded even if it turns out to be no name.

Owns: module paths, the argument grammar, and the merge of the legacy name.

Does not own: which decorator the arguments come from.
-/

namespace ModuleGlue.Directive

open ModuleGlue.Text

/-- A dotted reference to a module, with at least one segment. -/
structure ModulePath where
  head : String
  tail : List String
  span : Option Span
deriving DecidableEq, Repr

def ModulePath.segments (path : ModulePath) : List String := path.head :: path.tail

def ModulePath.dotted (path : ModulePath) : String := String.intercalate "." path.segments

/-- Arguments as they were read, the legacy name not yet merged. -/
structure ExportArguments where
  path : ModulePath
  options : Options
  legacyName : Option Token
deriving DecidableEq, Repr

structure ExportDescriptor where
  path : ModulePath
  options : Options
deriving DecidableEq, Repr

/-! ## Grammar -/

/-- Takes one path segment: an identifier that is no reserved word. -/
def takeSegment (cursor : Cursor) : Except Diagnostic (Token × Cursor) :=
  match cursor.remaining with
  | token :: _ =>
    if token.kind = .ident ∧ isIdentifier token.text then cursor.take none ""
    else .error (.grammar .noModulePath cursor.currentSpan)
  | [] => .error (.grammar .noModulePath cursor.currentSpan)

theorem takeSegment_remaining {cursor next : Cursor} {token : Token}
    (taken : takeSegment cursor = .ok (token, next)) :
    cursor.remaining = token :: next.remaining := by
  unfold takeSegment at taken
  split at taken
  · split at taken
    · exact Cursor.take_remaining taken
    · simp at taken
  · simp at taken

/-- Reads segments joined by dots; a dot must be followed by a segment. -/
def takeSegments (cursor : Cursor) : Except Diagnostic (Token × List Token × Cursor) :=
  match _segment : takeSegment cursor with
  | .error diagnostic => .error diagnostic
  | .ok (first, afterFirst) =>
    if afterFirst.startsWith .dot then
      match _dot : afterFirst.take none "" with
      | .error diagnostic => .error diagnostic
      | .ok (_, afterDot) =>
        match takeSegments afterDot with
        | .error diagnostic => .error diagnostic
        | .ok (second, others, next) => .ok (first, second :: others, next)
    else .ok (first, [], afterFirst)
termination_by cursor.remaining.length
decreasing_by
  have first := takeSegment_remaining _segment
  have second := Cursor.take_remaining _dot
  simp only [first, second, List.length_cons]
  omega

/-- Reads a module path. Its span runs from its first to its last segment. -/
def takePath (cursor : Cursor) : Except Diagnostic (ModulePath × Cursor) := do
  let (first, others, next) ← takeSegments cursor
  let last := others.getLastD first
  .ok (⟨first.text, others.map Token.text, some ⟨first.span.start, last.span.stop⟩⟩, next)

/-- Reads the legacy name, if one is pending, and the comma that must separate it from more. -/
def takeLegacyName (cursor : Cursor) : Except Diagnostic (Option Token × Cursor) :=
  if cursor.startsWith .string then do
    let (literal, next) ← cursor.take none ""
    if next.isEmpty then .ok (some literal, next)
    else do
      let (_, afterComma) ← next.take (some .comma) "`,`"
      .ok (some literal, afterComma)
  else .ok (none, cursor)

/-- Reads the arguments of an export decorator, up to the end of the list. -/
def ExportArguments.read (cursor : Cursor) : Except Diagnostic (ExportArguments × Cursor) := do
  let (path, afterPath) ← takePath cursor
  if afterPath.isEmpty then .ok (⟨path, .empty, none⟩, afterPath)
  else do
    let (_, afterComma) ← afterPath.take (some .comma) "`,`"
    let (legacyName, rest) ← takeLegacyName afterComma
    let (options, final) ← Options.read rest
    .ok (⟨path, options, legacyName⟩, final)

def ExportArguments.parse (cursor : Cursor) : Except Diagnostic ExportArguments :=
  (ExportArguments.read cursor).map Prod.fst

/-! ## Merging the legacy name -/

/-- Folds the legacy name into the options. Its use is recorded before it is read as a name. -/
def ExportArguments.merge (arguments : ExportArguments) : Except Diagnostic ExportDescriptor :=
  match arguments.legacyName with
  | none => .ok ⟨arguments.path, arguments.options⟩
  | some literal =>
    let record : Deprecation := ⟨.positionalName, literal.span⟩
    let options :=
      { arguments.options with deprecations := arguments.options.deprecations ++ [record] }
    match Name.ofToken literal with
    | .ok name => .ok ⟨arguments.path, options.setName name⟩
    | .error diagnostic =>
      .error ⟨.legacyName, diagnostic.cause, literal.span, some options.deprecations⟩

/-- Reads and merges the arguments of an export decorator given as text. -/
def ExportDescriptor.parse (text : String) (origin : Option Span) :
    Except Diagnostic ExportDescriptor := do
  let arguments ← ExportArguments.parse (.ofSource text origin)
  arguments.merge

end ModuleGlue.Directive
