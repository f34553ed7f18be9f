import ModuleGlue.Console.PictureTable
import ModuleGlue.Text.CharClass

/-!
Contract: text with tags.

A tag is a name between brackets; it begins a style, or ends one if the name begins with a slash.
Backslashes before a tag stand for half as many, and an odd one makes the tag plain text. What is
shown of a text is all of it but the tags.

Owns: taking text apart into tags and what stands between them, escaping, and showing.

Does not own: colours. Only whether styles are ended in the way they were begun matters here.
-/

namespace ModuleGlue.Console

open ModuleGlue.Text (isBlank trimBlanks)

inductive Piece where
  /-- Text between tags. -/
  | text (content : List Char)
  /-- A tag after some backslashes; `content` stands between its brackets. -/
  | tag (slashes : Nat) (content : List Char)
deriving DecidableEq, Repr

/-- May the text between the brackets of a tag begin so? -/
def beginsTag (c : Char) : Bool := c.isLower || c == '#' || c == '/' || c == '@'

/-- The content of the tag that a text begins with, and the text after it. -/
def tagContent? : List Char → Option (List Char × List Char)
  | '[' :: first :: rest =>
    if beginsTag first then
      match rest.dropWhile fun c => c != '[' && c != ']' with
      | ']' :: after => some (first :: rest.takeWhile fun c => c != '[' && c != ']', after)
      | _ => none
    else none
  | _ => none

/-- The tag that a text begins with, and the text after it. -/
def tagAt? (text : List Char) : Option (Piece × List Char) :=
  (tagContent? (text.dropWhile (· == '\\'))).map fun (content, after) =>
    (.tag (text.takeWhile (· == '\\')).length content, after)

theorem length_dropWhile_le {α : Type} (skip : α → Bool) (items : List α) :
    (items.dropWhile skip).length ≤ items.length :=
  (List.dropWhile_suffix skip).length_le

theorem length_lt_of_tagContent? {text content after : List Char}
    (found : tagContent? text = some (content, after)) : after.length < text.length := by
  unfold tagContent? at found
  split at found
  · rename_i first rest
    split at found
    · split at found
      · rename_i rest' dropped
        have shorter := length_dropWhile_le (fun c => c != '[' && c != ']') rest
        rw [dropped] at shorter
        simp only [Option.some.injEq, Prod.mk.injEq] at found
        obtain ⟨-, rfl⟩ := found
        simp only [List.length_cons] at shorter ⊢
        omega
      · cases found
    · cases found
  · cases found

theorem length_lt_of_tagAt? {text after : List Char} {piece : Piece}
    (found : tagAt? text = some (piece, after)) : after.length < text.length := by
  unfold tagAt? at found
  obtain ⟨⟨content, rest⟩, tag, equal⟩ := Option.map_eq_some_iff.1 found
  simp only [Prod.mk.injEq] at equal
  obtain ⟨-, rfl⟩ := equal
  have shorter := length_dropWhile_le (· == '\\') text
  have := length_lt_of_tagContent? tag
  omega

def consText (c : Char) : List Piece → List Piece
  | .text content :: pieces => .text (c :: content) :: pieces
  | pieces => .text [c] :: pieces

def pieces (text : List Char) : List Piece :=
  match _found : tagAt? text with
  | some (piece, after) => piece :: pieces after
  | none =>
    match text with
    | [] => []
    | c :: rest => consText c (pieces rest)
termination_by text.length
decreasing_by
  · exact length_lt_of_tagAt? _found
  · simp

def slashesOf (count : Nat) : List Char := List.replicate count '\\'

def writeTag (content : List Char) : List Char := '[' :: content ++ [']']

def Piece.escape : Piece → List Char
  | .text content => content
  | .tag slashes content => slashesOf (2 * slashes + 1) ++ writeTag content

/-- The text with a backslash more if it ends with a single one. -/
def doubleLastSlash (text : List Char) : List Char :=
  match text.reverse with
  | '\\' :: '\\' :: _ => text
  | '\\' :: _ => text ++ ['\\']
  | _ => text

def escape (text : List Char) : List Char :=
  doubleLastSlash ((pieces text).flatMap Piece.escape)

/-! ### Showing -/

def unescapeBrackets : List Char → List Char
  | '\\' :: '[' :: rest => '[' :: unescapeBrackets rest
  | c :: rest => c :: unescapeBrackets rest
  | [] => []

/-- The letter in lower case, if it is one of the letters of names of pictures. -/
def lowerLetter (c : Char) : Char :=
  if c.toNat < 128 then c.toLower
  else if 0xC0 ≤ c.toNat ∧ c.toNat ≤ 0xDE ∧ c.toNat ≠ 0xD7 then Char.ofNat (c.toNat + 32)
  else c

/-- The ends of names that ask for a way of showing a picture, and the mark for that way. -/
def variants : List (List Char × Char) :=
  [("-emoji".toList, '\uFE0F'), ("-text".toList, '\uFE0E')]

/-- The name of a picture without the way of showing it, and the mark for that way. -/
def splitVariant (name : List Char) : List Char × List Char :=
  match variants.find? fun (ending, _) => ending.isSuffixOf name with
  | some (ending, mark) => (name.take (name.length - ending.length), [mark])
  | none => (name, [])

def picture? (name : List Char) : Option (List Char) :=
  let (plain, mark) := splitVariant name
  let lower := plain.map lowerLetter
  ((picturesOf (lower.headD ' ')).lookup (String.ofList lower)).map fun shown =>
    shown.toList ++ mark

/-- Text with pictures for their names between colons. A name holds no blank and no colon. -/
def showPictures (text : List Char) : List Char :=
  match text with
  | [] => []
  | c :: rest =>
    if c = ':' then
      let name := rest.takeWhile fun d => d != ':' && !isBlank d
      match _ended : rest.dropWhile fun d => d != ':' && !isBlank d with
      | ':' :: after => ((picture? name).getD (':' :: name ++ [':'])) ++ showPictures after
      | _ => c :: showPictures rest
    else c :: showPictures rest
termination_by text.length
decreasing_by
  · have shorter := length_dropWhile_le (fun d => d != ':' && !isBlank d) rest
    rw [_ended] at shorter
    simp only [List.length_cons] at shorter ⊢
    omega
  · simp
  · simp

def showText (text : List Char) : List Char := showPictures (unescapeBrackets text)

/-- The attributes of styles, in their order, and their short names. -/
def attributes : List (String × List String) :=
  [("bold", ["b"]), ("dim", ["d"]), ("italic", ["i"]), ("underline", ["u"]), ("blink", []),
    ("blink2", []), ("reverse", ["r"]), ("conceal", ["c"]), ("strike", ["s"]),
    ("underline2", ["uu"]), ("frame", []), ("encircle", []), ("overline", ["o"])]

def wordsOf (text : List Char) : List (List Char) :=
  (text.splitBy fun c d => isBlank c == isBlank d).filter fun word => !word.all isBlank

/-- The name of a style. Attributes have full names and an order; any other name only loses the
blanks around it. Letter case does not count. -/
def styleName (text : List Char) : List Char :=
  let lower := (trimBlanks text).map Char.toLower
  let words := (wordsOf lower).map String.ofList
  let named := attributes.filter fun (name, short) =>
    words.any fun word => (name :: short).contains word
  let known := words.all fun word =>
    attributes.any fun (name, short) => (name :: short).contains word
  if words.isEmpty then "none".toList
  else if known then (" ".intercalate (named.map Prod.fst)).toList
  else lower

/-- The styles that have been begun and not ended, the last one first. -/
abbrev OpenStyles := List (List Char)

/-- A tag that ends a style which is not open. -/
inductive MarkupError where
  | unmatched (content : List Char)
deriving DecidableEq, Repr

/-- Begins or ends a style. A slash alone ends the last one. -/
def applyTag (styles : OpenStyles) (content : List Char) : Except MarkupError OpenStyles :=
  match content.takeWhile (· != '=') with
  | '/' :: rest =>
    if (trimBlanks rest).isEmpty then
      match styles with
      | _ :: others => .ok others
      | [] => .error (.unmatched content)
    else if styles.contains (styleName rest) then .ok (styles.erase (styleName rest))
    else .error (.unmatched content)
  | name => .ok (styleName name :: styles)

/-- What is shown of a piece, and the styles that are open after it. -/
def Piece.show (styles : OpenStyles) : Piece → Except MarkupError (List Char × OpenStyles)
  | .text content => .ok (showText content, styles)
  | .tag slashes content =>
    if slashes % 2 = 1 then .ok (slashesOf (slashes / 2) ++ showText (writeTag content), styles)
    else (applyTag styles content).map fun after => (slashesOf (slashes / 2), after)

def showPieces (styles : OpenStyles) : List Piece → Except MarkupError (List Char)
  | [] => .ok []
  | piece :: rest => do
    let (shown, after) ← piece.show styles
    return shown ++ (← showPieces after rest)

def isHidden (c : Char) : Bool :=
  c == '\x07' || c == '\x08' || c == '\x0B' || c == '\x0C' || c == '\x0D'

def showMarkup (text : List Char) : Except MarkupError (List Char) :=
  (showPieces [] (pieces text)).map fun shown => shown.filter (!isHidden ·)

end ModuleGlue.Console
