import ModuleGlue.Text.Hexadecimal
import ModuleGlue.Text.NameTable.Aliases
import ModuleGlue.Text.NameTable.EastAsian
import ModuleGlue.Text.NameTable.Historic
import ModuleGlue.Text.NameTable.Pictures
import ModuleGlue.Text.NameTable.Scripts
import ModuleGlue.Text.NameTable.Symbols

/-!
Contract: characters by their names.

Most names are tabled; case does not matter in them. Syllables of Hangul and unified ideographs have
names that follow a rule, and these are written in capitals.

Owns: the rules, and looking names up.

Does not own: the tables.
-/

namespace ModuleGlue.Text

/-! ## Syllables of Hangul -/

def syllableInitials : List String :=
  ["G", "GG", "N", "D", "DD", "R", "M", "B", "BB", "S", "SS", "", "J", "JJ", "C", "K", "T", "P",
    "H"]

def syllableVowels : List String :=
  ["A", "AE", "YA", "YAE", "EO", "E", "YEO", "YE", "O", "WA", "WAE", "OE", "YO", "U", "WEO", "WE",
    "WI", "YU", "EU", "YI", "I"]

def syllableFinals : List String :=
  ["", "G", "GG", "GS", "N", "NJ", "NH", "D", "L", "LG", "LM", "LB", "LS", "LT", "LP", "LH", "M",
    "B", "BS", "S", "SS", "NG", "J", "C", "K", "T", "P", "H"]

/-- Which of some parts a text begins with, and the text after it. The longest one counts. -/
def longestPart? (parts : List String) (text : List Char) : Option (Nat × List Char) :=
  let fitting := parts.zipIdx.filter fun (part, _) => part.toList.isPrefixOf text
  let longest := fitting.foldl
    (fun (best : Option (String × Nat)) candidate =>
      match best with
      | some (part, _) => if part.length < candidate.1.length then some candidate else best
      | none => some candidate)
    none
  longest.map fun (part, index) => (index, text.drop part.length)

def syllable? (letters : List Char) : Option Nat := do
  let (initial, afterInitial) ← longestPart? syllableInitials letters
  let (vowel, afterVowel) ← longestPart? syllableVowels afterInitial
  let (final, rest) ← longestPart? syllableFinals afterVowel
  guard rest.isEmpty
  return 0xac00 + (initial * syllableVowels.length + vowel) * syllableFinals.length + final

/-! ## Unified ideographs -/

def isIdeograph (value : Nat) : Bool :=
  [(0x3400, 0x4dbf), (0x4e00, 0x9fff), (0x20000, 0x2a6df), (0x2a700, 0x2b738), (0x2b740, 0x2b81d),
    (0x2b820, 0x2cea1), (0x2ceb0, 0x2ebe0), (0x30000, 0x3134a)].any fun (first, last) =>
      first ≤ value && value ≤ last

/-- The ideograph that four or five hexadecimal digits stand for. -/
def ideograph? (digits : List Char) : Option Nat := do
  guard (digits.length = 4 || digits.length = 5)
  guard (digits.all fun c => !beginsName c)
  let (value, _) ← readHex digits.length 0 digits
  guard (isIdeograph value)
  return value

/-! ## Looking names up -/

def nameRuns : List NameRun :=
  scriptsNames ++ symbolsNames ++ eastAsianNames ++ historicNames ++ picturesNames

/-- The character that has a tabled name, which is given in capitals. -/
def tabledCharacter? (name : List Char) : Option Nat :=
  match nameRuns.findSome? (·.find? (nameWords name)) with
  | some value => some value
  | none => aliases.lookup (String.ofList name)

def syllablePrefix : List Char := "HANGUL SYLLABLE ".toList

def ideographPrefix : List Char := "CJK UNIFIED IDEOGRAPH-".toList

def characterNamed? (name : List Char) : Option Nat :=
  if syllablePrefix.isPrefixOf name then syllable? (name.drop syllablePrefix.length)
  else if ideographPrefix.isPrefixOf name then ideograph? (name.drop ideographPrefix.length)
  else tabledCharacter? (name.map Char.toUpper)

end ModuleGlue.Text
