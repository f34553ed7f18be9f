/-!
Contract: how names of characters are tabled.

Characters that follow each other have names that share their first words. In a table a name is
written without these: a small letter says how many words it shares with the name before it, `a`
for none, and its other words follow. Names have no small letters, so these also tell the names
apart.

Owns: runs of tabled names, and their reading.

Does not own: the names.
-/

namespace ModuleGlue.Text

/-- The names of characters that follow each other. -/
structure NameRun where
  /-- The first character. -/
  start : Nat
  /-- The tabled names; the breaks between the lines mean nothing. -/
  lines : List String
deriving Repr

abbrev NameWord := List Char

/-- A tabled name: how many words it shares with the name before it, and its other words. -/
structure TabledName where
  shared : Nat
  others : List NameWord
deriving DecidableEq, Repr

/-- The words of a name. Exactly one space stands between two of them. -/
def nameWords : List Char → List NameWord
  | [] => [[]]
  | ' ' :: rest => [] :: nameWords rest
  | c :: rest =>
    match nameWords rest with
    | word :: others => (c :: word) :: others
    | [] => [[c]]

/-- Is this a small letter, which begins a tabled name? -/
def beginsName (c : Char) : Bool := 'a' ≤ c && c ≤ 'z'

/-- One more character in front of a text, and the tabled names that come after it. -/
def addTabled (c : Char) (read : List Char × List TabledName) : List Char × List TabledName :=
  if beginsName c then ([], ⟨c.toNat - 'a'.toNat, nameWords read.1⟩ :: read.2)
  else (c :: read.1, read.2)

def tabledNames (text : List Char) : List TabledName := (text.foldr addTabled ([], [])).2

/-- The tabled names in full, given the words of the name before them. -/
def spellNames (previous : List NameWord) : List TabledName → List (List NameWord)
  | [] => []
  | name :: rest =>
    let words := previous.take name.shared ++ name.others
    words :: spellNames words rest

namespace NameRun

def names (run : NameRun) : List (List NameWord) :=
  spellNames [] (tabledNames (run.lines.flatMap String.toList))

def find? (run : NameRun) (words : List NameWord) : Option Nat :=
  (run.names.findIdx? (· == words)).map (run.start + ·)

end NameRun

end ModuleGlue.Text
