import ModuleGlue.Text.CharClass
import ModuleGlue.Text.Margin
import ModuleGlue.Text.Width

/-!
Contract: breaking text into lines of a given width.

A line is broken before the first word that does not fit on it. A word that fits on no line begins
a line of its own, and is broken where it is full. Blanks after a word go with it, and those at the
end of a line are dropped.

Owns: tabs, words, and breaking lines.

Does not own: what is shown beside the lines.
-/

namespace ModuleGlue.Console

open ModuleGlue.Text (columns isBlank splitLines width)

def tabWidth : Nat := 8

/-- The text of a line with spaces for its tabs. A tab takes the columns up to the next stop, and at
least one. -/
def expandTabs (line : List Char) : List Char :=
  match _tab : line.dropWhile (· != '\t') with
  | [] => line
  | _ :: rest =>
    let part := line.takeWhile (· != '\t')
    part ++ List.replicate (tabWidth - columns part % tabWidth) ' ' ++ expandTabs rest
termination_by line.length
decreasing_by
  have shorter := (List.dropWhile_suffix (· != '\t') (l := line)).length_le
  rw [_tab] at shorter
  simp only [List.length_cons] at shorter
  omega

def dropBlanksRight (text : List Char) : List Char := (text.reverse.dropWhile isBlank).reverse

/-- A character before some words. It joins the first of them, unless it is a blank and that word
begins with none: then it ends a word of its own. -/
def consWord (c : Char) : List (List Char) → List (List Char)
  | [] => [[c]]
  | word :: others =>
    if isBlank c && !isBlank (word.headD ' ') then [c] :: word :: others
    else (c :: word) :: others

/-- The words of a line, each with the blanks after it. -/
def words (line : List Char) : List (List Char) :=
  match line.foldr consWord [] with
  | first :: second :: others =>
    if first.all isBlank then (first ++ second) :: others else first :: second :: others
  | few => few

/-- The lines that are finished, last first, and the one being filled with the columns it takes. -/
structure Filling where
  lines : List (List Char)
  line : List Char
  taken : Nat

/-- Adds characters of a word one by one, and begins a line where one is full. -/
def Filling.addFolded (limit : Nat) (filling : Filling) (c : Char) : Filling :=
  if filling.taken + width c > limit then ⟨filling.line :: filling.lines, [c], width c⟩
  else ⟨filling.lines, filling.line ++ [c], filling.taken + width c⟩

def Filling.endLine (filling : Filling) : Filling :=
  if filling.line.isEmpty then filling else ⟨filling.line :: filling.lines, [], 0⟩

def Filling.add (limit : Nat) (filling : Filling) (word : List Char) : Filling :=
  let needed := columns (dropBlanksRight word)
  if filling.taken + needed ≤ limit then
    ⟨filling.lines, filling.line ++ word, filling.taken + columns word⟩
  else if needed > limit then word.foldl (Filling.addFolded limit) filling.endLine
  else
    let next := filling.endLine
    ⟨next.lines, word, columns word⟩

def wrapLine (limit : Nat) (line : List Char) : List (List Char) :=
  let filling := (words (expandTabs line)).foldl (Filling.add limit) ⟨[], [], 0⟩
  (filling.line :: filling.lines).reverse.map dropBlanksRight

/-- The lines of a text, none of them wider than the limit. -/
def wrap (limit : Nat) (text : List Char) : List (List Char) :=
  (splitLines text).flatMap (wrapLine limit)

end ModuleGlue.Console
