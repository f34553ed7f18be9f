import ModuleGlue.Text.CharClass
import ModuleGlue.Text.CodePoint

/-!
Contract: the text of a documentation string, freed of the layout of its code.

Such a string begins behind its quotes and goes on at the indentation of the code around it. Freed
of layout, its lines begin at a common margin, tabs are spaces, and no blank line stands at either
end.

Owns: the rule.

Does not own: where the string comes from.
-/

namespace ModuleGlue.Text

def CodePoint.isBlank (point : CodePoint) : Bool := point.toChar?.any Text.isBlank

def CodePoint.space : CodePoint := .ofChar ' '

def CodePoint.lineFeed : CodePoint := .ofChar '\n'

namespace Points

/-- Every tab as spaces up to the next column that eight divides. -/
def expandTabs : Nat → Points → Points
  | _, [] => []
  | column, point :: rest =>
    if point = .ofChar '\t' then
      let width := 8 - column % 8
      List.replicate width .space ++ expandTabs (column + width) rest
    else if point = .lineFeed || point = .ofChar '\r' then point :: expandTabs 0 rest
    else point :: expandTabs (column + 1) rest

def splitLines : Points → Points × List Points
  | [] => ([], [])
  | point :: rest =>
    let (first, others) := splitLines rest
    if point = .lineFeed then ([], first :: others) else (point :: first, others)

def joinLines (lines : List Points) : Points := [CodePoint.lineFeed].intercalate lines

/-- How many blanks a line begins with; a line of blanks alone does not count. -/
def indentation? (line : Points) : Option Nat :=
  let content := line.dropWhile CodePoint.isBlank
  if content.isEmpty then none else some (line.length - content.length)

def margin (lines : List Points) : Nat := (lines.filterMap indentation?).min?.getD 0

/-- The text of a documentation string, freed of layout. -/
def prose (points : Points) : Points :=
  let (first, others) := splitLines (expandTabs 0 points)
  let lines := first.dropWhile CodePoint.isBlank :: others.map (·.drop (margin others))
  let unled := lines.dropWhile List.isEmpty
  joinLines (unled.reverse.dropWhile List.isEmpty).reverse

end Points

end ModuleGlue.Text
