import ModuleGlue.Source.Token

/-!
Contract: source code as a tree of logical lines.

A logical line is one line of tokens together with the lines without code above it. Indentation
nests the lines: a line's block is the run of deeper lines below it. Lines without code at the end
of a block belong to the block as far as they have its indentation; the others stand above the
next line.

Owns: measuring indentation, the nesting, and the distribution of lines without code.

Does not own: which lines may have a block.
-/

namespace ModuleGlue.Source

open ModuleGlue.Text

/-- One line of tokens in a flat file. `above` is the raw text between the previous line and this
one; `depth` counts the blocks around it. -/
structure FlatLine where
  above : List Char
  depth : Nat
  indent : List Char
  tokens : List Token
  ending : LineEnd

/-- An open block: its indentation, and that measured with wide and with narrow tabs. -/
structure Level where
  indent : List Char
  wide : Nat
  narrow : Nat

/-- The width of indentation with tabs to multiples of eight, and with tabs of one. -/
def measureIndent (indent : List Char) : Nat × Nat :=
  indent.foldl (fun (wide, narrow) c =>
    if c = '\t' then ((wide / 8 + 1) * 8, narrow + 1)
    else if c = '\x0c' then (0, 0)
    else (wide + 1, narrow + 1)) (0, 0)

/-- The blocks that stay open at a line with the given indentation, innermost first. The line must
match one of them, or open a new one; both measures must agree on which. -/
def adjustLevels (indent : List Char) (levels : List Level) : Option (List Level) :=
  let (wide, narrow) := measureIndent indent
  let opened : Level := ⟨indent, wide, narrow⟩
  let current := levels.head?.getD ⟨[], 0, 0⟩
  if current.wide < wide then
    if current.narrow < narrow then some (opened :: levels) else none
  else
    let kept := levels.dropWhile (wide < ·.wide)
    let target := kept.head?.getD ⟨[], 0, 0⟩
    if target.wide = wide && target.narrow = narrow then some kept else none

def isIndent (c : Char) : Bool := c == ' ' || c == '\t' || c == '\x0c'

/-- The lines without code at the head of a text, raw, and the rest. -/
def takeAbove : Nat → List Char → List Char × List Char
  | 0, text => ([], text)
  | fuel + 1, text =>
    let indent := text.takeWhile isIndent
    match text.dropWhile isIndent with
    | [] => (text, [])
    | c :: rest =>
      if c = '#' || isBreak c then
        let comment := (c :: rest).takeWhile (!isBreak ·)
        match takeBreak ((c :: rest).dropWhile (!isBreak ·)) with
        | none => (text, [])
        | some (found, after) =>
          let (more, final) := takeAbove fuel after
          (indent ++ comment ++ found ++ more, final)
      else ([], text)

/-- A file as flat lines, and the raw text after the last of them. The fuel bounds the number of
lines. -/
def scanLines (usual : List Char) :
    Nat → List Level → Position → List Char → Option (List FlatLine × List Char)
  | 0, _, _, _ => none
  | fuel + 1, levels, position, text =>
    let (above, rest) := takeAbove (text.length + 1) text
    if rest.isEmpty then some ([], above)
    else do
      let indent := rest.takeWhile isIndent
      let levels' ← adjustLevels indent levels
      let level := (levels'.head?.map Level.indent).getD []
      let start := advanceLines position (above ++ indent)
      let line ← scanLine ⟨usual, level⟩ (rest.length + 1) [] start (rest.dropWhile isIndent)
      let (lines, final) ← scanLines usual fuel levels' line.position line.rest
      some (⟨above, levels'.length, level, line.tokens, line.ending⟩ :: lines, final)

/-- A logical line with its block. A line without a block has no children. -/
inductive Node where
  | mk (above : List BlankLine) (tokens : List Token) (ending : LineEnd) (indent : List Char)
      (children : List Node) (footer : List BlankLine)

/-- The indentation that a block adds to the one around it. -/
def relativeIndent (outer inner : List Char) : List Char :=
  if outer.isPrefixOf inner then inner.drop outer.length else inner

/-- Collects the lines of one block, down to the first line of an outer one, whose lines above are
shared between the blocks that end there. The fuel bounds the number of lines. -/
def nestLines (usual : List Char) (depth : Nat) (indent : List Char) :
    Nat → List FlatLine → List Char → List Node × List FlatLine × List Char
  | 0, lines, final => ([], lines, final)
  | _ + 1, [], final => ([], [], final)
  | fuel + 1, line :: rest, final =>
    if line.depth < depth then ([], line :: rest, final)
    else
      let above := (takeLeading usual line.indent true line.above).1
      match rest with
      | next :: _ =>
        if line.depth < next.depth then
          let (children, rest', final') := nestLines usual next.depth next.indent fuel rest final
          let (footer, rest'', final'') := match rest' with
            | [] =>
              let (footer, left) := takeFooter usual next.indent true final'
              (footer, [], left)
            | follower :: others =>
              let (footer, left) := takeFooter usual next.indent true follower.above
              (footer, { follower with above := left } :: others, final')
          let node := Node.mk above line.tokens line.ending (relativeIndent indent next.indent)
            children footer
          let (siblings, lines, tail) := nestLines usual depth indent fuel rest'' final''
          (node :: siblings, lines, tail)
        else
          let (siblings, lines, tail) := nestLines usual depth indent fuel rest final
          (.mk above line.tokens line.ending [] [] [] :: siblings, lines, tail)
      | [] => ([.mk above line.tokens line.ending [] [] []], [], final)

structure LineTree where
  /-- The usual line break. -/
  usual : List Char
  /-- What the first block of the file adds to the indentation; four spaces if there is no block. -/
  indent : List Char
  lines : List Node
  /-- The lines without code at the end of the file. -/
  footer : List BlankLine

/-- What the first line that opens a block adds to the indentation. -/
def firstIndent : List FlatLine → Option (List Char)
  | line :: next :: rest =>
    if line.depth < next.depth then some (relativeIndent line.indent next.indent)
    else firstIndent (next :: rest)
  | _ => none

/-- Reads the nested lines of a text. Code at the outermost level must not be indented. -/
def LineTree.ofText (text : List Char) : Option LineTree := do
  let usual := usualBreak text
  let (flat, final) ← scanLines usual (text.length + 1) [] .origin text
  guard ((flat.head?.map FlatLine.depth).getD 0 = 0)
  let (lines, _, final') := nestLines usual 0 [] (flat.length + 1) flat final
  let (footer, _) := takeLeading usual [] true final'
  some ⟨usual, (firstIndent flat).getD "    ".toList, lines, footer⟩

end ModuleGlue.Source
