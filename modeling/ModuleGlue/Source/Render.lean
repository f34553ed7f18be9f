import ModuleGlue.Source.Tree

/-!
Contract: writing source trees.

A tree is written at a margin, the indentation of the block it stands in. A file that does not end
with a line break gets none, whatever its last statement is; and a fragment that is written alone
has an empty margin.

Owns: the text of phrases, statements and files.
-/

namespace ModuleGlue.Source

/-- The text of a phrase, with the gap before its first token. -/
def Phrase.render (style : Style) (margin : String) (phrase : Phrase) : String :=
  String.join (phrase.map fun lexeme => lexeme.gap.render style margin ++ lexeme.text)

def Small.render (style : Style) (margin : String) (small : Small) : String :=
  small.phrase.render style margin ++ small.separator.render style margin

def Small.renderAll (style : Style) (margin : String) (parts : List Small) : String :=
  String.join (parts.map (Small.render style margin))

/-- The text of a decorator with its line and the lines above it. -/
def Decorator.render (style : Style) (margin : String) (decorator : Decorator) : String :=
  BlankLine.renderAll style margin decorator.leading ++ margin ++
    decorator.phrase.render style margin ++ decorator.ending.render style

/-- The text of everything that stands above a statement. -/
def Head.render (style : Style) (margin : String) (head : Head) : String :=
  BlankLine.renderAll style margin head.leading ++
    String.join (head.decorators.map (Decorator.render style margin)) ++
    BlankLine.renderAll style margin head.afterDecorators

mutual

/-- The text of a statement in a block with the given margin. -/
def Statement.render (style : Style) (margin : String) : Statement → String
  | .line leading parts ending =>
    BlankLine.renderAll style margin leading ++ margin ++ Small.renderAll style margin parts ++
      ending.render style
  | .function head signature body =>
    head.render style margin ++ margin ++ signature.phrase.render style margin ++
      Suite.render style margin body
  | .compound head header body clauses =>
    head.render style margin ++ margin ++ header.render style margin ++
      Suite.render style margin body ++ Clause.renderAll style margin clauses

def Statement.renderAll (style : Style) (margin : String) : List Statement → String
  | [] => ""
  | statement :: rest =>
    Statement.render style margin statement ++ Statement.renderAll style margin rest

def Clause.render (style : Style) (margin : String) : Clause → String
  | .mk leading header body =>
    BlankLine.renderAll style margin leading ++ margin ++ header.render style margin ++
      Suite.render style margin body

def Clause.renderAll (style : Style) (margin : String) : List Clause → String
  | [] => ""
  | clause :: rest => Clause.render style margin clause ++ Clause.renderAll style margin rest

def Suite.render (style : Style) (margin : String) : Suite → String
  | .inline parts ending => Small.renderAll style margin parts ++ ending.render style
  | .block header indent body footer =>
    let inner := margin ++ indent.getD style.indent
    header.render style ++ Statement.renderAll style inner body ++
      BlankLine.renderAll style inner footer

end

/-- A text without the line break at its end, if it has one. -/
def dropFinalBreak (text : String) : String :=
  match text.toList.reverse with
  | '\n' :: '\r' :: rest => String.ofList rest.reverse
  | '\n' :: rest => String.ofList rest.reverse
  | '\r' :: rest => String.ofList rest.reverse
  | _ => text

def Module.render (tree : Module) : String :=
  let text := BlankLine.renderAll tree.style "" tree.header ++
    Statement.renderAll tree.style "" tree.body ++ BlankLine.renderAll tree.style "" tree.footer
  if tree.endsWithBreak then (if text.isEmpty then tree.style.newline else text)
  else dropFinalBreak text

/-- The text of the arguments of a decorator, from the first token to before the closing
parenthesis. -/
def Decorator.argumentText (decorator : Decorator) : String :=
  match decorator.arguments with
  | [] => ""
  | arguments =>
    (Phrase.flush arguments).render .standard "" ++
      String.join ((decorator.closing.take 1).map fun lexeme => lexeme.gap.render .standard "")

end ModuleGlue.Source
