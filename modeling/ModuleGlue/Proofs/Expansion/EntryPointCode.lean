import ModuleGlue.Expansion.EntryPoint
import ModuleGlue.Proofs.Text.Margins
import ModuleGlue.Proofs.Text.QuotedValue

/-!
Contract: the code of an entry point.

The code is laid out with a margin, which it loses. Its parts may be any code, and may stand on
several lines; the literals stand on one line each.

Main statement: `splitLines_code` (the lines of the two literals are lines of the code).

Owns: the lines of the code.

Does not own: what the code means.
-/

namespace ModuleGlue.Expansion

open ModuleGlue.Text

/-! ## Indented lines -/

mutual

/-- Indentation comes in front of each line. -/
theorem lines_append (outer inner : String) (template : Template) :
    template.lines (outer ++ inner) = (template.lines inner).map (outer ++ ·) := by
  cases template with
  | simple fragments => simp [Template.lines, String.append_assoc]
  | documentation prose => simp [Template.lines, String.append_assoc, Function.comp_def]
  | block header body =>
      simp only [Template.lines, String.append_assoc, linesAll_append outer (inner ++ "    ") body,
        List.map_cons]

theorem linesAll_append (outer inner : String) (templates : List Template) :
    Template.linesAll (outer ++ inner) templates =
      (Template.linesAll inner templates).map (outer ++ ·) := by
  cases templates with
  | nil => rfl
  | cons template rest =>
      simp only [Template.linesAll, List.map_append, lines_append outer inner template,
        linesAll_append outer inner rest]

end

namespace EntryPoint

variable (entryPoint : EntryPoint)

def nameLine : String :=
  "NAME = " ++ String.ofList (quote (terminated (.ofString entryPoint.name)))

def documentationLine : String := "DOC = " ++ String.ofList (quote entryPoint.documentation)

/-- The lines above these two, at the given indentation. -/
def linesAbove (indent : String) : List String :=
  (documentationLines prose).map (indent ++ ·)

def linesBelow (indent : String) : List String :=
  Template.linesAll indent (entryPoint.body.drop 3)

theorem linesAll_body (indent : String) :
    Template.linesAll indent entryPoint.body =
      linesAbove indent ++ ([indent ++ entryPoint.nameLine, indent ++ entryPoint.documentationLine] ++
        entryPoint.linesBelow indent) := by
  have named : ∀ text : String, "NAME" ++ (" = " ++ text) = "NAME = " ++ text :=
    fun text => by rw [← String.append_assoc]; rfl
  have documented : ∀ text : String, "DOC" ++ (" = " ++ text) = "DOC = " ++ text :=
    fun text => by rw [← String.append_assoc]; rfl
  simp only [body, linesAbove, linesBelow, nameLine, documentationLine, Template.linesAll,
    Template.lines, Fragment.renderAll, Fragment.render, String.append_empty, List.drop_succ_cons,
    List.drop_zero, List.cons_append, List.nil_append, named, documented]

/-! ## The lines of the two literals -/

theorem notMem_nameLine : '\n' ∉ entryPoint.nameLine.toList := by
  have quoted := notMem_quote (terminated (.ofString entryPoint.name)) (by decide :
    isPrintable '\n'.toNat = false)
  simpa [nameLine] using quoted

theorem notMem_documentationLine : '\n' ∉ entryPoint.documentationLine.toList := by
  have quoted := notMem_quote entryPoint.documentation (by decide :
    isPrintable '\n'.toNat = false)
  simpa [documentationLine] using quoted

/-- The text that loses its margin, around the lines of the two literals. -/
theorem code_toList_eq :
    ∃ above below, '"' ∈ above ∧ 'c' ∈ below ∧
      entryPoint.code.toList = trimBlanks (dropMargin (above ++ '\n' :: (joinLines
        ["        ".toList ++ entryPoint.nameLine.toList,
          "        ".toList ++ entryPoint.documentationLine.toList] ++ '\n' :: below))) ++ ['\n'] := by
  let above := ("    " ++ entryPoint.header) :: linesAbove "        "
  let below := entryPoint.linesBelow "        "
  have some : below ≠ [] := by simp [below, linesBelow, body, Template.linesAll, Template.lines]
  refine ⟨'\n' :: joinLines (above.map String.toList),
    joinLines (below.map String.toList) ++ "\n  ".toList, ?_, ?_, ?_⟩
  · have first : "        \"\"\"" ∈ above := by simp [above, linesAbove, documentationLines]
    exact List.mem_cons_of_mem _ (mem_joinLines (List.mem_map_of_mem first) (by decide))
  · have last : "        if \"__pyglue_module_def__\" not in cell:" ∈ below := by
      have joined : ("        " : String) ++ ("if " ++ cellKey ++ " not in " ++ ("cell" ++ ":")) =
        "        if \"__pyglue_module_def__\" not in cell:" := by decide
      rw [← joined]
      simp [below, linesBelow, body, Template.linesAll, Template.lines, Fragment.renderAll,
        Fragment.render]
    exact List.mem_append_left _ (mem_joinLines (List.mem_map_of_mem last) (by decide))
  · have lines : ("    " ++ entryPoint.header) ::
        Template.linesAll "        " entryPoint.body =
          above ++ (["        " ++ entryPoint.nameLine,
            "        " ++ entryPoint.documentationLine] ++ below) := by
      rw [linesAll_body]
      rfl
    unfold code
    dsimp only
    rw [lines]
    simp only [String.toList_append, String.toList_ofList, String.toList_intercalate,
      List.map_append]
    have feed : "\n".toList = ['\n'] := by decide
    rw [feed]
    change trimBlanks (dropMargin ('\n' :: (joinLines _ ++ _))) ++ _ = _
    rw [joinLines_append (by simp [above]) (by simp),
      joinLines_append (by simp) (by simpa using some)]
    simp

/-- A line loses a part of its indentation. -/
theorem undented_of_code {margin line : List Char} (isMargin : margin.all isIndentation = true)
    {width : Nat} {c : Char} {more : List Char} (begins : line = c :: more)
    (code : isIndentation c = false)
    (narrow : (margin ++ line).all isIndentation = false →
      width ≤ ((margin ++ line).takeWhile isIndentation).length) :
    undented width (margin ++ line) = margin.drop width ++ line := by
  have isCode : (margin ++ line).all isIndentation = false := by
    simp [List.all_append, begins, code]
  have measured : (margin ++ line).takeWhile isIndentation = margin := by
    rw [List.takeWhile_append_of_pos (List.all_eq_true.1 isMargin), begins,
      List.takeWhile_cons_of_neg (by simp [code]), List.append_nil]
  have enough := narrow isCode
  rw [measured] at enough
  unfold undented
  rw [if_neg (by simp [isCode]), List.drop_append_of_le_length enough]

/-- **The lines of the two literals are lines of the code**, at one indentation, whatever the parts
of the entry point are. -/
theorem splitLines_code :
    ∃ above margin below, (∀ c ∈ margin, c = ' ') ∧
      splitLines entryPoint.code.toList =
        above ++ ([margin ++ entryPoint.nameLine.toList,
          margin ++ entryPoint.documentationLine.toList] ++ below) := by
  obtain ⟨above, below, left, right, written⟩ := entryPoint.code_toList_eq
  have spaces : "        ".toList.all isIndentation = true := by decide
  have named : entryPoint.nameLine.toList = 'N' :: ("AME = ".toList ++
    quote (terminated (.ofString entryPoint.name))) := by simp [nameLine]
  have documented : entryPoint.documentationLine.toList = 'D' :: ("OC = ".toList ++
    quote entryPoint.documentation) := by simp [documentationLine]
  have feedless := entryPoint.notMem_nameLine
  have feedless' := entryPoint.notMem_documentationLine
  have noFeeds : ∀ line ∈ ["        ".toList ++ entryPoint.nameLine.toList,
      "        ".toList ++ entryPoint.documentationLine.toList], '\n' ∉ line := by
    simp [feedless, feedless']
  obtain ⟨width, first, last, narrow, trimmed⟩ := splitLines_trimmed left (by decide) right
    (by decide) (List.cons_ne_nil _ _) noFeeds
  have nameKept := undented_of_code spaces named (by decide)
    (narrow _ List.mem_cons_self)
  have documentationKept := undented_of_code spaces documented (by decide)
    (narrow _ (List.mem_cons_of_mem _ List.mem_cons_self))
  refine ⟨splitLines first, "        ".toList.drop width, splitLines (last ++ ['\n']), ?_, ?_⟩
  · intro c member
    have space : "        ".toList.all (· == ' ') = true := by decide
    simpa using List.all_eq_true.1 space c (List.mem_of_mem_drop member)
  · have isSpace : '\n' ∉ "        ".toList.drop width :=
      fun member => absurd (List.mem_of_mem_drop member) (by decide)
    rw [written, trimmed, List.append_assoc, List.cons_append, List.append_assoc,
      splitLines_append, List.cons_append, splitLines_append, splitLines_joinLines (by simp)]
    · simp only [List.map_cons, List.map_nil, nameKept, documentationKept]
    · simp only [List.map_cons, List.map_nil, nameKept, documentationKept]
      simpa [feedless, feedless'] using isSpace

end EntryPoint

end ModuleGlue.Expansion
