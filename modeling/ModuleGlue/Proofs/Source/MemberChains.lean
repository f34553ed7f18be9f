import ModuleGlue.Proofs.Source.TextReading

/-!
Contract: names with members, and members of members.

    head.member. … .member

Main statements: `scans_path` (a path in front of a text is scanned to its names and the points
between them) and `reads_path` (it is read as one expression), and `reads_pathCall` (so is a call of
it).

Owns: paths in code, and calls of them with one argument.

Does not own: which paths are generated.
-/

namespace ModuleGlue.Source

open ModuleGlue.Text
open Reader

/-! ## Texts -/

/-- The text of the members behind the first name. -/
def memberText (tail : List String) : List Char := tail.flatMap fun member => '.' :: member.toList

def memberSpelling (tail : List String) : List (TokenKind × String) :=
  tail.flatMap fun member => [(.operator, "."), (.name, member)]

def pathSpelling (head : String) (tail : List String) : List (TokenKind × String) :=
  (.name, head) :: memberSpelling tail

theorem toList_intercalate_path (head : String) (tail : List String) :
    (String.intercalate "." (head :: tail)).toList = head.toList ++ memberText tail := by
  induction tail generalizing head with
  | nil => simp [memberText]
  | cons second others inductionHypothesis =>
      rw [String.intercalate_cons_cons, String.toList_append, inductionHypothesis,
        String.toList_append, List.append_assoc]
      rfl

/-- The texts of the tokens of a path are its names, with points between them. -/
theorem pathSpelling_texts (head : String) (tail : List String) :
    (pathSpelling head tail).map Prod.snd = (head :: tail).intersperse "." := by
  induction tail generalizing head with
  | nil => rfl
  | cons second others inductionHypothesis =>
      rw [List.intersperse_cons_cons, ← inductionHypothesis]
      rfl

theorem isPlainSpelling_path (head : String) (tail : List String) :
    (pathSpelling head tail).all isPlainSpelling = true := by
  unfold pathSpelling memberSpelling
  rw [List.all_cons, List.all_flatMap]
  exact Bool.and_eq_true_iff.2 ⟨rfl, List.all_eq_true.2 fun _ _ => rfl⟩

/-! ## Scanning -/

section
variable {behind rest : List Char} {frames : List Frame} {spelled : List (TokenKind × String)}

/-- Members are scanned one by one, each with the point in front of it. -/
theorem scans_members {tail : List String} (members : ∀ member ∈ tail, isIdentifier member = true)
    (bracketed : Bracketed frames) (ends : EndsName rest)
    (others : Scans behind frames rest spelled) :
    EndsName (memberText tail ++ rest) ∧
      Scans behind frames (memberText tail ++ rest) (memberSpelling tail ++ spelled) := by
  induction tail with
  | nil => exact ⟨ends, others⟩
  | cons member tail inductionHypothesis =>
      obtain ⟨ends', scans⟩ := inductionHypothesis fun other later =>
        members other (List.mem_cons_of_mem _ later)
      have is := members member List.mem_cons_self
      obtain ⟨c, more, letters, starts⟩ := begins_of_isIdentifier is
      have name := Scans.name bracketed.expression (Or.inl rfl) (spellsIdentifier_of_isIdentifier is)
        ends' scans
      have whole : memberText (member :: tail) ++ rest =
          '.' :: (member.toList ++ (memberText tail ++ rest)) := by
        simp [memberText]
      rw [whole]
      refine ⟨endsName_cons (by decide) _, ?_⟩
      rw [List.nil_append, letters] at name
      rw [letters]
      exact Scans.point bracketed starts name

/-- **A path in front of a text is scanned to its names and the points between them.** -/
theorem scans_path {head : String} {tail : List String}
    (identifiers : ∀ name ∈ head :: tail, isIdentifier name = true) (bracketed : Bracketed frames)
    (ends : EndsName rest) (others : Scans behind frames rest spelled) :
    Scans behind frames (head.toList ++ (memberText tail ++ rest))
      (pathSpelling head tail ++ spelled) := by
  obtain ⟨ends', scans⟩ := scans_members
    (fun member later => identifiers member (List.mem_cons_of_mem _ later)) bracketed ends others
  exact Scans.name bracketed.expression (Or.inl rfl)
    (spellsIdentifier_of_isIdentifier (identifiers head List.mem_cons_self)) ends' scans

end

/-! ## Reading -/

inductive Members : List Token → Prop where
  | nil : Members []
  | cons {point member : Token} {others : List Token} (isPoint : isOperator "." point = true)
      (isMember : isNameToken member = true) (more : Members others) :
      Members (point :: member :: others)

theorem members_of_spelling {tail : List String}
    (identifiers : ∀ member ∈ tail, isIdentifier member = true) {tokens : List Token}
    (spelled : tokens.map Token.spelling = memberSpelling tail) : Members tokens := by
  induction tail generalizing tokens with
  | nil => exact List.map_eq_nil_iff.1 spelled ▸ .nil
  | cons member tail inductionHypothesis =>
      obtain ⟨point, tokens, rfl, isPoint, spelled⟩ := List.map_eq_cons_iff.1 spelled
      obtain ⟨name, tokens, rfl, isName, spelled⟩ := List.map_eq_cons_iff.1 spelled
      exact .cons (isOperator_of_spelling isPoint)
        (isNameToken_of_spelling (identifiers member List.mem_cons_self) isName)
        (inductionHypothesis (fun other later => identifiers other (List.mem_cons_of_mem _ later))
          spelled)

section
variable {inner : Inner} {base : Token} {members tokens rest : List Token}

/-- Members are read one by one, and then what goes on with them. -/
theorem reads_trailers_of_members (written : Members members)
    (others : ∀ fuel, tokens.length ≤ fuel → ∀ shape, ∃ shape',
      Reads (inner.trailers fuel shape) tokens shape' rest)
    {fuel : Nat} (enough : (members ++ tokens).length ≤ fuel) (shape : Shape) :
    ∃ shape', Reads (inner.trailers fuel shape) (members ++ tokens) shape' rest := by
  induction written generalizing fuel shape with
  | nil => exact others fuel enough shape
  | @cons point member members isPoint isMember _ inductionHypothesis =>
      simp only [List.cons_append, List.length_cons] at enough
      obtain ⟨fuel, rfl⟩ := Nat.exists_eq_succ_of_ne_zero (by omega : fuel ≠ 0)
      obtain ⟨shape', read⟩ := inductionHypothesis (by omega : _ ≤ fuel) .member
      exact ⟨shape', reads_trailers_of_one (reads_atTrailer (Or.inl isPoint) _)
        (reads_trailer_of_member isPoint isMember _ shape) read⟩

/-- A path is a primary. -/
theorem reads_primary_of_path (isBase : isNameToken base = true) (written : Members members)
    (ends : EndsOperand rest) :
    ∃ shape, Reads inner.primary (base :: (members ++ rest)) shape rest := by
  obtain ⟨shape, read⟩ := reads_trailers_of_members written
    (fun fuel _ shape => ⟨shape, reads_trailers_of_ends ends fuel shape⟩) (Nat.le_refl _)
    (.name base.text)
  exact ⟨shape, reads_primary_of_name isBase read⟩

/-- **A path in front of the end of an expression is an expression.** -/
theorem reads_path (isBase : isNameToken base = true) (written : Members members)
    (stops : Stops rest) :
    ∃ shape, Reads inner.expressionOf (base :: (members ++ rest)) shape rest := by
  obtain ⟨shape, read⟩ : ∃ shape, Reads inner.primary (base :: (members ++ rest)) shape rest :=
    reads_primary_of_path isBase written stops.endsOperand
  exact ⟨shape, reads_expressionOf (IsOperand.name isBase).begins stops read⟩

/-- **A call of a path is an expression**, if its arguments are read. -/
theorem reads_pathCall (isBase : isNameToken base = true) (written : Members members)
    {opening closing : Token} (isOpening : isOperator "(" opening = true)
    (isClosing : isOperator ")" closing = true)
    (arguments : ∃ places, Reads (inner.arguments true) tokens places (closing :: rest))
    (stops : Stops rest) :
    ∃ shape, Reads inner.expressionOf (base :: (members ++ opening :: tokens)) shape rest := by
  obtain ⟨places, read⟩ := arguments
  have called : ∀ fuel, (opening :: tokens).length ≤ fuel → ∀ shape, ∃ shape',
      Reads (inner.trailers fuel shape) (opening :: tokens) shape' rest := by
    intro fuel enough shape
    obtain ⟨fuel, rfl⟩ := Nat.exists_eq_succ_of_ne_zero
      (Nat.ne_of_gt (Nat.lt_of_lt_of_le (Nat.succ_pos _) enough))
    obtain ⟨shape', call⟩ := reads_trailer_of_call isOpening isClosing read shape
    exact ⟨shape', reads_trailers_of_one (reads_atTrailer (Or.inr (Or.inl isOpening)) _) call
      (reads_trailers_of_ends stops.endsOperand fuel shape')⟩
  obtain ⟨shape, trailers⟩ :=
    reads_trailers_of_members written called (Nat.le_refl _) (.name base.text)
  exact ⟨shape, reads_expressionOf (IsOperand.name isBase).begins stops
    (reads_primary_of_name isBase trailers)⟩

/-- A single argument that begins with a name and is neither named nor has a keyword. -/
theorem reads_singleArgument (reads : ReadsOperands inner) (isBase : isNameToken base = true)
    {second closing : Token} (noEquals : isOperator "=" second = false)
    (noNamed : isOperator ":=" second = false) (isClosing : isOperator ")" closing = true)
    (read : ∃ shape, Reads inner.expression (base :: second :: tokens) shape (closing :: rest)) :
    ∃ places, Reads (inner.arguments true) (base :: second :: tokens) places (closing :: rest) := by
  obtain ⟨shape, read⟩ := read
  have noOperator := (IsOperand.name isBase).begins.noOperator
  exact reads_arguments reads noOperator .nil isClosing
    (reads_position noOperator (by simp [noEquals]) (by simp [noNamed]) read)

/-- A path as the only argument. -/
theorem reads_pathArgument {depth : Nat} (isBase : isNameToken base = true)
    (written : Members members) {closing : Token} (isClosing : isOperator ")" closing = true) :
    ∃ places, Reads (Inner.arguments (.ofDepth (depth + 1)) true)
      (base :: (members ++ closing :: rest)) places (closing :: rest) := by
  have stops : Stops (closing :: rest) := stops_of_isOperator rest isClosing (by decide)
  obtain ⟨shape, read⟩ : ∃ shape, Reads (Inner.expressionOf (.ofDepth depth))
      (base :: (members ++ closing :: rest)) shape (closing :: rest) :=
    reads_path isBase written stops
  have deep : ∃ shape, Reads (Inner.expression (.ofDepth (depth + 1)))
      (base :: (members ++ closing :: rest)) shape (closing :: rest) := ⟨shape, read⟩
  cases written with
  | nil =>
      exact reads_singleArgument (readsOperands_ofDepth depth) isBase
        (isOperator_ne isClosing (by decide)) (isOperator_ne isClosing (by decide)) isClosing deep
  | cons isPoint _ _ =>
      exact reads_singleArgument (readsOperands_ofDepth depth) isBase
        (isOperator_ne isPoint (by decide)) (isOperator_ne isPoint (by decide)) isClosing deep

end

end ModuleGlue.Source
