import Mathlib.Data.List.Basic
import ModuleGlue.Toml.Document

/-!
Contract: lists in lists.

A document with lists in lists is in order however deep they are. A reader gives up at it exactly if
its limits refuse a list at some depth.

Main statements: `parse_nestedLists` and `parse_nestedLists_of_refused`.

Owns: these documents.

Does not own: limits of other kinds.
-/

namespace ModuleGlue.Toml

open ModuleGlue.Settings (Table Value)

/-- Lists in one another, the outermost of which holds `depth` others, and a text behind them. -/
def openLists : Nat → List Char → List Char
  | 0, behind => '[' :: ']' :: behind
  | depth + 1, behind => '[' :: openLists depth (']' :: behind)

def nestedList : Nat → Value
  | 0 => .list []
  | depth + 1 => .list [nestedList depth]

/-- A document with such lists, and nothing else. -/
def nestedLists (depth : Nat) : List Char := 'x' :: '=' :: openLists depth []

section
variable {limits : Limits} {around : List Bracket}

theorem exists_openLists (depth : Nat) (behind : List Char) :
    ∃ inside, openLists depth behind = '[' :: inside := by
  cases depth with
  | zero => exact ⟨_, rfl⟩
  | succ depth => exact ⟨_, rfl⟩

theorem length_openLists (depth : Nat) (behind : List Char) :
    (openLists depth behind).length = 2 * (depth + 1) + behind.length := by
  induction depth generalizing behind with
  | zero =>
      unfold openLists
      rw [List.length_cons, List.length_cons]
      omega
  | succ depth inductionHypothesis =>
      unfold openLists
      rw [List.length_cons, inductionHypothesis, List.length_cons]
      omega

/-- In one more list, a bracket is one further inside. -/
theorem replicate_append_cons (inside : Nat) :
    List.replicate inside Bracket.list ++ .list :: around =
      List.replicate (inside + 1) Bracket.list ++ around := by
  rw [List.replicate_succ', List.append_assoc]
  rfl

/-- The value that begins with a bracket is the list of its items, if it is not refused. -/
theorem readValue_list (fuel : Nat) (text : List Char) :
    readValue limits (fuel + 1) around ('[' :: text) =
      if limits.nesting around ('[' :: text) then do
        let (items, after) ← readItems limits fuel (.list :: around) text
        return (.list items, after)
      else .error (.tooMuch .nesting) := by
  conv_lhs => unfold readValue
  rfl

/-- Where a bracket begins an item, this item is read first. -/
theorem readItems_cons (fuel : Nat) (text : List Char) :
    readItems limits (fuel + 1) around ('[' :: text) = (do
      let (first, rest) ← readValue limits fuel around ('[' :: text)
      match ← required (skipLayout (rest.length + 1) rest) with
      | ']' :: after => return ([first], after)
      | ',' :: after =>
        let (others, final) ← readItems limits fuel around after
        return (first :: others, final)
      | _ => .error .malformed) := by
  conv_lhs => unfold readItems
  rfl

/-- Lists in lists are read to the end if none is refused: by induction on the depth, and what is
behind the inner lists begins with the brackets that close the outer ones. -/
theorem readValue_openLists {depth fuel : Nat} (enough : 2 * (depth + 1) ≤ fuel)
    (allowed : ∀ inside ≤ depth, ∀ text,
      limits.nesting (List.replicate inside .list ++ around) text = true) (behind : List Char) :
    readValue limits fuel around (openLists depth behind) = .ok (nestedList depth, behind) := by
  have here : ∀ text, limits.nesting around text = true := allowed 0 (Nat.zero_le depth)
  induction depth generalizing fuel around behind with
  | zero =>
      obtain ⟨fuel, rfl⟩ : ∃ less, fuel = less + 2 := ⟨fuel - 2, by omega⟩
      unfold openLists
      rw [readValue_list, if_pos (here _)]
      rfl
  | succ depth inductionHypothesis =>
      obtain ⟨fuel, rfl⟩ : ∃ less, fuel = less + 2 := ⟨fuel - 2, by omega⟩
      have allowed' : ∀ inside ≤ depth, ∀ text,
          limits.nesting (List.replicate inside .list ++ .list :: around) text = true := by
        intro inside within text
        rw [replicate_append_cons]
        exact allowed (inside + 1) (Nat.succ_le_succ within) text
      have inner : readValue limits fuel (.list :: around) (openLists depth (']' :: behind)) =
          .ok (nestedList depth, ']' :: behind) :=
        inductionHypothesis (by omega) allowed' (']' :: behind) (allowed' 0 (Nat.zero_le depth))
      obtain ⟨inside, spelled⟩ := exists_openLists depth (']' :: behind)
      unfold openLists
      rw [readValue_list, if_pos (here _), spelled, readItems_cons, ← spelled, inner]
      rfl

/-- Reading lists in lists ends at the first that is refused. -/
theorem readValue_openLists_of_refused {depth fuel inside : Nat} (enough : 2 * (depth + 1) ≤ fuel)
    (within : inside ≤ depth)
    (refused : ∀ text, limits.nesting (List.replicate inside .list ++ around) text = false)
    (behind : List Char) :
    readValue limits fuel around (openLists depth behind) = .error (.tooMuch .nesting) := by
  induction inside generalizing depth fuel around behind with
  | zero =>
      obtain ⟨fuel, rfl⟩ : ∃ less, fuel = less + 1 := ⟨fuel - 1, by omega⟩
      obtain ⟨inside, spelled⟩ := exists_openLists depth behind
      have here : ∀ text, limits.nesting around text = false := refused
      rw [spelled, readValue_list, here]
      rfl
  | succ inside inductionHypothesis =>
      obtain ⟨depth, rfl⟩ : ∃ less, depth = less + 1 := ⟨depth - 1, by omega⟩
      obtain ⟨fuel, rfl⟩ : ∃ less, fuel = less + 2 := ⟨fuel - 2, by omega⟩
      have inner : readValue limits fuel (.list :: around) (openLists depth (']' :: behind)) =
          .error (.tooMuch .nesting) :=
        inductionHypothesis (by omega) (by omega)
          (fun text => by rw [replicate_append_cons, refused]) (']' :: behind)
      obtain ⟨inside, spelled⟩ := exists_openLists depth (']' :: behind)
      unfold openLists
      rw [readValue_list, spelled, readItems_cons, ← spelled, inner]
      split <;> rfl

/-! ## Documents -/

theorem unifyBreaks_openLists (depth : Nat) (behind : List Char) :
    unifyBreaks (openLists depth behind) = openLists depth (unifyBreaks behind) := by
  induction depth generalizing behind with
  | zero => rfl
  | succ depth inductionHypothesis =>
      unfold openLists
      rw [← show unifyBreaks (']' :: behind) = ']' :: unifyBreaks behind from rfl,
        ← inductionHypothesis]
      rfl

/-- What is read of the line is what is read of its value. -/
theorem readLine_nestedLists (limits : Limits) (depth : Nat) :
    readLine limits .start (nestedLists depth) = (do
      let (value, after) ←
        readValue limits (2 * (nestedLists depth).length + 1) [] (openLists depth [])
      return (← required (Progress.start.assign ["x"] value), after)) := by
  obtain ⟨inside, spelled⟩ := exists_openLists depth []
  unfold nestedLists
  rw [spelled]
  rfl

theorem readLines_nestedLists (limits : Limits) (fuel depth : Nat) :
    readLines limits (fuel + 1) .start (nestedLists depth) = (do
      let (progress, rest) ← readLine limits .start (nestedLists depth)
      match ← required (skipComment (skipBlanks rest)) with
      | [] => return progress
      | '\n' :: after => readLines limits fuel progress after
      | _ => .error .malformed) := by
  conv_lhs => unfold readLines
  rfl

/-- What is read of the document is what is read of its lines, all of which is one value. -/
theorem parse_nestedLists_eq (limits : Limits) (depth : Nat) :
    parse limits (String.ofList (nestedLists depth)) = (do
      let progress ← readLines limits ((nestedLists depth).length + 1) .start (nestedLists depth)
      return progress.table) := by
  have unified : unifyBreaks (nestedLists depth) = nestedLists depth := by
    unfold nestedLists
    conv_rhs => rw [show ([] : List Char) = unifyBreaks [] from rfl, ← unifyBreaks_openLists]
    rfl
  unfold parse
  rw [String.toList_ofList, unified]

theorem enough_nestedLists (depth : Nat) :
    2 * (depth + 1) ≤ 2 * (nestedLists depth).length + 1 := by
  unfold nestedLists
  rw [List.length_cons, List.length_cons, length_openLists]
  omega

/-- **A document of lists in lists is read** if none of them is refused. -/
theorem parse_nestedLists {limits : Limits} {depth : Nat}
    (allowed : ∀ inside ≤ depth, ∀ text,
      limits.nesting (List.replicate inside .list) text = true) :
    parse limits (String.ofList (nestedLists depth)) = .ok [("x", nestedList depth)] := by
  have allowed' : ∀ inside ≤ depth, ∀ text,
      limits.nesting (List.replicate inside .list ++ []) text = true := by
    intro inside within text
    rw [List.append_nil, allowed inside within]
  have read := readValue_openLists (enough_nestedLists depth) allowed' []
  rw [parse_nestedLists_eq, readLines_nestedLists, readLine_nestedLists, read]
  rfl

/-- **Reading a document of lists in lists ends** at the first that is refused. -/
theorem parse_nestedLists_of_refused {limits : Limits} {depth inside : Nat}
    (within : inside ≤ depth)
    (refused : ∀ text, limits.nesting (List.replicate inside .list) text = false) :
    parse limits (String.ofList (nestedLists depth)) = .error (.tooMuch .nesting) := by
  have refused' : ∀ text, limits.nesting (List.replicate inside .list ++ []) text = false := by
    intro text
    rw [List.append_nil, refused]
  have read := readValue_openLists_of_refused (enough_nestedLists depth) within refused' []
  rw [parse_nestedLists_eq, readLines_nestedLists, readLine_nestedLists, read]
  rfl

end

/-- The standard limits allow less than four hundred and ninety lists around a value. -/
theorem standard_nesting_lists (inside : Nat) (text : List Char) :
    Limits.standard.nesting (List.replicate inside .list) text = decide (inside < 490) := by
  unfold Limits.standard
  dsimp only
  rw [List.count_replicate_self, List.count_replicate, if_neg (by decide), decide_eq_decide]
  omega

end ModuleGlue.Toml
