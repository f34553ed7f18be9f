import Mathlib.Data.List.Forall2
import ModuleGlue.Expansion.Decoration
import ModuleGlue.Proofs.Directive.Changes

/-!
Contract: the history of one record of options.

A record begins empty; lists are read into it, option decorators are folded into it, and its name
is set. Any of the first two can fail in the middle, and the record then keeps what was read. Over
every history, whatever failed in it, each key is read at most once.

Main statement: `record_history`.

Owns: histories, and the changes that each operation in them makes.

Does not own: single changes.
-/

namespace ModuleGlue.Expansion

open ModuleGlue.Directive (Change Course Cursor Name Options ReadChanges)
open ModuleGlue.Source (Decorator)

/-! ## Histories -/

inductive Operation where
  /-- A list of options is read into it. -/
  | read (cursor : Cursor)
  /-- Its name is set. -/
  | setName (name : Name)
  /-- The option decorators of a list are folded into it. -/
  | fold (decorators : List Decorator)

/-- The record after an operation, also after one that failed. -/
def Operation.perform (options : Options) : Operation → Options
  | .read cursor => (options.readInto cursor).1
  | .setName name => options.setName name
  | .fold decorators => (foldOptions options decorators).1

/-- The record after some operations, which began empty. -/
def recordAfter (operations : List Operation) : Options :=
  operations.foldl Operation.perform .empty

/-- The changes that folding decorators makes: those of the option decorators, one after another, up
to where it stops. -/
inductive FoldChanges : List Decorator → List Change → Prop where
  | stopped (decorators : List Decorator) : FoldChanges decorators []
  | other {decorator : Decorator} {rest : List Decorator} {changes : List Change}
      (unnamed : ¬ decorator.isNamed optionMark = true) (more : FoldChanges rest changes) :
      FoldChanges (decorator :: rest) changes
  | mark {decorator : Decorator} {rest : List Decorator} {changes others : List Change}
      (named : decorator.isNamed optionMark = true)
      (read : ReadChanges (argumentCursor decorator (argumentOrigin decorator)).remaining changes)
      (more : FoldChanges rest others) : FoldChanges (decorator :: rest) (changes ++ others)

inductive Operation.Makes : Operation → List Change → Prop where
  | read {cursor : Cursor} {changes : List Change}
      (read : ReadChanges cursor.remaining changes) : Makes (.read cursor) changes
  | setName (name : Name) : Makes (.setName name) [.renamed name]
  | fold {decorators : List Decorator} {changes : List Change}
      (folded : FoldChanges decorators changes) : Makes (.fold decorators) changes

/-! ## Operations are made of changes -/

theorem foldOptions_course (options : Options) (decorators : List Decorator) :
    ∃ changes, FoldChanges decorators changes ∧
      Course options changes (foldOptions options decorators).1 := by
  induction decorators generalizing options with
  | nil => exact ⟨[], .stopped [], .nil options⟩
  | cons decorator rest inductionHypothesis =>
      rw [foldOptions]
      by_cases named : decorator.isNamed optionMark = true
      · rw [if_pos named]
        obtain ⟨changes, read, course⟩ := Options.readInto_course options
          (argumentCursor decorator (argumentOrigin decorator))
        split
        · rename_i record reason found
          rw [found] at course
          refine ⟨changes ++ [], .mark named read (.stopped rest), ?_⟩
          rw [List.append_nil]
          exact course
        · rename_i record next found
          rw [found] at course
          obtain ⟨others, folded, more⟩ := inductionHypothesis record
          exact ⟨changes ++ others, .mark named read folded, course.append more⟩
      · rw [if_neg named]
        obtain ⟨changes, folded, course⟩ := inductionHypothesis options
        exact ⟨changes, .other named folded, course⟩

theorem Operation.course (options : Options) (operation : Operation) :
    ∃ changes, operation.Makes changes ∧ Course options changes (operation.perform options) := by
  cases operation with
  | read cursor =>
      obtain ⟨changes, read, course⟩ := Options.readInto_course options cursor
      exact ⟨changes, .read read, course⟩
  | setName name =>
      refine ⟨_, .setName name, .cons ?_ (.nil _)⟩
      intro key impossible
      cases impossible
  | fold decorators =>
      obtain ⟨changes, folded, course⟩ := foldOptions_course options decorators
      exact ⟨changes, .fold folded, course⟩

theorem FoldChanges.not_isRenaming {decorators : List Decorator} {changes : List Change}
    (folded : FoldChanges decorators changes) : ∀ change ∈ changes, ¬ change.IsRenaming := by
  induction folded with
  | stopped => exact fun change member => nomatch member
  | other _ _ inductionHypothesis => exact inductionHypothesis
  | mark _ read _ inductionHypothesis =>
      intro change member
      rcases List.mem_append.1 member with first | later
      · exact read.not_isRenaming change first
      · exact inductionHypothesis change later

/-- An operation renames only if it sets the name. -/
theorem Operation.Makes.exists_setName {operation : Operation} {changes : List Change}
    (makes : operation.Makes changes) {change : Change} (member : change ∈ changes)
    (renames : change.IsRenaming) : ∃ name, operation = .setName name := by
  cases makes with
  | read read => exact absurd renames (read.not_isRenaming change member)
  | setName name => exact ⟨name, rfl⟩
  | fold folded => exact absurd renames (folded.not_isRenaming change member)

/-! ## Whole histories -/

theorem operations_course (options : Options) (operations : List Operation) :
    ∃ changes : List (List Change), List.Forall₂ Operation.Makes operations changes ∧
      Course options changes.flatten (operations.foldl Operation.perform options) := by
  induction operations generalizing options with
  | nil => exact ⟨[], .nil, .nil options⟩
  | cons operation rest inductionHypothesis =>
      obtain ⟨first, makes, course⟩ := operation.course options
      obtain ⟨others, makesRest, more⟩ := inductionHypothesis (operation.perform options)
      exact ⟨first :: others, .cons makes makesRest, course.append more⟩

/-- Where a change comes from. -/
theorem exists_makes_of_mem {operations : List Operation} {changes : List (List Change)}
    (makes : List.Forall₂ Operation.Makes operations changes) {change : Change}
    (member : change ∈ changes.flatten) :
    ∃ operation ∈ operations, ∃ made, operation.Makes made ∧ change ∈ made := by
  induction makes with
  | nil => cases member
  | @cons operation made _ _ here _ inductionHypothesis =>
      rw [List.flatten_cons, List.mem_append] at member
      rcases member with first | later
      · exact ⟨operation, List.mem_cons_self .., made, here, first⟩
      · obtain ⟨other, inRest, found⟩ := inductionHypothesis later
        exact ⟨other, List.mem_cons_of_mem _ inRest, found⟩

/-- **A record counts every key once, whatever is done to it and whatever fails.** Take the record
after some operations, and after some more. The keys that were counted are still counted, and every
value that is there has its key counted. A value whose key was counted is still there, unless it is
the name and the name was set. And the operations come down to changes that their tokens write, in
which no key is read twice, nor a key that was counted before. -/
theorem record_history (earlier later : List Operation) :
    (recordAfter earlier).specified <+: (recordAfter (earlier ++ later)).specified ∧
      (recordAfter (earlier ++ later)).Accounted ∧
      (∀ key ∈ (recordAfter earlier).specified,
        (key = .name → ∀ name, Operation.setName name ∉ later) →
          (recordAfter earlier).AgreeOn (recordAfter (earlier ++ later)) key) ∧
      ∃ changes : List (List Change), List.Forall₂ Operation.Makes later changes ∧
        recordAfter (earlier ++ later) =
          changes.flatten.foldl Options.changed (recordAfter earlier) ∧
        ((recordAfter earlier).specified ++ changes.flatten.filterMap Change.key?).Nodup := by
  have accounted (operations : List Operation) : (recordAfter operations).Accounted := by
    obtain ⟨changes, -, course⟩ := operations_course .empty operations
    exact course.accounted Options.empty_accounted
  obtain ⟨changes, makes, course⟩ := operations_course (recordAfter earlier) later
  have whole : recordAfter (earlier ++ later) =
      later.foldl Operation.perform (recordAfter earlier) := List.foldl_append
  rw [← whole] at course
  refine ⟨course.specified_prefix, accounted _, ?_, changes, makes, course.eq_foldl,
    course.distinct (accounted earlier)⟩
  intro key counted unset
  apply course.agrees counted
  intro isName change member renames
  obtain ⟨operation, inLater, made, here, inMade⟩ := exists_makes_of_mem makes member
  obtain ⟨name, rfl⟩ := here.exists_setName inMade renames
  exact unset isName name inLater

end ModuleGlue.Expansion
