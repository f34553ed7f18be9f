import ModuleGlue.Source.Tree

/-!
Contract: the functions in a tree.

Owns: all functions of a tree, at any depth, in the order in which they end.

Does not own: what any of them is for.
-/

namespace ModuleGlue.Source

mutual

/-- The functions in a statement, each behind those in its body. -/
def Statement.functions : Statement → List Function
  | .line _ _ _ => []
  | .function head signature body => body.functions ++ [⟨head, signature, body⟩]
  | .compound _ _ body clauses => body.functions ++ Clause.allFunctions clauses

def Statement.allFunctions : List Statement → List Function
  | [] => []
  | statement :: rest => statement.functions ++ Statement.allFunctions rest

def Clause.functions : Clause → List Function
  | .mk _ _ body => body.functions

def Clause.allFunctions : List Clause → List Function
  | [] => []
  | clause :: rest => clause.functions ++ Clause.allFunctions rest

def Suite.functions : Suite → List Function
  | .inline _ _ => []
  | .block _ _ body _ => Statement.allFunctions body

end

theorem Statement.allFunctions_eq_flatMap (statements : List Statement) :
    Statement.allFunctions statements = statements.flatMap Statement.functions := by
  induction statements with
  | nil => rfl
  | cons statement rest inductionHypothesis =>
      rw [Statement.allFunctions, inductionHypothesis, List.flatMap_cons]

theorem Statement.allFunctions_append (first second : List Statement) :
    Statement.allFunctions (first ++ second) =
      Statement.allFunctions first ++ Statement.allFunctions second := by
  simp only [Statement.allFunctions_eq_flatMap, List.flatMap_append]

@[simp] theorem Function.functions_toStatement (function : Function) :
    function.toStatement.functions = function.body.functions ++ [function] := rfl

/-- A statement that is a function is that function written as a statement. -/
theorem Statement.eq_toStatement {statement : Statement} {function : Function}
    (is : statement.function? = some function) : statement = function.toStatement := by
  cases statement with
  | line leading parts ending => cases is
  | function head signature body =>
      obtain rfl := Option.some.inj is
      rfl
  | compound head header body clauses => cases is

/-! ## Functions in functions -/

section
variable {function : Function}

mutual

/-- The functions in the body of a function are among those of any statement around it. -/
theorem Statement.inner_subset : ∀ statement : Statement, function ∈ statement.functions →
    function.body.functions ⊆ statement.functions
  | .line _ _ _, member => nomatch member
  | .function head signature body, member => by
      refine List.Subset.trans ?_ (List.subset_append_left _ _)
      rcases List.mem_append.1 member with inside | same
      · exact Suite.inner_subset body inside
      · rw [List.mem_singleton.1 same]
        exact List.Subset.refl _
  | .compound _ _ body clauses, member => by
      rcases List.mem_append.1 member with inside | behind
      · exact List.Subset.trans (Suite.inner_subset body inside) (List.subset_append_left _ _)
      · exact List.Subset.trans (Clause.inner_subset clauses behind) (List.subset_append_right _ _)

theorem Statement.allInner_subset : ∀ statements : List Statement,
    function ∈ Statement.allFunctions statements →
    function.body.functions ⊆ Statement.allFunctions statements
  | [], member => nomatch member
  | statement :: rest, member => by
      rcases List.mem_append.1 member with first | others
      · exact List.Subset.trans (Statement.inner_subset statement first)
            (List.subset_append_left _ _)
      · exact List.Subset.trans (Statement.allInner_subset rest others)
            (List.subset_append_right _ _)

theorem Clause.inner_subset : ∀ clauses : List Clause, function ∈ Clause.allFunctions clauses →
    function.body.functions ⊆ Clause.allFunctions clauses
  | [], member => nomatch member
  | .mk _ _ body :: rest, member => by
      rcases List.mem_append.1 member with first | others
      · exact List.Subset.trans (Suite.inner_subset body first) (List.subset_append_left _ _)
      · exact List.Subset.trans (Clause.inner_subset rest others) (List.subset_append_right _ _)

theorem Suite.inner_subset : ∀ suite : Suite, function ∈ suite.functions →
    function.body.functions ⊆ suite.functions
  | .inline _ _, member => nomatch member
  | .block _ _ body _, member => Statement.allInner_subset body member

end

end

end ModuleGlue.Source
