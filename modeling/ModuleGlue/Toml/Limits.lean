import ModuleGlue.Toml.Lexical

/-!
Contract: how far a reader of the settings format goes, and how reading can fail.

The format bounds neither the digits of a number nor the nesting of values, but a reader does: a
document that is in order can still be too much for it. Where its limits are depends on the machine
and on the calls in which the reader itself is nested, so reading takes them from its caller.

Owns: limits, and the two ways in which reading fails.
-/

namespace ModuleGlue.Toml

/-- What is beyond the limits of a reader. -/
inductive Excess where
  /-- A decimal number with these digits. Only an integer has no digits, not even none, behind a
  point. -/
  | digits (whole : List Char) (fraction : Option (List Char))
  | nesting
deriving DecidableEq, Repr

inductive Fault where
  | malformed
  | tooMuch (excess : Excess)
deriving DecidableEq, Repr

inductive Bracket where
  | list
  | table
deriving DecidableEq, Repr

/-- What a reader takes on. -/
structure Limits where
  /-- Is a decimal number read that has these digits before and behind its point? An integer has
  none behind it. -/
  number : List Char → Option (List Char) → Bool
  /-- Is a value read that stands in these brackets, the innermost first, and begins the text? -/
  nesting : List Bracket → List Char → Bool

def Limits.unlimited : Limits := ⟨fun _ _ => true, fun _ _ => true⟩

/-- The limits of a reader that is called from few others and may nest about a thousand calls. -/
def Limits.standard : Limits where
  number whole fraction :=
    match fraction with
    | none => whole.length ≤ 4300
    | some digits =>
      ((whole ++ digits).dropWhile (· == '0')).length ≤ 1000000000 && digits.length ≤ 1000000000
  -- The reader calls itself through one function for a list, and through two for a table.
  nesting around _ := 2 * around.count .list + 3 * around.count .table < 980

/-! ## Readings that can fail in two ways -/

/-- A reading of the head of a text gives a value and the rest, or a reason for having none. -/
abbrev Read (α : Type) := List Char → Except Fault (α × List Char)

def required {α : Type} : Option α → Except Fault α
  | some found => .ok found
  | none => .error .malformed

end ModuleGlue.Toml
