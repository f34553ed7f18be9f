/-!
Contract: numbers with a floating point, as machines hold them.

A double counts units, of which it holds less than 2^53; a unit is a power of two, and none is
smaller than 2^-1074. A number with a point is rounded to the nearest double. So a number that is
not whole can stand for one that is, and a number too large stands for an infinite one.

Owns: doubles, rounding to them, and which of them are whole.

Does not own: how numbers are spelled.
-/

namespace ModuleGlue

/-- A number of sixty-four bits. -/
inductive Double where
  /-- As many units as `count`; a unit is two to the power of `unit`. -/
  | finite (isNegative : Bool) (count : Nat) (unit : Int)
  | infinite (isNegative : Bool)
  | undefined
deriving DecidableEq, Repr

namespace Double

def zero (isNegative : Bool) : Double := .finite isNegative 0 0

def whole? : Double → Option Int
  | .finite isNegative count unit =>
    let ones := count * Nat.pow 2 unit.toNat
    let parts := Nat.pow 2 (-unit).toNat
    if ones % parts = 0 then
      let size := ones / parts
      some (if isNegative then -(size : Int) else size)
    else none
  | _ => none

/-! ## Rounding -/

/-- The whole number nearest to a fraction; of two that are equally near, the even one. -/
def nearest (numerator denominator : Nat) : Nat :=
  let below := numerator / denominator
  let excess := 2 * (numerator % denominator)
  if excess < denominator || excess = denominator && below % 2 = 0 then below else below + 1

/-- Numerator and denominator of a fraction counted in units of two to the given power. -/
def inUnits (unit : Int) (numerator denominator : Nat) : Nat × Nat :=
  (numerator * Nat.pow 2 (-unit).toNat, denominator * Nat.pow 2 unit.toNat)

/-- The largest power of two that a positive fraction reaches, by its exponent. -/
def magnitude (numerator denominator : Nat) : Int :=
  let estimate : Int := numerator.log2 - denominator.log2
  let (scaled, one) := inUnits estimate numerator denominator
  if one ≤ scaled then estimate else estimate - 1

/-- The double nearest to a positive fraction. -/
def ofFraction (isNegative : Bool) (numerator denominator : Nat) : Double :=
  let unit := max (magnitude numerator denominator - 52) (-1074)
  let (scaled, one) := inUnits unit numerator denominator
  let count := nearest scaled one
  -- Rounding up can give 2^53 units; only beyond the largest unit is that too many.
  if 971 < unit || unit = 971 && Nat.pow 2 53 ≤ count then .infinite isNegative
  else .finite isNegative count unit

/-- The double nearest to a number times a power of ten. -/
def ofDecimal (isNegative : Bool) (number : Nat) (exponent : Int) : Double :=
  ofFraction isNegative (number * Nat.pow 10 exponent.toNat) (Nat.pow 10 (-exponent).toNat)

end Double

end ModuleGlue
