/-!
Contract: numbers in hexadecimal digits.

Owns: digits and their values, and numbers of a fixed width.

Main statement: `hexValue?_hexDigit` (a digit that was written has the value it was written for).
-/

namespace ModuleGlue.Text

/-- The lower-case hexadecimal digit of a number below 16. -/
def hexDigit (value : Nat) : Char :=
  if value < 10 then Char.ofNat (48 + value) else Char.ofNat (87 + value)

/-- The last `width` hexadecimal digits of a number. -/
def hexDigits : Nat → Nat → List Char
  | 0, _ => []
  | width + 1, value => hexDigits width (value / 16) ++ [hexDigit (value % 16)]

def hexValue? (c : Char) : Option Nat :=
  if '0' ≤ c ∧ c ≤ '9' then some (c.toNat - 48)
  else if 'a' ≤ c ∧ c ≤ 'f' then some (c.toNat - 87)
  else if 'A' ≤ c ∧ c ≤ 'F' then some (c.toNat - 55)
  else none

theorem hexValue?_hexDigit {value : Nat} (small : value < 16) :
    hexValue? (hexDigit value) = some value := by
  have all : ∀ digit : Fin 16, hexValue? (hexDigit digit.val) = some digit.val := by decide
  exact all ⟨value, small⟩

/-- The number that exactly `width` hexadecimal digits spell, and the text after them. -/
def readHex : Nat → Nat → List Char → Option (Nat × List Char)
  | 0, value, text => some (value, text)
  | _ + 1, _, [] => none
  | width + 1, value, c :: rest =>
    (hexValue? c).bind fun digit => readHex width (value * 16 + digit) rest

end ModuleGlue.Text
