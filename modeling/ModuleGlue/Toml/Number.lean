import ModuleGlue.Settings.Basic
import ModuleGlue.Toml.Limits

/-!
Contract: numbers, dates and times of the settings format.

Owns: their spelling, and the value of numbers.
-/

namespace ModuleGlue.Toml

open ModuleGlue.Settings (Value)
open ModuleGlue.Text (hexValue?)

/-! ## Digits -/

/-- Digits with single underscores between them: the digits, without the underscores. -/
def scanDigits (isDigit : Char → Bool) : List Char → List Char × List Char
  | '_' :: c :: rest =>
    if isDigit c then
      let (more, final) := scanDigits isDigit rest
      (c :: more, final)
    else ([], '_' :: c :: rest)
  | c :: rest =>
    if isDigit c then
      let (more, final) := scanDigits isDigit rest
      (c :: more, final)
    else ([], c :: rest)
  | [] => ([], [])

/-- Digits that start with a digit; at least one. -/
def scanSomeDigits (isDigit : Char → Bool) : Scan (List Char)
  | c :: rest => if isDigit c then some (scanDigits isDigit (c :: rest)) else none
  | [] => none

def digitsValue (base : Nat) (digits : List Char) : Nat :=
  digits.foldl (fun value c => value * base + (hexValue? c).getD 0) 0

/-- The double for a decimal number, given its digits and how many of them stand before the point.
Numbers far out of the range of doubles are not computed. -/
def doubleOf (isNegative : Bool) (digits : List Char) (point : Int) : Double :=
  let significant := digits.dropWhile (· == '0')
  let place := point - (digits.length - significant.length)
  if significant.isEmpty || place < -400 then .zero isNegative
  else if 400 < place then .infinite isNegative
  else .ofDecimal isNegative (digitsValue 10 significant) (place - significant.length)

/-! ## Numbers -/

/-- A number to the base that its second character announces. -/
def scanBased : Scan Value
  | '0' :: 'x' :: rest => based 16 (fun c => (hexValue? c).isSome) rest
  | '0' :: 'o' :: rest => based 8 (fun c => '0' ≤ c && c ≤ '7') rest
  | '0' :: 'b' :: rest => based 2 (fun c => c == '0' || c == '1') rest
  | _ => none
where
  based (base : Nat) (isDigit : Char → Bool) (text : List Char) : Option (Value × List Char) :=
    (scanSomeDigits isDigit text).map fun (digits, rest) =>
      (.integer (digitsValue base digits), rest)

/-- A sign, if there is one: whether it is negative, and the rest. -/
def scanSign : List Char → Bool × List Char
  | '-' :: rest => (true, rest)
  | '+' :: rest => (false, rest)
  | text => (false, text)

/-- The whole part of a decimal number. It is zero, or does not begin with zero. -/
def scanWhole : Scan (List Char)
  | '0' :: rest => some (['0'], rest)
  | text => scanSomeDigits Char.isDigit text

/-- The digits behind a point, if a point with digits follows. -/
def scanFraction (text : List Char) : Option (List Char) × List Char :=
  match text with
  | '.' :: rest =>
    match scanSomeDigits Char.isDigit rest with
    | some (digits, final) => (some digits, final)
    | none => (none, text)
  | _ => (none, text)

def scanExponent (text : List Char) : Option Int × List Char :=
  match text with
  | c :: rest =>
    if c = 'e' || c = 'E' then
      let (negative, unsigned) := scanSign rest
      match scanSomeDigits Char.isDigit unsigned with
      | some (digits, final) =>
        let size : Int := digitsValue 10 digits
        (some (if negative then -size else size), final)
      | none => (none, text)
    else (none, text)
  | [] => (none, text)

structure Decimal where
  isNegative : Bool
  whole : List Char
  fraction : Option (List Char)
  exponent : Option Int

def scanDecimal : Scan Decimal := fun text =>
  let (isNegative, unsigned) := scanSign text
  (scanWhole unsigned).map fun (whole, afterWhole) =>
    let (fraction, afterFraction) := scanFraction afterWhole
    let (exponent, rest) := scanExponent afterFraction
    (⟨isNegative, whole, fraction, exponent⟩, rest)

namespace Decimal

/-- The digits behind the point. A number with an exponent is no integer, so it has some digits
there, if only none. -/
def fraction? (decimal : Decimal) : Option (List Char) :=
  decimal.fraction <|> decimal.exponent.map fun _ => []

def value (decimal : Decimal) : Value :=
  match decimal.fraction? with
  | none =>
    let size : Int := digitsValue 10 decimal.whole
    .integer (if decimal.isNegative then -size else size)
  | some digits =>
    .real (doubleOf decimal.isNegative (decimal.whole ++ digits)
      (decimal.whole.length + decimal.exponent.getD 0))

def read (limits : Limits) (decimal : Decimal) : Except Fault Value :=
  if limits.number decimal.whole decimal.fraction? then .ok decimal.value
  else .error (.tooMuch (.digits decimal.whole decimal.fraction?))

end Decimal

def scanSpecial : Scan Value := fun text =>
  let (isNegative, unsigned) := scanSign text
  match unsigned with
  | 'i' :: 'n' :: 'f' :: rest => some (.real (.infinite isNegative), rest)
  | 'n' :: 'a' :: 'n' :: rest => some (.real .undefined, rest)
  | _ => none

def readNumber (limits : Limits) : Read Value := fun text =>
  match scanBased text with
  | some found => .ok found
  | none =>
    match scanDecimal text with
    | some (decimal, rest) => return (← decimal.read limits, rest)
    | none => required (scanSpecial text)

/-! ## Dates and times -/

/-- Exactly `count` decimal digits: the number that they spell. -/
def scanFixed (count value : Nat) : Scan Nat := fun text =>
  match count, text with
  | 0, rest => some (value, rest)
  | _ + 1, [] => none
  | count + 1, c :: rest =>
    if c.isDigit then scanFixed count (value * 10 + (c.toNat - 48)) rest else none

def skipChar (expected : Char) : List Char → Option (List Char)
  | c :: rest => if c = expected then some rest else none
  | [] => none

/-- A time of day; digits behind a point belong to its seconds. -/
def skipTime (text : List Char) : Option (List Char) := do
  let (hour, afterHour) ← scanFixed 2 0 text
  let (minute, afterMinute) ← scanFixed 2 0 (← skipChar ':' afterHour)
  let (second, rest) ← scanFixed 2 0 (← skipChar ':' afterMinute)
  guard (hour < 24 && minute < 60 && second < 60)
  match rest with
  | '.' :: c :: after =>
    return if c.isDigit then after.dropWhile Char.isDigit else rest
  | _ => return rest

/-- The distance of a time from the standard one, if one follows. -/
def skipOffset (text : List Char) : List Char :=
  match text with
  | c :: rest =>
    if c = 'Z' || c = 'z' then rest
    else if c = '+' || c = '-' then
      let distance : Option (List Char) := do
        let (hour, afterHour) ← scanFixed 2 0 rest
        let (minute, final) ← scanFixed 2 0 (← skipChar ':' afterHour)
        guard (hour < 24 && minute < 60)
        return final
      distance.getD text
    else text
  | [] => text

def daysOfMonth (year month : Nat) : Nat :=
  if month = 2 then
    if year % 4 = 0 && (year % 100 != 0 || year % 400 = 0) then 29 else 28
  else if month = 4 || month = 6 || month = 9 || month = 11 then 30
  else 31

/-- The year, the month and the day of a date; the day is not larger than any month allows. -/
def scanDate (text : List Char) : Option ((Nat × Nat × Nat) × List Char) := do
  let (year, afterYear) ← scanFixed 4 0 text
  let (month, afterMonth) ← scanFixed 2 0 (← skipChar '-' afterYear)
  let (day, rest) ← scanFixed 2 0 (← skipChar '-' afterMonth)
  guard (1 ≤ month && month ≤ 12 && 1 ≤ day && day ≤ 31)
  return ((year, month, day), rest)

/-- The text behind a date that a time may follow, in place of a blank or a letter. -/
def skipTimeOfDate (text : List Char) : List Char :=
  match text with
  | c :: rest =>
    if c = 'T' || c = 't' || c = ' ' then
      match skipTime rest with
      | some final => skipOffset final
      | none => text
    else text
  | [] => text

def spelled (text rest : List Char) : String :=
  String.ofList (text.take (text.length - rest.length))

/-- A date, a time, or both, or a number. What has the form of a date must be one. -/
def readScalar (limits : Limits) : Read Value := fun text =>
  match scanDate text with
  | some ((year, month, day), afterDate) =>
    let rest := skipTimeOfDate afterDate
    if 1 ≤ year && day ≤ daysOfMonth year month then .ok (.moment (spelled text rest), rest)
    else .error .malformed
  | none =>
    match skipTime text with
    | some rest => .ok (.moment (spelled text rest), rest)
    | none => readNumber limits text

end ModuleGlue.Toml
