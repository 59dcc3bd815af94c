import CsvSelect.Text.Lexical
import CsvSelect.Toml.Scan

/-!
# Numbers, dates and times in TOML

An integer is written in base ten, or in base two, eight or sixteen under a mark; single underscores
may stand between digits. It must fit into 64 bits with a sign. A fraction or an exponent makes a
number a float, which must not round to infinity. A date must exist in the calendar.

An exponent takes no further digits once it has reached `exponentLimit`. This shows only where the
mantissa has so many digits that they weigh against the exponent.
-/

namespace CsvSelect.Toml

open Text Scan

/-- The digits without the underscores, which may only stand one by one between digits. -/
def withoutUnderscores? (isDigit : Char → Bool) : List Char → Option (List Char)
  | [] => none
  | [digit] => if isDigit digit then some [digit] else none
  | digit :: '_' :: rest =>
      if isDigit digit then (withoutUnderscores? isDigit rest).map (digit :: ·) else none
  | digit :: rest =>
      if isDigit digit then (withoutUnderscores? isDigit rest).map (digit :: ·) else none

/-- Digits with underscores between them, without the underscores. -/
def digits (isDigit : Char → Bool) : Scan (List Char) := do
  let run ← takeWhile fun character => isDigit character || character == '_'
  match withoutUnderscores? isDigit run with
  | some digits => return digits
  | none => wanted "digit"

/-- The value of digits in a base. -/
def valueOf (base : Nat) (digits : List Char) : Nat :=
  digits.foldl (fun value digit => base * value + (hexDigit? digit).getD 0) 0

/-- The value of digits in a base, if it does not exceed the limit. -/
def valueUpTo? (limit base : Nat) (digits : List Char) : Option Nat :=
  digits.foldlM (fun value digit =>
    let longer := base * value + (hexDigit? digit).getD 0
    if longer ≤ limit then some longer else none) 0

/-- The integer of these digits behind a sign, which must fit into 64 bits. -/
def integer (sign : Option Char) (base : Nat) (digits : List Char) : Scan Node :=
  let value? :=
    if sign == some '-' then
      (valueUpTo? integerMin.natAbs base digits).map fun magnitude => -(magnitude : Int)
    else (valueUpTo? integerMax.natAbs base digits).map Int.ofNat
  match value? with
  | some value => return .integer value
  | none => throw .numberOutOfRange

/-- The character is a digit in this base. -/
def isDigitOf (base : Nat) (character : Char) : Bool :=
  (hexDigit? character).any (· < base)

/-- A sign, if it comes next: minus, and whether there was any. -/
def sign? : Scan (Option Char) := do
  if ← accept "-" then return some '-'
  else if ← accept "+" then return some '+'
  else return none

/-- The digits before a fraction or exponent, which begin with zero only if they are one zero. -/
def wholeDigits : Scan (List Char) := do
  let whole ← digits Char.isDigit
  if whole.head? == some '0' && whole.length != 1 then wanted "digit" else return whole

/--
The least number that rounds to infinity as a float: it lies halfway between the greatest float and
the next power of two.
-/
def leastInfinite : Nat := Nat.pow 2 1024 - Nat.pow 2 970

/-- The number of digits of `leastInfinite`. -/
def infiniteLength : Nat := 309

theorem leastInfinite_lt_pow_infiniteLength :
    Nat.pow 10 (infiniteLength - 1) ≤ leastInfinite ∧
      leastInfinite < Nat.pow 10 infiniteLength := by
  decide +kernel

/--
The number with these digits, of which the last stands for this power of ten, rounds to infinity as
a float. Digits behind the point cannot decide this, because `leastInfinite` is whole.
-/
def overflows (digits : List Char) (power : Int) : Bool :=
  let significant := digits.dropWhile (· == '0')
  let wholeLength := significant.length + power
  if significant.isEmpty || wholeLength < infiniteLength then false
  else if infiniteLength < wholeLength then true
  else
    let whole := (significant ++ List.replicate infiniteLength '0').take infiniteLength
    leastInfinite ≤ valueOf 10 whole

/-- The value from which on an exponent takes no further digits. -/
def exponentLimit : Nat := 65536

/-- The value of the digits of an exponent, of which those behind the limit do not count. -/
def exponentOf (digits : List Char) : Nat :=
  digits.foldl (fun value digit =>
    if value < exponentLimit then 10 * value + (hexDigit? digit).getD 0 else value) 0

/-- The digits behind a point; without a point, none. -/
def fractionDigits : Scan (List Char) := do
  if ← accept "." then digits Char.isDigit else return []

/-- The value of an exponent, if there is one. -/
def exponentValue? : Scan (Option Int) := do
  if ← acceptAny ['e', 'E'] then
    let sign ← sign?
    let value : Int := exponentOf (← digits Char.isDigit)
    return some (if sign == some '-' then -value else value)
  else return none

/-- An integer in base ten, or a float, behind a sign. -/
def decimal (sign : Option Char) : Scan Node := do
  let whole ← wholeDigits
  let fraction ← fractionDigits
  let exponent ← exponentValue?
  if fraction.isEmpty && exponent.isNone then integer sign 10 whole
  else if sign != some '-' &&
      overflows (whole ++ fraction) (exponent.getD 0 - fraction.length) then
    throw .numberOutOfRange
  else return .float

/-- An integer in any base, or a float. -/
def number : Scan Node := do
  if ← accept "0x" then integer none 16 (← digits (isDigitOf 16))
  else if ← accept "0o" then integer none 8 (← digits (isDigitOf 8))
  else if ← accept "0b" then integer none 2 (← digits (isDigitOf 2))
  else
    let sign ← sign?
    if ← accept "inf" then return .float
    else if ← accept "nan" then return .float
    else decimal sign

/-- The value of so many digits, which must lie between these bounds. -/
def fixedDigits (count least greatest : Nat) : Scan Nat := do
  let run := (← get).take count
  let value := valueOf 10 run
  if run.length = count && run.all Char.isDigit && least ≤ value && value ≤ greatest then
    skip count
    return value
  else wanted "date or time"

/-- The number of days in a month. -/
def daysInMonth (year month : Nat) : Nat :=
  if month = 2 then
    if year % 4 = 0 && (year % 100 != 0 || year % 400 = 0) then 29 else 28
  else if month = 4 || month = 6 || month = 9 || month = 11 then 30
  else 31

/-- A date that exists in the calendar. -/
def date : Scan Unit := do
  let year ← fixedDigits 4 0 9999
  expect "-"
  let month ← fixedDigits 2 1 12
  expect "-"
  let _ ← fixedDigits 2 1 (daysInMonth year month)

/-- A time of day; a leap second may be the sixtieth. -/
def time : Scan Unit := do
  let _ ← fixedDigits 2 0 23
  expect ":"
  let _ ← fixedDigits 2 0 59
  expect ":"
  let _ ← fixedDigits 2 0 60
  if ← accept "." then
    let fraction ← takeWhile Char.isDigit
    if fraction.isEmpty then wanted "digit"

/-- The offset of a time from universal time, if there is one. -/
def offset : Scan Unit := do
  unless ← acceptAny ['Z', 'z'] do
    if ← acceptAny ['+', '-'] then
      let _ ← fixedDigits 2 0 23
      expect ":"
      let _ ← fixedDigits 2 0 59

/-- The time behind a date and a mark between them. -/
def timeOfDate : Scan Unit := do
  unless ← acceptAny ['T', 't', ' '] do wanted "time"
  time

/-- A date, a time, or both, perhaps with an offset. -/
def moment : Scan Unit := do
  match ← attempt date with
  | some () =>
      if (← attempt timeOfDate).isSome then offset
  | none => time

end CsvSelect.Toml
