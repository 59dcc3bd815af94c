/-!
# Blanks and integers

The characters that may stand between two lexemes are those with Unicode's `White_Space` property,
of which there are twenty-five.

A cell or an operand denotes an integer when it is an optional sign and at least one ASCII digit,
and when the value fits into 64 bits with a sign. Nothing else is accepted: no blank, no separator,
no fraction.
-/

namespace CsvSelect.Text

/-- The character has Unicode's `White_Space` property. -/
def isBlank (character : Char) : Bool :=
  let code := character.toNat
  (0x09 ≤ code && code ≤ 0x0D) || code == 0x20 || code == 0x85 || code == 0xA0 || code == 0x1680 ||
    (0x2000 ≤ code && code ≤ 0x200A) || code == 0x2028 || code == 0x2029 || code == 0x202F ||
    code == 0x205F || code == 0x3000

/-- Every character of the text is blank; so is the empty text. -/
def isBlankText (text : String) : Bool :=
  text.toList.all isBlank

/-- The least integer of 64 bits with a sign. -/
def integerMin : Int := -9223372036854775808

/-- The greatest integer of 64 bits with a sign. -/
def integerMax : Int := 9223372036854775807

/-- The number after one more digit, unless `character` is none or the number exceeds `limit`. -/
def appendDigit? (limit number : Nat) (character : Char) : Option Nat :=
  let longer := 10 * number + (character.toNat - '0'.toNat)
  if character.isDigit && longer ≤ limit then some longer else none

/-- The value of a non-empty run of digits that does not exceed `limit`. -/
def natural? (limit : Nat) (digits : List Char) : Option Nat :=
  if digits.isEmpty then none else digits.foldlM (appendDigit? limit) 0

/-- The integer that the characters denote, if they denote one of 64 bits. -/
def integerOfChars? : List Char → Option Int
  | '-' :: digits => (natural? integerMin.natAbs digits).map fun magnitude => -magnitude
  | '+' :: digits => (natural? integerMax.natAbs digits).map Int.ofNat
  | digits => (natural? integerMax.natAbs digits).map Int.ofNat

/-- The integer that the text denotes, if it denotes one of 64 bits. -/
def integer? (text : String) : Option Int :=
  integerOfChars? text.toList

end CsvSelect.Text
