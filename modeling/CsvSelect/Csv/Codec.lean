import CsvSelect.Table
import CsvSelect.Text.Bytes

/-!
# Packages for comma-separated values

The program leaves the format of its tables to a package. It asks for the records of a whole file,
each as a row or as the words for what is wrong with it, and for the bytes of a row as a record.

What such packages agree on is named here, too: the bytes with a meaning, and the two faults that a
record can have, with the words for them. A record can be no UTF-8 or not as wide as the first one.
Either fault is reported with the number of the record and the position where the reader stood
before it, which is behind the byte that ended the record before.
-/

namespace CsvSelect.Csv

/-- What the program needs of a package for comma-separated values. -/
class Codec where
  /--
  The records of a file in their order, each as the texts of its fields or as the words for its
  fault. The first record is treated like the others.
  -/
  records : List UInt8 → List (Except String Row)
  /-- The bytes of a row as a record, with the line end behind it. -/
  encodeRow : Row → List UInt8

/-- The bytes of a file of these rows. -/
def encodeRows [Codec] (rows : List Row) : List UInt8 :=
  rows.flatMap Codec.encodeRow

/-- The byte between two fields. -/
def comma : UInt8 := 0x2C

/-- The byte around a field in which other bytes have no meaning. -/
def quote : UInt8 := 0x22

/-- The byte ends a record: a line feed or a carriage return. -/
def isLineEnd (byte : UInt8) : Bool :=
  byte == 0x0A || byte == 0x0D

/-- A position in the bytes: the line, counted by line feeds, and the number of bytes passed. -/
structure Position where
  line : Nat := 1
  byte : Nat := 0
deriving DecidableEq

/-- The position behind one more byte. -/
def Position.after (position : Position) (byte : UInt8) : Position where
  line := if byte = 0x0A then position.line + 1 else position.line
  byte := position.byte + 1

/-- What can be wrong with a record, which has a number and begins behind a position. -/
inductive Fault where
  /-- A field of the record is not UTF-8 after so many whole bytes. All numbers count from zero. -/
  | invalidUtf8 (record : Nat) (start : Position) (field valid : Nat)
  /-- The record has not as many fields as the first one. -/
  | unequalWidth (record : Nat) (start : Position) (found expected : Nat)
deriving DecidableEq

/-- The words for a fault. -/
def Fault.message : Fault → String
  | .invalidUtf8 record start field valid =>
      s!"CSV parse error: record {record} (line {start.line}, field: {field}, " ++
        s!"byte: {start.byte}): invalid utf-8: " ++
        s!"invalid UTF-8 in field {field} near byte index {valid}"
  | .unequalWidth record start found expected =>
      s!"CSV error: record {record} (line: {start.line}, byte: {start.byte}): found record with " ++
        s!"{found} fields, but the previous record has {expected} fields"

end CsvSelect.Csv
