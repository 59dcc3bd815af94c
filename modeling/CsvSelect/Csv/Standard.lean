import CsvSelect.Csv.Codec
import CsvSelect.Text.Quoted

/-!
# The package that the program runs with

Records are read from bytes. A comma ends a field and a line feed or carriage return ends a record;
those at the beginning of a record are passed over, so empty lines are no records, and a line feed
after a carriage return belongs to the next record. A quote at the beginning of a field opens a
quoted part, in which a doubled quote stands for one and nothing else has a meaning; what follows
the closing quote is taken as it stands, quotes included. The end of the bytes ends whatever is
open. Each field must be UTF-8, and each record must be as wide as the first.

A field is written in quotes only if it holds a comma, a quote or a line end. A record that would be
an empty line is written as a pair of quotes. Every record ends with a line feed.
-/

namespace CsvSelect.Csv.Standard

open Text

/-! ### Reading -/

/-- Where in a field the reader stands. -/
inductive Mode where
  /-- At the beginning. -/
  | start
  /-- Where quotes have no meaning. -/
  | plain
  /-- Inside quotes. -/
  | quoted
  /-- Behind a quote that closes the quotes or is the first of two. -/
  | closed
deriving DecidableEq

/-- A record as bytes, the bytes behind it, and the position there. -/
structure RawRecord where
  fields : List (List UInt8)
  rest : List UInt8
  position : Position

/--
The record of which `fields` and the beginning `field` of the next field have been read, both in
reverse.
-/
def scanRecord (fields : List (List UInt8)) (field : List UInt8) (mode : Mode)
    (position : Position) : List UInt8 → RawRecord
  | [] => { fields := (field.reverse :: fields).reverse, rest := [], position }
  | byte :: rest =>
      let position := position.after byte
      if mode = .quoted then
        if byte = quote then scanRecord fields field .closed position rest
        else scanRecord fields (byte :: field) .quoted position rest
      else if mode = .start && byte = quote then scanRecord fields field .quoted position rest
      else if mode = .closed && byte = quote then
        scanRecord fields (quote :: field) .quoted position rest
      else if byte = comma then scanRecord (field.reverse :: fields) [] .start position rest
      else if isLineEnd byte then { fields := (field.reverse :: fields).reverse, rest, position }
      else scanRecord fields (byte :: field) .plain position rest

/-- The record after the line ends at the front; nothing if only line ends are left. -/
def nextRecord? (position : Position) : List UInt8 → Option RawRecord
  | [] => none
  | byte :: rest =>
      if isLineEnd byte then nextRecord? (position.after byte) rest
      else some (scanRecord [] [] .start position (byte :: rest))

theorem length_rest_scanRecord_le (fields : List (List UInt8)) (field : List UInt8) (mode : Mode)
    (position : Position) (bytes : List UInt8) :
    (scanRecord fields field mode position bytes).rest.length ≤ bytes.length := by
  induction bytes generalizing fields field mode position with
  | nil => simp [scanRecord]
  | cons byte rest ih =>
      have longer : ∀ fields field mode position,
          (scanRecord fields field mode position rest).rest.length ≤ (byte :: rest).length :=
        fun fields field mode position =>
          Nat.le_trans (ih fields field mode position) (by simp)
      unfold scanRecord
      simp only
      repeat' split
      all_goals first | exact longer .. | simp

theorem length_rest_scanRecord_lt (fields : List (List UInt8)) (field : List UInt8) (mode : Mode)
    (position : Position) (byte : UInt8) (rest : List UInt8) :
    (scanRecord fields field mode position (byte :: rest)).rest.length < (byte :: rest).length := by
  have shorter : ∀ fields field mode position,
      (scanRecord fields field mode position rest).rest.length < (byte :: rest).length :=
    fun fields field mode position =>
      Nat.lt_of_le_of_lt (length_rest_scanRecord_le fields field mode position rest) (by simp)
  unfold scanRecord
  simp only
  repeat' split
  all_goals first | exact shorter .. | simp

/-- A record takes up at least one byte. -/
theorem length_rest_nextRecord?_lt {position : Position} {bytes : List UInt8} {record : RawRecord}
    (found : nextRecord? position bytes = some record) : record.rest.length < bytes.length := by
  induction bytes generalizing position with
  | nil => simp [nextRecord?] at found
  | cons byte rest ih =>
      unfold nextRecord? at found
      split at found
      · exact Nat.lt_trans (ih found) (by simp)
      · obtain rfl := Option.some.inj found
        exact length_rest_scanRecord_lt ..

/-- The texts of the fields, of which the first has the number `field`. -/
def decodeFields (record : Nat) (start : Position) (field : Nat) (texts : List String) :
    List (List UInt8) → Except Fault (List String)
  | [] => .ok texts.reverse
  | bytes :: fields =>
      match Utf8.decode bytes with
      | .ok text => decodeFields record start (field + 1) (text :: texts) fields
      | .error valid => .error (.invalidUtf8 record start field valid)

/-- The row of a record, which must have this width and be UTF-8. -/
def decodeRow (record : Nat) (start : Position) (width : Nat) (fields : List (List UInt8)) :
    Except Fault Row :=
  if fields.length = width then decodeFields record start 0 [] fields
  else .error (.unequalWidth record start fields.length width)

/--
The records from number `record` on, behind the items so far, which are in reverse. A record that no
record came before decides on the width. `start` is the position that is reported for the first.
-/
def readRecords (width? : Option Nat) (items : List (Except String Row)) (record : Nat)
    (start position : Position) (bytes : List UInt8) : List (Except String Row) :=
  match _found : nextRecord? position bytes with
  | none => items.reverse
  | some raw =>
      let width := width?.getD raw.fields.length
      let item := (decodeRow record start width raw.fields).mapError Fault.message
      readRecords (some width) (item :: items) (record + 1) raw.position raw.position raw.rest
termination_by bytes.length
decreasing_by exact length_rest_nextRecord?_lt _found

/-- The bytes behind a byte order mark, if there is one, and the position there. -/
def skipMark : List UInt8 → Position × List UInt8
  | 0xEF :: 0xBB :: 0xBF :: bytes => ({ byte := 3 }, bytes)
  | bytes => ({}, bytes)

/-- The records of a file. The first is reported at the beginning, also behind a mark. -/
def readFile (bytes : List UInt8) : List (Except String Row) :=
  let (position, bytes) := skipMark bytes
  readRecords none [] 0 {} position bytes

/-! ### Writing -/

/-- The field holds a byte that has a meaning outside quotes. -/
def needsQuotes (field : List UInt8) : Bool :=
  field.any fun byte => byte == comma || byte == quote || isLineEnd byte

/-- The bytes for a field. -/
def encodeField (field : List UInt8) : List UInt8 :=
  if needsQuotes field then Quoted.enclose quote field else field

/-- The bytes for the fields of a record, which is no empty line. -/
def encodeFields (fields : List (List UInt8)) : List UInt8 :=
  let line := [comma].intercalate (fields.map encodeField)
  if line.isEmpty then [quote, quote] else line

/-- The bytes for a row. -/
def encodeRow (row : Row) : List UInt8 :=
  encodeFields (row.map Utf8.encode) ++ [0x0A]

instance codec : Codec where
  records := readFile
  encodeRow := encodeRow

end CsvSelect.Csv.Standard
