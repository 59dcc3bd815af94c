import Mathlib.Data.Set.List
import CsvSelect.Proofs.Csv.Format
import CsvSelect.Proofs.Tables
import CsvSelect.Proofs.Text.Utf8
import CsvSelect.Session

/-!
# What a package for comma-separated values promises

The program reads and writes its tables through a package, of which nothing is known but the rules
that its documentation gives (`Rules`). They are about the records of a file, as its format has
them: there is one item for each, which is the row of its texts, or else the fault that is found
first. A record of the wrong width has this fault, and otherwise the first field that is no text is
faulty (`Record.Reports`). A row is written with commas between its cells and a line feed behind
them, and cells stand in quotes only where they must.

What follows from the rules for a table that is loaded is all that is used of them later: a file is
loaded as the texts of its records if they are sound, and the first one that is not decides
otherwise.
-/

namespace CsvSelect

open Text

namespace Csv

/-! ### Sound records -/

/-- The field is UTF-8. -/
def IsText (field : List UInt8) : Prop :=
  ∃ text, Utf8.encode text = field

/-- The number of fields of the header. -/
def width (records : List Record) : Nat :=
  records.head?.elim 0 (·.fields.length)

/-- The record is a row of a table of this width. -/
structure Record.Sound (width : Nat) (record : Record) : Prop where
  even : record.fields.length = width
  texts : ∀ field ∈ record.fields, IsText field

/-- What is reported of the record with this number. -/
inductive Record.Reports (number width : Nat) (record : Record) : Fault → Prop
  | unequalWidth (different : record.fields.length ≠ width) :
      Reports number width record
        (.unequalWidth number record.start record.fields.length width)
  | invalidUtf8 {before after : List (List UInt8)} {field : List UInt8} {valid : Nat}
      (even : record.fields.length = width) (divided : record.fields = before ++ field :: after)
      (texts : ∀ other ∈ before, IsText other) (invalid : Utf8.decode field = .error valid) :
      Reports number width record (.invalidUtf8 number record.start before.length valid)

/-! ### Rules -/

/-- The characters for which a cell is quoted. -/
def quotedCharacters : List Char :=
  [',', '"', '\r', '\n']

/-- The bytes of a cell in a record. -/
def writtenCell (cell : String) : List UInt8 :=
  if quotedCharacters.any cell.toList.contains then Quoted.enclose quote (Utf8.encode cell)
  else Utf8.encode cell

/-- What the documentation of the package says. -/
structure Rules [Codec] : Prop where
  /-- Reading gives one item for each record of a file. -/
  count {bytes : List UInt8} {records : List Record} (divided : FileRecords bytes records) :
    (Codec.records bytes).length = records.length
  /-- A record as wide as the first, all of whose fields are texts, is the row of these texts. -/
  row {bytes : List UInt8} {records : List Record} {number : Nat} {record : Record} {row : Row}
    (divided : FileRecords bytes records) (found : records[number]? = some record)
    (even : record.fields.length = width records)
    (texts : row.map Utf8.encode = record.fields) :
    (Codec.records bytes)[number]? = some (.ok row)
  /-- Any other record is reported: its width first, and then the first field that is no text. -/
  fault {bytes : List UInt8} {records : List Record} {number : Nat} {record : Record}
    {fault : Fault} (divided : FileRecords bytes records)
    (found : records[number]? = some record)
    (reports : record.Reports number (width records) fault) :
    (Codec.records bytes)[number]? = some (.error fault.message)
  /-- A single empty cell is written as a pair of quotes, since it would be an empty line. -/
  emptyCell : Codec.encodeRow [""] = [quote, quote, 0x0A]
  /-- The cells of any other row stand between commas, and a line feed behind them. -/
  cells {row : Row} (wide : row ≠ []) (visible : row ≠ [""]) :
    Codec.encodeRow row = [comma].intercalate (row.map writtenCell) ++ [0x0A]

/-! ### Cells that are written -/

theorem writtenCell_ne_nil {cell : String} (visible : cell ≠ "") : writtenCell cell ≠ [] := by
  rw [writtenCell]
  split
  · simp [Quoted.enclose]
  · rwa [ne_eq, Utf8.encode_eq_nil_iff]

/-- The cells of a row form an empty line only if there is no cell or a single empty one. -/
theorem intercalate_ne_nil {row : Row} (wide : row ≠ []) (visible : row ≠ [""]) :
    [comma].intercalate (row.map writtenCell) ≠ [] := by
  rcases row with _ | ⟨cell, _ | ⟨second, cells⟩⟩
  · simp at wide
  · simpa using writtenCell_ne_nil (by simpa using visible)
  · simp [List.intercalate_cons_cons]

/-! ### Records that are read -/

theorem exists_row_of_texts {fields : List (List UInt8)} (texts : ∀ field ∈ fields, IsText field) :
    ∃ row : Row, row.map Utf8.encode = fields :=
  (Set.range_list_map Utf8.encode).ge texts

theorem Record.sound_of_row {width : Nat} {record : Record} {row : Row}
    (same : row.map Utf8.encode = record.fields) (even : row.length = width) :
    record.Sound width where
  even := by rw [← same, List.length_map, even]
  texts field mem := by
    rw [← same] at mem
    rcases List.mem_map.mp mem with ⟨cell, -, sameCell⟩
    exact ⟨cell, sameCell⟩

theorem exists_rows_of_sound {width : Nat} {records : List Record}
    (sound : ∀ record ∈ records, record.Sound width) :
    ∃ rows : List Row, rows.map (·.map Utf8.encode) = records.map (·.fields) := by
  have range := Set.range_list_map (List.map Utf8.encode)
  apply range.ge
  intro fields mem
  rcases List.mem_map.mp mem with ⟨record, recordMem, rfl⟩
  exact exists_row_of_texts (sound record recordMem).texts

theorem mapM_map_ok (rows : List Row) :
    (rows.map Except.ok : List (Except String Row)).mapM id = .ok rows := by
  induction rows with
  | nil => rfl
  | cons row rows ih =>
      rw [List.map_cons, List.mapM_cons, ih]
      rfl

theorem mapM_map_ok_append_error (rows : List Row) (words : String)
    (items : List (Except String Row)) :
    (rows.map Except.ok ++ Except.error words :: items).mapM id = .error words := by
  induction rows with
  | nil => rfl
  | cons row rows ih =>
      rw [List.map_cons, List.cons_append, List.mapM_cons, ih]
      rfl

section

variable [Codec] {bytes : List UInt8} {before after records : List Record} {record : Record}

/-- Sound records at the front of a file are rows. -/
theorem Rules.take_records (rules : Rules) (divided : FileRecords bytes (before ++ after))
    (sound : ∀ record ∈ before, record.Sound (width (before ++ after))) :
    ∃ rows : List Row, (Codec.records bytes).take before.length = rows.map .ok ∧
      rows.map (·.map Utf8.encode) = before.map (·.fields) := by
  rcases exists_rows_of_sound sound with ⟨rows, same⟩
  refine ⟨rows, List.ext_getElem? fun number => ?_, same⟩
  have sameFields := congrArg (·[number]?) same
  simp only [List.getElem?_map] at sameFields
  by_cases inside : number < before.length
  · have found : before[number]? = some before[number] := List.getElem?_eq_getElem inside
    rw [found, Option.map_some] at sameFields
    rcases Option.map_eq_some_iff.mp sameFields with ⟨row, foundRow, texts⟩
    have foundRecord : (before ++ after)[number]? = some before[number] := by
      rwa [List.getElem?_append_left inside]
    have item := rules.row divided foundRecord
      (sound _ (List.getElem_mem inside)).even texts
    rw [List.getElem?_take_of_lt inside, item, List.getElem?_map, foundRow, Option.map_some]
  · have outside : before.length ≤ number := Nat.not_lt.mp inside
    have sameLength : rows.length = before.length := by
      simpa using congrArg List.length same
    rw [List.getElem?_take_eq_none outside, eq_comm, List.getElem?_eq_none_iff, List.length_map]
    omega

theorem Rules.records_of_sound (rules : Rules) (divided : FileRecords bytes records)
    (sound : ∀ record ∈ records, record.Sound (width records)) :
    ∃ rows : List Row, Codec.records bytes = rows.map .ok ∧
      rows.map (·.map Utf8.encode) = records.map (·.fields) := by
  rw [← List.append_nil records] at divided sound
  rcases rules.take_records divided (by simpa using sound) with ⟨rows, front, same⟩
  refine ⟨rows, ?_, same⟩
  rwa [List.take_of_length_le] at front
  rw [rules.count divided, List.append_nil]

theorem Rules.records_of_reports (rules : Rules) {fault : Fault}
    (divided : FileRecords bytes (before ++ record :: after))
    (sound : ∀ other ∈ before, other.Sound (width (before ++ record :: after)))
    (reports : record.Reports before.length (width (before ++ record :: after)) fault) :
    ∃ (rows : List Row) (items : List (Except String Row)),
      Codec.records bytes = rows.map .ok ++ .error fault.message :: items := by
  rcases rules.take_records divided sound with ⟨rows, front, -⟩
  have found : (before ++ record :: after)[before.length]? = some record := by simp
  have item := rules.fault divided found reports
  rcases List.getElem?_eq_some_iff.mp item with ⟨inside, here⟩
  refine ⟨rows, (Codec.records bytes).drop (before.length + 1), ?_⟩
  rw [← front, ← here, List.getElem_cons_drop, List.take_append_drop]

end

end Csv

/-! ### Tables that are loaded -/

namespace Table

open Csv

variable [Codec] {path : String} {bytes : List UInt8} {before after records : List Record}
  {record : Record}

theorem ofBytes_of_nil (rules : Rules) (divided : FileRecords bytes []) :
    ofBytes path bytes = .error (.csv s!"{path} has no header row") := by
  have nothing : Codec.records bytes = [] := List.length_eq_zero_iff.mp (rules.count divided)
  rw [ofBytes, nothing]
  rfl

theorem ofBytes_of_reports (rules : Rules) {fault : Fault}
    (divided : FileRecords bytes (before ++ record :: after))
    (sound : ∀ other ∈ before, other.Sound (width (before ++ record :: after)))
    (reports : record.Reports before.length (width (before ++ record :: after)) fault) :
    ofBytes path bytes = .error (.csv fault.message) := by
  rcases rules.records_of_reports divided sound reports with ⟨rows, items, read⟩
  rw [ofBytes, read, mapM_map_ok_append_error]

/-- All rows of a file are as wide as its header, so there is a table of them. -/
theorem ofBytes_of_sound (rules : Rules) (divided : FileRecords bytes records)
    (nonempty : records ≠ []) (sound : ∀ record ∈ records, record.Sound (width records)) :
    ∃ header table, ofBytes path bytes = .ok table ∧ table.columns = header.map lowercase ∧
      (header :: table.rows).map (·.map Utf8.encode) = records.map (·.fields) := by
  rcases rules.records_of_sound divided sound with ⟨allRows, read, same⟩
  have someRows : allRows ≠ [] := by
    rintro rfl
    exact nonempty (List.map_eq_nil_iff.mp same.symm)
  obtain ⟨header, rows, rfl⟩ := List.exists_cons_of_ne_nil someRows
  have sameWidth : ∀ row ∈ header :: rows, row.length = width records := by
    intro row mem
    have mapped : row.map Utf8.encode ∈ records.map (·.fields) := same ▸ List.mem_map_of_mem mem
    rcases List.mem_map.mp mapped with ⟨record, recordMem, sameFields⟩
    rw [← (sound record recordMem).even, sameFields, List.length_map]
  rcases List.forall_mem_cons.mp sameWidth with ⟨headerWidth, rowWidths⟩
  have even : ∀ row ∈ rows, row.length = header.length := fun row mem =>
    (rowWidths row mem).trans headerWidth.symm
  rcases ofRows_of_even (Path.tableName path) even with ⟨table, built, columns, rfl⟩
  refine ⟨header, table, ?_, columns, same⟩
  rw [ofBytes, read, mapM_map_ok]
  simp only [built]

end Table

end CsvSelect
