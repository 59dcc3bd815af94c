import CsvSelect.Csv.Standard
import CsvSelect.Proofs.Csv.Codec

/-!
# The package that the program runs with obeys the rules

The reader takes the bytes of a field or of a record to just what the format says that they are,
whatever is behind them (`scanRecord_of_isField`, `scanRecord_of_isRecord`). It therefore gives one
item for each record of a file (`records_of_divided`), which depends on nothing but the record, its
number and the width of the header. The writer encloses a field in quotes where its text holds one
of the characters for which a cell is quoted.
-/

namespace CsvSelect.Csv.Standard

open Text

/-! ### Fields -/

section

variable {fields : List (List UInt8)} {field text rest : List UInt8} {mode : Mode}
  {position : Position}

/-- Outside quotes a comma ends the field. -/
theorem scanRecord_comma (outside : mode ≠ .quoted) (rest : List UInt8) :
    scanRecord fields field mode position (comma :: rest) =
      scanRecord (field.reverse :: fields) [] .start (position.after comma) rest := by
  have different : comma ≠ quote := by decide
  simp [scanRecord, outside, different]

/-- Outside quotes a line end ends the record. -/
theorem scanRecord_lineEnd {stop : UInt8} (outside : mode ≠ .quoted)
    (lineEnd : isLineEnd stop = true) (rest : List UInt8) :
    scanRecord fields field mode position (stop :: rest) =
      { fields := (field.reverse :: fields).reverse, rest, position := position.after stop } := by
  have notQuote : stop ≠ quote := by
    rintro rfl
    simp [isLineEnd, quote] at lineEnd
  have notComma : stop ≠ comma := by
    rintro rfl
    simp [isLineEnd_comma] at lineEnd
  simp [scanRecord, outside, notQuote, notComma, lineEnd]

/-- Outside quotes bytes are taken as they stand, unless a quote at the front has a meaning. -/
theorem scanRecord_unbroken {bytes : List UInt8} (unbroken : Unbroken bytes)
    (outside : mode ≠ .quoted) (visible : mode = .plain ∨ bytes.head? ≠ some quote)
    (rest : List UInt8) :
    scanRecord fields field mode position (bytes ++ rest) =
      scanRecord fields (bytes.reverse ++ field) (if bytes = [] then mode else .plain)
        (position.passing bytes) rest := by
  induction bytes generalizing field mode position with
  | nil => rfl
  | cons byte bytes ih =>
      rcases unbroken.of_cons with ⟨whole, others⟩
      rw [isSeparator, Bool.or_eq_false_iff, beq_eq_false_iff_ne] at whole
      have step : scanRecord fields field mode position (byte :: (bytes ++ rest)) =
          scanRecord fields (byte :: field) .plain (position.after byte) (bytes ++ rest) := by
        rcases visible with rfl | visible
        · simp [scanRecord, whole]
        · have notQuote : byte ≠ quote := by simpa using visible
          simp [scanRecord, whole, outside, notQuote]
      rw [List.cons_append, step, ih others (by decide) (Or.inl rfl)]
      simp [Position.passing_cons]

/-- A doubled text is read up to the quote behind it. -/
theorem scanRecord_double (bytes rest : List UInt8) :
    scanRecord fields field .quoted position (Quoted.double quote bytes ++ rest) =
      scanRecord fields (bytes.reverse ++ field) .quoted
        (position.passing (Quoted.double quote bytes)) rest := by
  induction bytes generalizing field position with
  | nil => rfl
  | cons byte bytes ih =>
      rw [Quoted.double_cons]
      by_cases same : byte = quote
      · subst same
        simp [scanRecord, ih, Position.passing_cons]
      · simp [scanRecord, same, ih, Position.passing_cons]

/-- At the beginning of a field a quote opens a quoted part. -/
theorem scanRecord_quote (rest : List UInt8) :
    scanRecord fields field .start position (quote :: rest) =
      scanRecord fields field .quoted (position.after quote) rest := by
  simp [scanRecord]

theorem scanRecord_enclose (bytes rest : List UInt8) :
    scanRecord fields [] .start position (Quoted.enclose quote bytes ++ rest) =
      scanRecord fields bytes.reverse .closed (position.passing (Quoted.enclose quote bytes))
        rest := by
  rw [Quoted.enclose, List.cons_append, List.append_assoc, List.singleton_append, scanRecord_quote,
    scanRecord_double, Position.passing_cons, Position.passing_append]
  simp [scanRecord, Position.passing]

/-- A field is read up to its end. Only the end of the bytes is met inside quotes. -/
theorem scanRecord_of_isField (isField : IsField text field rest) (fields : List (List UInt8))
    (position : Position) :
    ∃ mode, (mode = .quoted → rest = []) ∧
      scanRecord fields [] .start position (text ++ rest) =
        scanRecord fields field.reverse mode (position.passing text) rest := by
  cases isField with
  | plain unquoted unbroken stops =>
      refine ⟨if field = [] then .start else .plain, ?_, ?_⟩
      · split <;> simp
      · rw [scanRecord_unbroken unbroken (by decide) (Or.inr unquoted), List.append_nil]
  | @quoted body tail _ closed unbroken stops =>
      refine ⟨if tail = [] then .closed else .plain, ?_, ?_⟩
      · split <;> simp
      · rw [List.append_assoc, scanRecord_enclose,
          scanRecord_unbroken unbroken (by decide) (Or.inr closed), Position.passing_append,
          List.reverse_append]
  | @unclosed body =>
      refine ⟨.quoted, fun _ => rfl, ?_⟩
      rw [List.cons_append, scanRecord_quote, scanRecord_double, List.append_nil,
        Position.passing_cons]

/-! ### Records -/

/-- A record is read with the line end behind it. -/
theorem scanRecord_of_isRecord (isRecord : IsRecord text fields rest)
    (before : List (List UInt8)) (position : Position) :
    scanRecord before [] .start position (text ++ rest) =
      { fields := before.reverse ++ fields, rest := rest.tail
        position := position.passing (text ++ rest.take 1) } := by
  induction isRecord generalizing before position with
  | @last text field rest isField ended =>
      rcases scanRecord_of_isField isField before position with ⟨mode, unclosed, read⟩
      rw [read]
      cases rest with
      | nil => simp [scanRecord]
      | cons stop rest =>
          have outside : mode ≠ .quoted := by
            intro inside
            cases unclosed inside
          rw [scanRecord_lineEnd outside (ended stop rfl)]
          simp [Position.passing]
  | @more text field others rest fields isField isRecord ih =>
      rcases scanRecord_of_isField isField before position with ⟨mode, unclosed, read⟩
      have outside : mode ≠ .quoted := by
        intro inside
        cases unclosed inside
      rw [List.append_assoc, List.cons_append, read, scanRecord_comma outside, ih]
      simp [Position.passing]

theorem nextRecord?_of_lineEnd {byte : UInt8} (lineEnd : isLineEnd byte = true)
    (bytes : List UInt8) :
    nextRecord? position (byte :: bytes) = nextRecord? (position.after byte) bytes := by
  rw [nextRecord?, if_pos lineEnd]

theorem nextRecord?_of_isRecord (visible : text ≠ []) (isRecord : IsRecord text fields rest) :
    nextRecord? position (text ++ rest) =
      some { fields, rest := rest.tail, position := position.passing (text ++ rest.take 1) } := by
  have read := scanRecord_of_isRecord isRecord [] position
  obtain ⟨byte, text, rfl⟩ := List.exists_cons_of_ne_nil visible
  rw [List.cons_append] at read ⊢
  rw [nextRecord?, isRecord.isLineEnd_eq_false]
  exact congrArg some read

end

/-! ### Items -/

section

variable {bytes : List UInt8} {records : List Record}

theorem decodeFields_encode (number : Nat) (start : Position) (field : Nat) (texts : List String)
    (row : Row) :
    decodeFields number start field texts (row.map Utf8.encode) = .ok (texts.reverse ++ row) := by
  induction row generalizing field texts with
  | nil => simp [decodeFields]
  | cons cell row ih => simp [decodeFields, Utf8.decode_encode, ih]

/-- The first field that is no text is reported. -/
theorem decodeFields_of_error (number : Nat) (start : Position) {before after : List (List UInt8)}
    {field : List UInt8} {valid : Nat} (known : ∀ other ∈ before, IsText other)
    (invalid : Utf8.decode field = .error valid) (passed : Nat) (texts : List String) :
    decodeFields number start passed texts (before ++ field :: after) =
      .error (.invalidUtf8 number start (passed + before.length) valid) := by
  induction before generalizing passed texts with
  | nil => simp [decodeFields, invalid]
  | cons first before ih =>
      rcases List.forall_mem_cons.mp known with ⟨⟨text, rfl⟩, others⟩
      rw [List.cons_append, decodeFields, Utf8.decode_encode]
      simp only
      rw [ih others, List.length_cons, Nat.add_assoc, Nat.add_comm 1]

theorem Record.Reports.decodeRow {number width : Nat} {record : Record} {fault : Fault}
    (reports : record.Reports number width fault) :
    decodeRow number record.start width record.fields = .error fault := by
  cases reports with
  | unequalWidth different => rw [Standard.decodeRow, if_neg different]
  | invalidUtf8 even divided known invalid =>
      rw [Standard.decodeRow, if_pos even, divided, decodeFields_of_error _ _ known invalid,
        Nat.zero_add]

/-- What is read for a record of a file. -/
def readItem (width number : Nat) (record : Record) : Except String Row :=
  (decodeRow number record.start width record.fields).mapError Fault.message

theorem readRecords_of_none {start position : Position} (ended : nextRecord? position bytes = none)
    (width? : Option Nat) (items : List (Except String Row)) (number : Nat) :
    readRecords width? items number start position bytes = items.reverse := by
  rw [readRecords]
  split
  · rfl
  · next raw found => simp [ended] at found

theorem readRecords_of_some {start position : Position} {raw : RawRecord}
    (found : nextRecord? position bytes = some raw) (width? : Option Nat)
    (items : List (Except String Row)) (number : Nat) :
    readRecords width? items number start position bytes =
      readRecords (some (width?.getD raw.fields.length))
        ((decodeRow number start (width?.getD raw.fields.length) raw.fields).mapError
          Fault.message :: items)
        (number + 1) raw.position raw.position raw.rest := by
  rw [readRecords]
  split
  · next ended => simp [ended] at found
  · next other sameFound =>
      obtain rfl : raw = other := Option.some.inj (found.symm.trans sameFound)
      rfl

/-- The first record decides on the width, if no record came before. -/
theorem readRecords_of_divides {start position : Position}
    (divides : Divides start position bytes records) (width? : Option Nat)
    (items : List (Except String Row)) (number : Nat) :
    readRecords width? items number start position bytes =
      items.reverse ++ records.mapIdx fun index record =>
        readItem (width?.getD (width records)) (number + index) record := by
  induction divides generalizing width? items number with
  | ended => simpa using readRecords_of_none rfl width? items number
  | @emptyLine start position byte bytes records lineEnd divides ih =>
      rw [← ih, readRecords, readRecords, nextRecord?_of_lineEnd lineEnd]
  | @record start position behind text bytes stop fields records visible isRecord passed divides
      ih =>
      subst passed
      rw [readRecords_of_some (nextRecord?_of_isRecord visible isRecord)]
      simp only [List.tail_cons, List.take_succ_cons, List.take_zero]
      rw [ih, List.mapIdx_cons]
      simp [readItem, width, Nat.add_assoc, Nat.add_comm 1]
  | @lastRecord start position text fields visible isRecord =>
      have found := @nextRecord?_of_isRecord _ _ _ position visible isRecord
      rw [List.append_nil] at found
      rw [readRecords_of_some found, List.tail_nil, readRecords_of_none rfl]
      simp [readItem, width]

theorem skipMark_of_ne (noMark : ∀ rest, bytes ≠ 0xEF :: 0xBB :: 0xBF :: rest) :
    skipMark bytes = ({}, bytes) := by
  rw [skipMark]
  exact noMark

theorem records_of_divided (divided : FileRecords bytes records) :
    Codec.records bytes = records.mapIdx (readItem (width records)) := by
  change readFile bytes = _
  cases divided with
  | marked divides => simpa [readFile, skipMark] using readRecords_of_divides divides none [] 0
  | unmarked noMark divides =>
      simpa [readFile, skipMark_of_ne noMark] using readRecords_of_divides divides none [] 0

end

/-! ### Writing -/

/-- A byte with a meaning is the code of a character for which a cell is quoted. -/
theorem needsQuotes_iff {field : List UInt8} :
    needsQuotes field = true ↔
      ∃ character ∈ quotedCharacters, UInt8.ofNat character.toNat ∈ field := by
  simp only [needsQuotes, isLineEnd, List.any_eq_true, Bool.or_eq_true, beq_iff_eq]
  constructor
  · rintro ⟨byte, mem, (rfl | rfl) | rfl | rfl⟩
    · exact ⟨',', by decide, mem⟩
    · exact ⟨'"', by decide, mem⟩
    · exact ⟨'\n', by decide, mem⟩
    · exact ⟨'\r', by decide, mem⟩
  · rintro ⟨character, mem, found⟩
    refine ⟨_, found, ?_⟩
    simp only [quotedCharacters, List.mem_cons, List.not_mem_nil, or_false] at mem
    rcases mem with rfl | rfl | rfl | rfl <;> decide

theorem encodeField_encode (cell : String) : encodeField (Utf8.encode cell) = writtenCell cell := by
  have ascii : ∀ character ∈ quotedCharacters, character.toNat < 0x80 := by
    simp [quotedCharacters]
  have same : needsQuotes (Utf8.encode cell) = quotedCharacters.any cell.toList.contains := by
    rw [Bool.eq_iff_iff, needsQuotes_iff, List.any_eq_true]
    apply exists_congr
    intro character
    rw [List.contains_iff_mem, and_congr_right_iff]
    intro mem
    exact Utf8.mem_encode_iff (ascii character mem)
  rw [encodeField, writtenCell, same]

/-! ### The rules -/

theorem rules : Rules where
  count divided := by
    rw [records_of_divided divided, List.length_mapIdx]
  row divided found even texts := by
    rw [records_of_divided divided, List.getElem?_mapIdx, found, Option.map_some, readItem,
      decodeRow, if_pos even, ← texts, decodeFields_encode]
    rfl
  fault divided found reports := by
    rw [records_of_divided divided, List.getElem?_mapIdx, found, Option.map_some, readItem,
      Record.Reports.decodeRow reports]
    rfl
  emptyCell := rfl
  cells wide visible := by
    have line := intercalate_ne_nil wide visible
    change encodeRow _ = _
    rw [encodeRow, encodeFields, List.map_map, Function.comp_def]
    simp only [encodeField_encode, List.isEmpty_eq_false_iff.mpr line]
    rfl

end CsvSelect.Csv.Standard
