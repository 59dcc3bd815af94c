import CsvSelect.Proofs.Csv.Standard
import CsvSelect.Proofs.Storage.Actions
import CsvSelect.Proofs.Storage.Frame

/-!
# Tables that are written and loaded

What the package writes for rows is divided into the records of these rows, because each cell is the
field of its bytes and no record looks like an empty line. Rows of one width that were written are
therefore loaded as a table with the first row as its header, unless the beginning of the bytes is a
byte order mark, which is passed over. It is one if the first cell begins with this mark and stands
without quotes (`Row.BeginsWithMark`). Then something is lost for certain: the name of the first
column is shorter, or the header is an empty line without the mark and another row takes its place.

All this follows from the rules of the package.
-/

namespace CsvSelect

open Text

/-! ### Lower case -/

/-- Which sigma is taken does not matter for the length. -/
theorem Text.length_lowerFrom (before lowered characters : List Char) :
    (lowerFrom before lowered characters).length =
      lowered.length + (characters.flatMap lowerCharacter).length := by
  induction characters generalizing before lowered with
  | nil => simp [lowerFrom]
  | cons character after ih =>
      have sigma : character.toNat = 0x3A3 → (lowerCharacter character).length = 1 := by
        intro same
        simp [lowerCharacter, same]
      rw [lowerFrom, ih, List.flatMap_cons, List.length_append, List.length_append,
        List.length_reverse]
      split
      · next same =>
          rw [sigma same, List.length_singleton]
          omega
      · omega

theorem Text.length_lowercase (text : String) :
    (lowercase text).toList.length = (text.toList.flatMap lowerCharacter).length := by
  simp [lowercase, length_lowerFrom]

/-- Without its mark a name is shorter in lower case, too. -/
theorem lowercase_ne_of_mark {cell : String} {characters : List Char}
    (sameCharacters : cell.toList = Utf8.mark :: characters) :
    lowercase (String.ofList characters) ≠ lowercase cell := by
  intro same
  have sameLength := congrArg (fun text => text.toList.length) same
  have markLength : (lowerCharacter Utf8.mark).length = 1 := by decide
  simp [length_lowercase, sameCharacters, markLength] at sameLength

/-- The first cell begins with the byte order mark and stands without quotes. -/
def Row.BeginsWithMark (row : Row) : Prop :=
  ∃ cell ∈ row.head?, cell.toList.head? = some Utf8.mark ∧
    ∀ character ∈ Csv.quotedCharacters, character ∉ cell.toList

namespace Csv

/-! ### Cells -/

section

variable {cell : String} {rest : List UInt8}

theorem writtenCell_of_plain (plain : ∀ character ∈ quotedCharacters, character ∉ cell.toList) :
    writtenCell cell = Utf8.encode cell := by
  rw [writtenCell, if_neg]
  simpa using plain

theorem writtenCell_of_quoted (quoted : ∃ character ∈ quotedCharacters, character ∈ cell.toList) :
    writtenCell cell = Quoted.enclose quote (Utf8.encode cell) := by
  rw [writtenCell, if_pos]
  simpa using quoted

/-- No byte of a cell without quotes has a meaning. -/
theorem unbroken_of_plain (plain : ∀ character ∈ quotedCharacters, character ∉ cell.toList) :
    Unbroken (Utf8.encode cell) ∧ quote ∉ Utf8.encode cell := by
  have absent : ∀ character ∈ quotedCharacters,
      UInt8.ofNat character.toNat ∉ Utf8.encode cell := by
    intro character mem
    have ascii : character.toNat < 0x80 := by
      revert character
      simp [quotedCharacters]
    rw [Utf8.mem_encode_iff ascii]
    exact plain character mem
  simp only [quotedCharacters, List.forall_mem_cons] at absent
  rcases absent with ⟨noComma, noQuote, noReturn, noFeed, -⟩
  refine ⟨?_, noQuote⟩
  intro byte mem
  simp only [isSeparator, isLineEnd, Bool.or_eq_false_iff, beq_eq_false_iff_ne]
  refine ⟨?_, ?_, ?_⟩
  · rintro rfl
    exact noComma mem
  · rintro rfl
    exact noFeed mem
  · rintro rfl
    exact noReturn mem

/-- The bytes of a cell are a field, wherever a field can end. -/
theorem isField_writtenCell (cell : String) (stops : Stops rest) :
    IsField (writtenCell cell) (Utf8.encode cell) rest := by
  by_cases quoted : ∃ character ∈ quotedCharacters, character ∈ cell.toList
  · have closed : ([] : List UInt8).head? ≠ some quote := by simp
    have whole : Unbroken [] := List.forall_mem_nil _
    simpa [writtenCell_of_quoted quoted] using
      @IsField.quoted (Utf8.encode cell) [] rest closed whole stops
  · push Not at quoted
    rcases unbroken_of_plain quoted with ⟨unbroken, noQuote⟩
    rw [writtenCell_of_plain quoted]
    refine .plain ?_ unbroken stops
    intro found
    exact noQuote (List.mem_of_mem_head? found)

end

/-! ### Rows -/

/-- The cells behind the first one, each with its comma. -/
def writtenMore (cells : Row) : List UInt8 :=
  cells.flatMap fun cell => comma :: writtenCell cell

theorem intercalate_writtenCell (cell : String) (cells : Row) :
    [comma].intercalate ((cell :: cells).map writtenCell) =
      writtenCell cell ++ writtenMore cells := by
  induction cells generalizing cell with
  | nil => simp [writtenMore]
  | cons second cells ih =>
      rw [List.map_cons, List.map_cons, List.intercalate_cons_cons, ← List.map_cons, ih]
      simp [writtenMore]

theorem stops_comma (rest : List UInt8) : Stops (comma :: rest) := by
  simp [Stops, isSeparator]

/-- The cells between commas are a record, wherever a record can end. -/
theorem isRecord_written (cell : String) (cells : Row) {rest : List UInt8}
    (ended : EndsRecord rest) :
    IsRecord (writtenCell cell ++ writtenMore cells) ((cell :: cells).map Utf8.encode) rest := by
  induction cells generalizing cell with
  | nil =>
      have stops : Stops rest := fun stop found => by simp [isSeparator, ended stop found]
      simpa [writtenMore] using IsRecord.last (isField_writtenCell cell stops) ended
  | cons second cells ih =>
      have isField := isField_writtenCell cell
        (stops_comma (writtenCell second ++ writtenMore cells ++ rest))
      simpa [writtenMore] using IsRecord.more isField (ih second)

theorem endsRecord_lineFeed (rest : List UInt8) : EndsRecord (0x0A :: rest) := by
  simp [EndsRecord, isLineEnd]

theorem exists_separator (cells : Row) (rest : List UInt8) :
    ∃ stop more, writtenMore cells ++ [0x0A] ++ rest = stop :: more ∧
      (stop = comma ∨ stop = 0x0A) := by
  cases cells with
  | nil => exact ⟨0x0A, rest, rfl, Or.inr rfl⟩
  | cons second cells => exact ⟨comma, _, rfl, Or.inl rfl⟩

section

variable [Codec] {row : Row} {rows : List Row}

/-- The bytes of a row are a record in front of a line feed, and no empty line. -/
theorem Rules.exists_encodeRow (rules : Rules) (wide : row ≠ []) :
    ∃ text, text ≠ [] ∧ Codec.encodeRow row = text ++ [0x0A] ∧
      ∀ rest, IsRecord text (row.map Utf8.encode) (0x0A :: rest) := by
  by_cases visible : row = [""]
  · subst visible
    refine ⟨[quote, quote], by simp, rules.emptyCell, fun rest => ?_⟩
    have stops : Stops (0x0A :: rest) := by simp [Stops, isSeparator, isLineEnd]
    have isField := @IsField.quoted [] [] _ (by simp) (List.forall_mem_nil _) stops
    exact .last isField (endsRecord_lineFeed rest)
  · obtain ⟨cell, cells, rfl⟩ := List.exists_cons_of_ne_nil wide
    have written := rules.cells wide visible
    have someBytes := intercalate_ne_nil wide visible
    rw [intercalate_writtenCell] at written someBytes
    exact ⟨_, someBytes, written, fun rest =>
      isRecord_written cell cells (endsRecord_lineFeed rest)⟩

theorem encodeRows_cons (row : Row) (rows : List Row) :
    encodeRows (row :: rows) = Codec.encodeRow row ++ encodeRows rows := rfl

/-- The bytes of rows are divided into the records of these rows. -/
theorem Rules.exists_divides_encodeRows (rules : Rules) (wide : ∀ row ∈ rows, row ≠ [])
    (start position : Position) :
    ∃ records, Divides start position (encodeRows rows) records ∧
      records.map (·.fields) = rows.map (·.map Utf8.encode) := by
  induction rows generalizing start position with
  | nil => exact ⟨[], .ended, rfl⟩
  | cons row rows ih =>
      rcases List.forall_mem_cons.mp wide with ⟨firstWide, laterWide⟩
      rcases rules.exists_encodeRow firstWide with ⟨text, visible, written, isRecord⟩
      rcases ih laterWide (position.passing (text ++ [0x0A])) (position.passing (text ++ [0x0A]))
        with ⟨records, divides, same⟩
      rw [encodeRows_cons, written, List.append_assoc, List.singleton_append]
      refine ⟨_, .record visible (isRecord _) rfl divides, ?_⟩
      rw [List.map_cons, List.map_cons, same]

/-! ### The mark -/

theorem encodeRow_of_plain {cell : String} {cells : Row} (rules : Rules)
    (plain : ∀ character ∈ quotedCharacters, character ∉ cell.toList)
    (visible : cell ≠ "" ∨ cells ≠ []) :
    Codec.encodeRow (cell :: cells) = Utf8.encode cell ++ (writtenMore cells ++ [0x0A]) := by
  have noEmptyLine : cell :: cells ≠ [""] := by
    rintro same
    obtain ⟨rfl, rfl⟩ := List.cons.inj same
    simp at visible
  rw [rules.cells (List.cons_ne_nil _ _) noEmptyLine, intercalate_writtenCell,
    writtenCell_of_plain plain, List.append_assoc]

theorem exists_encodeRow_of_quoted {cell : String} {cells : Row} (rules : Rules)
    (quoted : ∃ character ∈ quotedCharacters, character ∈ cell.toList) :
    ∃ rest, Codec.encodeRow (cell :: cells) = quote :: rest := by
  have noEmptyLine : cell :: cells ≠ [""] := by
    rintro same
    obtain ⟨rfl, rfl⟩ := List.cons.inj same
    simp at quoted
  rw [rules.cells (List.cons_ne_nil _ _) noEmptyLine, intercalate_writtenCell,
    writtenCell_of_quoted quoted]
  exact ⟨_, rfl⟩

/-- Only a first cell that begins with the mark is taken for one. -/
theorem beginsWithMark_of_encodeRows {rest : List UInt8} (rules : Rules) (wide : row ≠ [])
    (marked : encodeRows (row :: rows) = 0xEF :: 0xBB :: 0xBF :: rest) : row.BeginsWithMark := by
  obtain ⟨cell, cells, rfl⟩ := List.exists_cons_of_ne_nil wide
  rw [encodeRows_cons] at marked
  by_cases quoted : ∃ character ∈ quotedCharacters, character ∈ cell.toList
  · rcases @exists_encodeRow_of_quoted _ cell cells rules quoted with ⟨rest', written⟩
    simp [written, quote] at marked
  push Not at quoted
  by_cases empty : cell = "" ∧ cells = []
  · rcases empty with ⟨rfl, rfl⟩
    simp [rules.emptyCell, quote] at marked
  · rcases exists_separator cells (encodeRows rows) with ⟨stop, more, tail, separator⟩
    -- The separator is no byte of the mark, so the whole mark lies in the cell.
    have notMark : stop ≠ 0xEF ∧ stop ≠ 0xBB ∧ stop ≠ 0xBF := by
      rcases separator with rfl | rfl <;> decide
    rw [encodeRow_of_plain rules quoted (Classical.not_and_iff_not_or_not.mp empty),
      List.append_assoc, tail] at marked
    rcases exists_of_append_eq_mark notMark marked with ⟨rest', inside⟩
    rcases Utf8.encode_eq_mark_iff.mp inside with ⟨others, characters, -⟩
    exact ⟨cell, rfl, by rw [characters]; rfl, quoted⟩

/-- Of a row that begins with the mark, another one remains behind it, or an empty line. -/
theorem exists_encodeRow_of_mark {cell : String} {cells : Row} (rules : Rules)
    (marked : Row.BeginsWithMark (cell :: cells)) :
    ∃ characters, cell.toList = Utf8.mark :: characters ∧
      Codec.encodeRow (cell :: cells) = 0xEF :: 0xBB :: 0xBF ::
        if characters = [] ∧ cells = [] then [0x0A]
        else Codec.encodeRow (String.ofList characters :: cells) := by
  rcases marked with ⟨cell', sameCell, begins, free⟩
  obtain rfl : cell = cell' := Option.some.inj sameCell
  rcases List.head?_eq_some_iff.mp begins with ⟨characters, sameCharacters⟩
  have bytes := Utf8.encode_eq_mark_iff.mpr ⟨characters, sameCharacters, rfl⟩
  have visible : cell ≠ "" := by
    rintro rfl
    simp at sameCharacters
  have shorterFree : ∀ character ∈ quotedCharacters,
      character ∉ (String.ofList characters).toList := by
    intro character mem found
    rw [String.toList_ofList] at found
    exact free character mem (sameCharacters ▸ List.mem_cons_of_mem _ found)
  refine ⟨characters, sameCharacters, ?_⟩
  rw [encodeRow_of_plain rules free (Or.inl visible), bytes]
  split
  · next nothing =>
      rcases nothing with ⟨rfl, rfl⟩
      rfl
  · next something =>
      have stillVisible : String.ofList characters ≠ "" ∨ cells ≠ [] := by
        rw [Classical.not_and_iff_not_or_not] at something
        simpa using something
      rw [encodeRow_of_plain rules shorterFree stillVisible]
      rfl

end

end Csv

/-! ### Tables -/

namespace Table

open Csv

section

variable [Codec] {path : String} {header : Row} {rows : List Row}

/-- A file is loaded as the rows that its records are those of. -/
theorem ofBytes_of_fields {bytes : List UInt8} {records : List Record} (rules : Rules)
    (divided : FileRecords bytes records)
    (same : records.map (·.fields) = (header :: rows).map (·.map Utf8.encode))
    (even : ∀ row ∈ rows, row.length = header.length) :
    ∃ table, ofBytes path bytes = .ok table ∧ table.columns = header.map lowercase ∧
      table.rows = rows := by
  have sameWidth : width records = header.length := by
    have first := congrArg List.head? same
    rw [List.head?_map, List.map_cons, List.head?_cons] at first
    rcases Option.map_eq_some_iff.mp first with ⟨record, found, sameFields⟩
    simp [width, found, sameFields]
  have nonempty : records ≠ [] := by
    rintro rfl
    simp at same
  have sound : ∀ record ∈ records, record.Sound (width records) := by
    intro record mem
    have mapped : record.fields ∈ (header :: rows).map (·.map Utf8.encode) :=
      same ▸ List.mem_map_of_mem mem
    rcases List.mem_map.mp mapped with ⟨row, rowMem, sameFields⟩
    have evenRow : row.length = header.length := by
      rcases List.mem_cons.mp rowMem with rfl | later
      · rfl
      · exact even row later
    exact Record.sound_of_row sameFields (evenRow.trans sameWidth.symm)
  rcases @ofBytes_of_sound _ path _ _ rules divided nonempty sound with
    ⟨otherHeader, table, loaded, columns, sameRows⟩
  have sameRow : ∀ row other : Row, row.map Utf8.encode = other.map Utf8.encode → row = other :=
    fun _ _ => (List.map_inj_right fun _ _ => Utf8.encode_inj.mp).mp
  have sameAll := (List.map_inj_right sameRow).mp (sameRows.trans same)
  obtain ⟨rfl, rfl⟩ := List.cons.inj sameAll
  exact ⟨table, loaded, columns, rfl⟩

theorem ofBytes_encodeRows_of_unmarked (rules : Rules) (wide : header ≠ [])
    (even : ∀ row ∈ rows, row.length = header.length) (unmarked : ¬header.BeginsWithMark) :
    ∃ table, ofBytes path (encodeRows (header :: rows)) = .ok table ∧
      table.columns = header.map lowercase ∧ table.rows = rows := by
  have allWide : ∀ row ∈ header :: rows, row ≠ [] := by
    have later : ∀ row ∈ rows, row ≠ [] := by
      rintro row mem rfl
      exact wide (List.length_eq_zero_iff.mp (even _ mem).symm)
    exact List.forall_mem_cons.mpr ⟨wide, later⟩
  rcases rules.exists_divides_encodeRows allWide {} {} with ⟨records, divides, same⟩
  have noMark : ∀ rest, encodeRows (header :: rows) ≠ 0xEF :: 0xBB :: 0xBF :: rest :=
    fun rest marked => unmarked (beginsWithMark_of_encodeRows rules wide marked)
  exact ofBytes_of_fields rules (.unmarked noMark divides) same even

/-- Something of rows that begin with the mark is lost, even if case is not looked at. -/
theorem ne_of_ofBytes_encodeRows {table : Table} (rules : Rules)
    (even : ∀ row ∈ rows, row.length = header.length) (marked : header.BeginsWithMark)
    (loaded : ofBytes path (encodeRows (header :: rows)) = .ok table) :
    table.columns ≠ header.map lowercase ∨ table.rows ≠ rows := by
  obtain ⟨cell, cells, rfl⟩ : ∃ cell cells, header = cell :: cells := by
    cases header with
    | nil => simp [Row.BeginsWithMark] at marked
    | cons cell cells => exact ⟨cell, cells, rfl⟩
  have allWide : ∀ row ∈ rows, row ≠ [] := by
    rintro row mem rfl
    have sameWidth := even _ mem
    simp at sameWidth
  rcases exists_encodeRow_of_mark rules marked with ⟨characters, sameCharacters, written⟩
  rw [encodeRows_cons, written] at loaded
  split at loaded
  · next nothing =>
      rcases nothing with ⟨-, rfl⟩
      rcases rules.exists_divides_encodeRows allWide {} (Position.after { byte := 3 } 0x0A) with
        ⟨records, divides, same⟩
      have divided := FileRecords.marked (.emptyLine rfl divides)
      right
      -- Behind the empty line the first row becomes the header.
      cases rows with
      | nil =>
          obtain rfl : records = [] := List.map_eq_nil_iff.mp same
          have nothing := @ofBytes_of_nil _ path _ rules divided
          exact absurd (nothing.symm.trans loaded) (by simp)
      | cons row rows =>
          rcases List.forall_mem_cons.mp even with ⟨rowWidth, laterWidth⟩
          rcases ofBytes_of_fields rules divided same
            (fun other mem => (laterWidth other mem).trans rowWidth.symm) with
            ⟨otherTable, otherLoaded, -, rfl⟩
          obtain rfl := Except.ok.inj (otherLoaded.symm.trans loaded)
          simp
  · left
    rcases rules.exists_divides_encodeRows
      (List.forall_mem_cons.mpr ⟨List.cons_ne_nil (String.ofList characters) cells, allWide⟩) {}
      { byte := 3 } with ⟨records, divides, same⟩
    rcases ofBytes_of_fields rules (.marked divides) same even with
      ⟨otherTable, otherLoaded, columns, -⟩
    obtain rfl := Except.ok.inj (otherLoaded.symm.trans loaded)
    rw [columns]
    intro sameColumns
    exact lowercase_ne_of_mark sameCharacters (List.cons.inj sameColumns).1

theorem ofBytes_encodeRows_iff (rules : Rules) (wide : header ≠ [])
    (even : ∀ row ∈ rows, row.length = header.length) :
    (∃ table, ofBytes path (encodeRows (header :: rows)) = .ok table ∧
      table.columns = header.map lowercase ∧ table.rows = rows) ↔ ¬header.BeginsWithMark := by
  constructor
  · rintro ⟨table, loaded, columns, sameRows⟩ marked
    rcases ne_of_ofBytes_encodeRows rules even marked loaded with different | different
    · exact different columns
    · exact different sameRows
  · exact ofBytes_encodeRows_of_unmarked rules wide even

/--
What was written is loaded again, unless the first cell begins with the byte order mark and stands
without quotes.
-/
theorem load_writeRows_iff {disk : Disk} (rules : Rules) (wide : header ≠ [])
    (even : ∀ row ∈ rows, row.length = header.length)
    (written : (disk.perform (writeRows path (header :: rows))).1 = .ok ()) :
    (∃ table,
      ((disk.perform (writeRows path (header :: rows))).2.perform (Table.load path)).1 =
        .ok table ∧
      table.columns = header.map lowercase ∧ table.rows = rows) ↔ ¬header.BeginsWithMark := by
  rw [← @ofBytes_encodeRows_iff _ path _ _ rules wide even]
  rw [Disk.perform_writeRows] at written ⊢
  have replaced : (disk.replace path (encodeRows (header :: rows))).1 = .ok () := by
    cases done : (disk.replace path (encodeRows (header :: rows))).1 with
    | ok answer => rfl
    | error fault => simp [done, Except.mapError] at written
  simp only [Disk.perform_load, Disk.read_replace replaced]

end

/-- Cells of every kind are loaded again, but not a header with the mark. -/
theorem load_writeRows_sample :
    (∃ table, ((({} : Disk).perform (writeRows "t.csv" [["A,b", ""], ["\"", "\r\n"]])).2.perform
        (load "t.csv")).1 = .ok table ∧
      table.columns = ["A,b", ""].map lowercase ∧ table.rows = [["\"", "\r\n"]]) ∧
    ¬∃ table, ((({} : Disk).perform (writeRows "t.csv" [["\uFEFFA"], ["1"]])).2.perform
        (load "t.csv")).1 = .ok table ∧
      table.columns = ["\uFEFFA"].map lowercase ∧ table.rows = [["1"]] := by
  have even : ∀ row ∈ [["\"", "\r\n"]], row.length = ["A,b", ""].length := by decide
  have evenMarked : ∀ row ∈ [["1"]], row.length = ["\uFEFFA"].length := by decide
  have unmarked : ¬Row.BeginsWithMark ["A,b", ""] := by simp [Row.BeginsWithMark, Utf8.mark]
  have marked : Row.BeginsWithMark ["\uFEFFA"] := by
    simp [Row.BeginsWithMark, Utf8.mark, quotedCharacters]
  constructor
  · exact (load_writeRows_iff Standard.rules (by decide) even rfl).mpr unmarked
  · intro loaded
    exact (load_writeRows_iff Standard.rules (by decide) evenMarked rfl).mp loaded marked

end Table

end CsvSelect
