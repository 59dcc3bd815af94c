import Mathlib.Tactic.Push
import CsvSelect.Proofs.Csv.Standard
import CsvSelect.Proofs.Storage.Actions

/-!
# What is wrong with a file

A file is loaded exactly if it has records and all of them are sound. Otherwise the first record
that is not sound is the one that is reported. The check of the width by the table itself never
finds anything.

Since the records up to a line end outside quotes do not depend on what is behind it, neither does
the fault of a record that is ended there. A record that is ended by the end of the file goes on if
bytes are added, and what was wrong with it may then be right (`Table.load_extended`).

All this follows from the rules of the package.
-/

namespace CsvSelect

open Text

namespace Csv

/-! ### Records with faults -/

theorem exists_decode_error_iff {field : List UInt8} :
    (∃ valid, Utf8.decode field = .error valid) ↔ ¬IsText field := by
  constructor
  · rintro ⟨valid, invalid⟩ ⟨text, rfl⟩
    rw [Utf8.decode_encode] at invalid
    cases invalid
  · intro noText
    cases decoded : Utf8.decode field with
    | error valid => exact ⟨valid, rfl⟩
    | ok text => exact absurd ⟨text, Utf8.encode_of_decode decoded⟩ noText

/-- The first of the items that do not satisfy a property. -/
theorem exists_first {Item : Type} {Good : Item → Prop} {items : List Item}
    (bad : ∃ item ∈ items, ¬Good item) :
    ∃ before item after, items = before ++ item :: after ∧
      (∀ other ∈ before, Good other) ∧ ¬Good item := by
  induction items with
  | nil => simp at bad
  | cons first items ih =>
      by_cases good : Good first
      · have later : ∃ item ∈ items, ¬Good item := by simpa [good] using bad
        rcases ih later with ⟨before, item, after, rfl, sound, faulty⟩
        exact ⟨first :: before, item, after, rfl, by simpa [good] using sound, faulty⟩
      · exact ⟨[], first, items, rfl, by simp, good⟩

section

variable {record : Record} {number width : Nat}

theorem Record.exists_reports_iff :
    (∃ fault, record.Reports number width fault) ↔ ¬record.Sound width := by
  constructor
  · rintro ⟨fault, reports⟩ sound
    cases reports with
    | unequalWidth different => exact different sound.even
    | invalidUtf8 even divided texts invalid =>
        have text := sound.texts _ (by rw [divided]; exact List.mem_append_cons_self)
        exact exists_decode_error_iff.mp ⟨_, invalid⟩ text
  · intro faulty
    by_cases even : record.fields.length = width
    · have noTexts : ∃ field ∈ record.fields, ¬IsText field := by
        by_contra! texts
        exact faulty ⟨even, texts⟩
      rcases exists_first noTexts with ⟨before, field, after, divided, texts, noText⟩
      rcases exists_decode_error_iff.mpr noText with ⟨valid, invalid⟩
      exact ⟨_, .invalidUtf8 even divided texts invalid⟩
    · exact ⟨_, .unequalWidth even⟩

end

/-- The record behind these is the first one that is not sound. -/
structure FirstFaulty (records before : List Record) (record : Record) : Prop where
  found : ∃ after, records = before ++ record :: after
  sound : ∀ other ∈ before, other.Sound (width records)
  faulty : ¬record.Sound (width records)

section

variable {bytes : List UInt8} {records before : List Record} {record : Record}

theorem exists_firstFaulty (faulty : ∃ record ∈ records, ¬record.Sound (width records)) :
    ∃ before record fault, FirstFaulty records before record ∧
      record.Reports before.length (width records) fault := by
  rcases exists_first faulty with ⟨before, record, after, found, sound, faulty⟩
  rcases Record.exists_reports_iff.mpr faulty with ⟨fault, reports⟩
  exact ⟨before, record, fault, ⟨⟨after, found⟩, sound, faulty⟩, reports⟩

/-- There is no other one. -/
theorem FirstFaulty.unique {otherBefore : List Record} {other : Record}
    (first : FirstFaulty records before record) (second : FirstFaulty records otherBefore other) :
    before = otherBefore ∧ record = other := by
  rcases first.found with ⟨after, found⟩
  rcases second.found with ⟨otherAfter, otherFound⟩
  rw [found] at otherFound
  rcases List.append_eq_append_iff.mp otherFound with ⟨more, rfl, same⟩ | ⟨more, rfl, same⟩
  · cases more with
    | nil => exact ⟨(List.append_nil before).symm, (List.cons.inj same).1⟩
    | cons next more =>
        obtain rfl : record = next := (List.cons.inj same).1
        exact absurd (second.sound record List.mem_append_cons_self) first.faulty
  · cases more with
    | nil => exact ⟨List.append_nil otherBefore, (List.cons.inj same).1.symm⟩
    | cons next more =>
        obtain rfl : other = next := (List.cons.inj same).1
        exact absurd (first.sound other List.mem_append_cons_self) second.faulty

/-- It stays the first one if the bytes behind its line end are replaced. -/
theorem FirstFaulty.take_append (first : FirstFaulty records before record)
    (divided : FileRecords bytes records) (closed : record.closed = true) (other : List UInt8) :
    ∃ others, FileRecords (bytes.take record.stop.byte ++ other) others ∧
      FirstFaulty others before record ∧ width others = width records := by
  rcases first with ⟨⟨after, rfl⟩, sound, faulty⟩
  rcases divided.take_append closed other with ⟨after', divided'⟩
  have sameWidth : width (before ++ record :: after') = width (before ++ record :: after) := by
    cases before <;> rfl
  exact ⟨_, divided', ⟨⟨after', rfl⟩, sameWidth ▸ sound, sameWidth ▸ faulty⟩, sameWidth⟩

end

end Csv

/-! ### Loading -/

namespace Table

open Csv

section

variable [Codec] {disk : Disk} {path : String} {bytes : List UInt8} {records before : List Record}
  {record : Record}

theorem ofBytes_of_firstFaulty {fault : Fault} (rules : Rules)
    (divided : FileRecords bytes records) (first : FirstFaulty records before record)
    (reports : record.Reports before.length (width records) fault) :
    ofBytes path bytes = .error (.csv fault.message) := by
  rcases first with ⟨⟨after, rfl⟩, sound, -⟩
  exact ofBytes_of_reports rules divided sound reports

theorem ofBytes_of_faulty (rules : Rules) (divided : FileRecords bytes records)
    (faulty : ¬∀ record ∈ records, record.Sound (width records)) :
    ∃ words, ofBytes path bytes = .error (.csv words) := by
  push Not at faulty
  rcases exists_firstFaulty faulty with ⟨before, record, fault, first, reports⟩
  exact ⟨_, ofBytes_of_firstFaulty rules divided first reports⟩

theorem perform_load_of_readable (readable : disk.read path = .ok bytes) :
    (disk.perform (load path)).1 = ofBytes path bytes := by
  rw [Disk.perform_load, readable]

/-- There is a table only if there are records and all of them are sound. -/
theorem ofBytes_eq_ok_iff (rules : Rules) (divided : FileRecords bytes records) :
    (∃ table, ofBytes path bytes = .ok table) ↔
      records ≠ [] ∧ ∀ record ∈ records, record.Sound (width records) := by
  constructor
  · rintro ⟨table, loaded⟩
    constructor
    · rintro rfl
      rw [ofBytes_of_nil rules divided] at loaded
      cases loaded
    · by_contra faulty
      rcases @ofBytes_of_faulty _ path _ _ rules divided faulty with ⟨words, reported⟩
      rw [reported] at loaded
      cases loaded
  · rintro ⟨nonempty, sound⟩
    rcases @ofBytes_of_sound _ path _ _ rules divided nonempty sound with
      ⟨header, table, loaded, -⟩
    exact ⟨table, loaded⟩

/-- The bytes are no table, or one with the texts of the records that has at least one column. -/
theorem ofBytes_cases (rules : Rules) (divided : FileRecords bytes records) :
    (∃ header table, ofBytes path bytes = .ok table ∧ table.columns ≠ [] ∧
      (∀ row ∈ table.rows, row.length = table.columns.length) ∧
      table.columns = header.map lowercase ∧
      (header :: table.rows).map (·.map Utf8.encode) = records.map (·.fields)) ∨
    ∃ words, ofBytes path bytes = .error (.csv words) := by
  by_cases empty : records = []
  · subst empty
    exact Or.inr ⟨_, ofBytes_of_nil rules divided⟩
  by_cases sound : ∀ record ∈ records, record.Sound (width records)
  · rcases @ofBytes_of_sound _ path _ _ rules divided empty sound with
      ⟨header, table, loaded, columns, same⟩
    have someColumns : table.columns ≠ [] := by
      obtain ⟨first, others, rfl⟩ := List.exists_cons_of_ne_nil empty
      have visible := divided.fields_ne_nil first List.mem_cons_self
      rintro nothing
      obtain rfl : header = [] := List.map_eq_nil_iff.mp (columns ▸ nothing)
      exact visible (List.cons.inj same).1.symm
    exact Or.inl ⟨header, table, loaded, someColumns, table.rectangular, columns, same⟩
  · exact Or.inr (ofBytes_of_faulty rules divided sound)

/--
A file that can be read is loaded or has a fault in itself. The first record that is not sound is
reported. If a line end ends it, the bytes behind it do not matter; if none does, there are none.
-/
theorem load_of_readable (rules : Rules) (readable : disk.read path = .ok bytes) :
    ∃ records, (∀ others, FileRecords bytes others ↔ others = records) ∧
      ((∃ header table, (disk.perform (load path)).1 = .ok table ∧ table.columns ≠ [] ∧
          (∀ row ∈ table.rows, row.length = table.columns.length) ∧
          table.columns = header.map lowercase ∧
          (header :: table.rows).map (·.map Utf8.encode) = records.map (·.fields)) ∨
        ∃ words, (disk.perform (load path)).1 = .error (.csv words)) ∧
      ((∃ table, (disk.perform (load path)).1 = .ok table) ↔
        records ≠ [] ∧ ∀ record ∈ records, record.Sound (width records)) ∧
      ((∃ record ∈ records, ¬record.Sound (width records)) →
        ∃ before record fault, FirstFaulty records before record ∧
          record.Reports before.length (width records) fault ∧
          (disk.perform (load path)).1 = .error (.csv fault.message) ∧
          (record.closed = true → ∀ (other : List UInt8) (otherDisk : Disk),
            otherDisk.read path = .ok (bytes.take record.stop.byte ++ other) →
              (otherDisk.perform (load path)).1 = .error (.csv fault.message)) ∧
          (record.closed = false → record.stop.byte = bytes.length)) := by
  rw [perform_load_of_readable readable]
  rcases exists_fileRecords bytes with ⟨records, divided⟩
  have only : ∀ others, FileRecords bytes others ↔ others = records := fun others =>
    ⟨fun other => other.unique divided, fun same => same ▸ divided⟩
  refine ⟨records, only, ofBytes_cases rules divided, ofBytes_eq_ok_iff rules divided, ?_⟩
  intro faulty
  rcases exists_firstFaulty faulty with ⟨before, record, fault, first, reports⟩
  refine ⟨before, record, fault, first, reports,
    ofBytes_of_firstFaulty rules divided first reports, ?_, ?_⟩
  · intro closed other otherDisk otherReadable
    rcases first.take_append divided closed other with
      ⟨others, otherDivided, otherFirst, sameWidth⟩
    rw [perform_load_of_readable otherReadable]
    exact ofBytes_of_firstFaulty rules otherDivided otherFirst (sameWidth ▸ reports)
  · intro unclosed
    rcases first.found with ⟨after, rfl⟩
    exact divided.stop_eq_length unclosed

end

/-! ### Records that are too short -/

theorem isField_singleton {byte : UInt8} {rest : List UInt8} (noQuote : byte ≠ quote)
    (whole : isSeparator byte = false) (stops : Stops rest) : IsField [byte] [byte] rest :=
  .plain (by simpa using noQuote) (List.forall_mem_singleton.mpr whole) stops

/-- Two fields of one byte that has no meaning, in front of a line feed. -/
theorem isRecord_pair {first second : UInt8} (noQuote : first ≠ quote ∧ second ≠ quote)
    (whole : isSeparator first = false ∧ isSeparator second = false) (rest : List UInt8) :
    IsRecord [first, comma, second] [[first], [second]] (0x0A :: rest) := by
  have stops : Stops (comma :: ([second] ++ 0x0A :: rest)) := by simp [Stops, isSeparator]
  have stopsLast : Stops (0x0A :: rest) := by simp [Stops, isSeparator, isLineEnd]
  have last : IsRecord [second] [[second]] (0x0A :: rest) :=
    .last (isField_singleton noQuote.2 whole.2 stopsLast) (by simp [EndsRecord, isLineEnd])
  exact .more (isField_singleton noQuote.1 whole.1 stops) last

/-- The record `a,b` at the beginning of a file. -/
def pairHeader : Record where
  start := {}
  fields := [[0x61], [0x62]]
  stop := { line := 2, byte := 4 }
  closed := true

theorem sound_pairHeader : pairHeader.Sound 2 :=
  @Record.sound_of_row 2 pairHeader ["a", "b"] rfl rfl

/-- A record of one field behind this header is the first one with a fault. -/
theorem firstFaulty_second {second : Record} (short : second.fields.length = 1)
    (after : List Record) : FirstFaulty (pairHeader :: second :: after) [pairHeader] second := by
  have wide : width (pairHeader :: second :: after) = 2 := rfl
  refine ⟨⟨after, rfl⟩, ?_, ?_⟩
  · rw [wide, List.forall_mem_singleton]
    exact sound_pairHeader
  · intro secondSound
    have even := secondSound.even
    rw [wide, short] at even
    cases even

theorem isRecord_singleton {byte : UInt8} (noQuote : byte ≠ quote)
    (whole : isSeparator byte = false) : IsRecord [byte] [[byte]] [] :=
  .last (isField_singleton noQuote whole (by simp [Stops])) (by simp [EndsRecord])

/--
A quoted line end belongs to the field. The record is too short, and bytes that are no text can
stand in the place of the next one.
-/
theorem load_of_readable_sample :
    ((({} : Disk).put ["t.csv"] (.file (Utf8.encode "a,b\n\"1\n\"\nx"))).perform
        (load "t.csv")).1 =
      .error (.csv (Fault.unequalWidth 1 { line := 2, byte := 4 } 1 2).message) ∧
    ((({} : Disk).put ["t.csv"] (.file (Utf8.encode "a,b\n\"1\n\"\n" ++ [0xFF]))).perform
        (load "t.csv")).1 =
      .error (.csv (Fault.unequalWidth 1 { line := 2, byte := 4 } 1 2).message) := by
  have readable : (({} : Disk).put ["t.csv"]
      (.file (Utf8.encode "a,b\n\"1\n\"\nx"))).read "t.csv" =
        .ok (Utf8.encode "a,b\n\"1\n\"\nx") := rfl
  have bytes : Utf8.encode "a,b\n\"1\n\"\nx" =
      [0x61, comma, 0x62] ++ 0x0A :: (Quoted.enclose quote [0x31, 0x0A] ++ 0x0A :: [0x78]) := rfl
  have header := @isRecord_pair 0x61 0x62 (by decide) (by decide)
  have second : IsRecord (Quoted.enclose quote [0x31, 0x0A]) [[0x31, 0x0A]] (0x0A :: [0x78]) := by
    have isField := @IsField.quoted [0x31, 0x0A] [] (0x0A :: [0x78]) (by simp)
      (List.forall_mem_nil _) (by simp [Stops, isSeparator, isLineEnd])
    exact .last isField (by simp [EndsRecord, isLineEnd])
  have last := @isRecord_singleton 0x78 (by decide) (by decide)
  have divided : FileRecords (Utf8.encode "a,b\n\"1\n\"\nx")
      [pairHeader,
        { start := { line := 2, byte := 4 }, fields := [[0x31, 0x0A]]
          stop := { line := 4, byte := 9 }, closed := true },
        { start := { line := 4, byte := 9 }, fields := [[0x78]]
          stop := { line := 4, byte := 10 }, closed := false }] := by
    rw [bytes]
    exact .unmarked (by simp [comma]) (.record (by simp) (header _) rfl
      (.record (by simp [Quoted.enclose]) second rfl (.lastRecord (by simp) last)))
  rcases load_of_readable Standard.rules readable with ⟨records, only, -, -, reported⟩
  obtain rfl := (only _).mp divided
  have firstFaulty := @firstFaulty_second
    { start := { line := 2, byte := 4 }, fields := [[0x31, 0x0A]]
      stop := { line := 4, byte := 9 }, closed := true } rfl
    [{ start := { line := 4, byte := 9 }, fields := [[0x78]]
       stop := { line := 4, byte := 10 }, closed := false }]
  rcases reported ⟨_, List.mem_cons_of_mem _ List.mem_cons_self, firstFaulty.faulty⟩ with
    ⟨before, record, fault, first, reports, loaded, replaced, -⟩
  obtain ⟨rfl, rfl⟩ := firstFaulty.unique first
  have sameFault : fault = .unequalWidth 1 { line := 2, byte := 4 } 1 2 := by
    cases reports with
    | unequalWidth => rfl
    | invalidUtf8 even => exact absurd even (by decide)
  subst sameFault
  exact ⟨loaded, replaced rfl [0xFF] _ rfl⟩

/--
The end of a file ends a record, too. If it is too short, it can become long enough by the bytes
that are added there.
-/
theorem load_extended :
    ∃ records before record, FileRecords (Utf8.encode "a,b\n1") records ∧
      FirstFaulty records before record ∧ record.stop.byte = 5 ∧
      ((({} : Disk).put ["t.csv"] (.file (Utf8.encode "a,b\n1"))).perform (load "t.csv")).1 =
        .error (.csv (Fault.unequalWidth 1 { line := 2, byte := 4 } 1 2).message) ∧
      ∃ table, ((({} : Disk).put ["t.csv"]
          (.file ((Utf8.encode "a,b\n1").take 5 ++ Utf8.encode ",2\n"))).perform
            (load "t.csv")).1 = .ok table := by
  have bytes : Utf8.encode "a,b\n1" = [0x61, comma, 0x62] ++ 0x0A :: [0x31] := rfl
  have longer : (Utf8.encode "a,b\n1").take 5 ++ Utf8.encode ",2\n" =
      [0x61, comma, 0x62] ++ 0x0A :: ([0x31, comma, 0x32] ++ 0x0A :: []) := rfl
  have header := @isRecord_pair 0x61 0x62 (by decide) (by decide)
  have pair := @isRecord_pair 0x31 0x32 (by decide) (by decide)
  have last := @isRecord_singleton 0x31 (by decide) (by decide)
  have divided : FileRecords (Utf8.encode "a,b\n1")
      [pairHeader,
        { start := { line := 2, byte := 4 }, fields := [[0x31]], stop := { line := 2, byte := 5 }
          closed := false }] := by
    rw [bytes]
    exact .unmarked (by simp [comma]) (.record (by simp) (header _) rfl
      (.lastRecord (by simp) last))
  have first := @firstFaulty_second
    { start := { line := 2, byte := 4 }, fields := [[0x31]], stop := { line := 2, byte := 5 }
      closed := false } rfl []
  have reports : Record.Reports 1 2
      { start := { line := 2, byte := 4 }, fields := [[0x31]], stop := { line := 2, byte := 5 }
        closed := false } (.unequalWidth 1 { line := 2, byte := 4 } 1 2) :=
    .unequalWidth (by decide)
  refine ⟨_, _, _, divided, first, rfl, ?_, ?_⟩
  · rw [perform_load_of_readable rfl]
    exact ofBytes_of_firstFaulty Standard.rules divided first reports
  · rw [perform_load_of_readable rfl, longer]
    have longerDivided := FileRecords.unmarked (by simp [comma])
      (.record (by simp) (header _) rfl (.record (by simp) (pair _) rfl .ended))
    refine (ofBytes_eq_ok_iff Standard.rules longerDivided).mpr ⟨by simp, ?_⟩
    simp only [List.forall_mem_cons]
    exact ⟨sound_pairHeader, @Record.sound_of_row 2 _ ["1", "2"] rfl rfl, by simp⟩

end Table

end CsvSelect
