import CsvSelect.Table

/-!
# Tables that are built from rows

A table is built from a header and rows exactly if all rows are as wide as the header. It then has
the lower case of the header and the rows as they are. A column that is found by its name lies
inside every row.
-/

namespace CsvSelect.Table

open Text

theorem raggedRow?_eq_none {width : Nat} {rows : List Row}
    (even : ∀ row ∈ rows, row.length = width) : raggedRow? width rows = none := by
  rw [raggedRow?, List.findSome?_eq_none_iff]
  intro (row, number) mem
  exact if_pos (even row (List.fst_mem_of_mem_zipIdx mem))

theorem ofRows_eq_ok_iff {name : String} {header : List String} {rows : List Row} {table : Table} :
    ofRows name header rows = .ok table ↔
      (∀ row ∈ rows, row.length = header.length) ∧ table.name = name ∧
        table.columns = header.map lowercase ∧ table.rows = rows := by
  constructor
  · intro built
    rw [ofRows] at built
    split at built
    · simp at built
    · next even =>
        cases built
        exact ⟨length_eq_of_raggedRow?_eq_none even, rfl, rfl, rfl⟩
  · rcases table with ⟨tableName, columns, tableRows, rectangular⟩
    rintro ⟨even, rfl, rfl, rfl⟩
    have noneRagged := raggedRow?_eq_none even
    rw [ofRows]
    split
    · next ragged found => simp [noneRagged] at found
    · rfl

theorem ofRows_of_even (name : String) {header : List String} {rows : List Row}
    (even : ∀ row ∈ rows, row.length = header.length) :
    ∃ table, ofRows name header rows = .ok table ∧ table.columns = header.map lowercase ∧
      table.rows = rows :=
  ⟨⟨name, header.map lowercase, rows, by simpa using even⟩,
    ofRows_eq_ok_iff.mpr ⟨even, rfl, rfl, rfl⟩, rfl, rfl⟩

theorem columnIndex?_lt {table : Table} {name : String} {index : Nat}
    (found : table.columnIndex? name = some index) : index < table.columns.length :=
  (List.findIdx?_eq_some_iff_findIdx_eq.mp found).1

end CsvSelect.Table
