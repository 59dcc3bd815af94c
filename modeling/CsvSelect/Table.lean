import CsvSelect.Text.Casing

/-!
# Tables

A table has a name, column names in lower case and rows of text cells, all as wide as the header.
Columns are looked up without regard to the case of ASCII letters, and the first one of a name wins.

Normalisation turns cells such as `6.0` into `6`. A cell that was changed holds no dot, so a
second normalisation finds nothing to do (`normalize_normalize`).
-/

namespace CsvSelect

open Text

/-- The cells of one line of a table, in header order. -/
abbrev Row := List String

/-- A row that is not as wide as the header. Rows count from one. -/
structure RaggedRow where
  row : Nat
  found : Nat
  expected : Nat
deriving DecidableEq

/-- A header and rows, all as wide as the header. -/
structure Table where
  name : String
  columns : List String
  rows : List Row
  rectangular : ∀ row ∈ rows, row.length = columns.length

namespace Table

/-- The first row that has not this width. -/
def raggedRow? (width : Nat) (rows : List Row) : Option RaggedRow :=
  (rows.zipIdx 1).findSome? fun (row, number) =>
    if row.length = width then none else some ⟨number, row.length, width⟩

theorem length_eq_of_raggedRow?_eq_none {width : Nat} {rows : List Row}
    (even : raggedRow? width rows = none) : ∀ row ∈ rows, row.length = width := by
  intro row mem
  obtain ⟨index, bound, rfl⟩ := List.mem_iff_getElem.1 mem
  have whole := List.findSome?_eq_none_iff.1 even (rows[index], 1 + index)
    (List.mk_add_mem_zipIdx_iff_getElem?.2 (List.getElem?_eq_getElem bound))
  simpa using whole

/-- The table of this header, in lower case, and these rows, which must be as wide as the header. -/
def ofRows (name : String) (header : List String) (rows : List Row) : Except RaggedRow Table :=
  match even : raggedRow? header.length rows with
  | some ragged => .error ragged
  | none => .ok {
      name
      columns := header.map lowercase
      rows
      rectangular := by simpa using length_eq_of_raggedRow?_eq_none even }

/-- The index of the first column with this name, apart from the case of ASCII letters. -/
def columnIndex? (table : Table) (name : String) : Option Nat :=
  table.columns.findIdx? (sameIgnoringCase · name)

/-- The table has a column of this name. -/
def hasColumn (table : Table) (name : String) : Bool :=
  (table.columnIndex? name).isSome

end Table

/-- Somewhere in the text a dot stands between two digits. -/
def hasDecimal : List Char → Bool
  | left :: dot :: right :: rest =>
      (left.isDigit && dot == '.' && right.isDigit) || hasDecimal (dot :: right :: rest)
  | _ => false

/--
The text before the first dot, for a cell that has a decimal somewhere and of which nothing but one
zero stands between the first dot and the next, or the end.
-/
def integralPart? (cell : String) : Option String :=
  let notDot := fun character : Char => character != '.'
  let fraction := ((cell.toList.dropWhile notDot).drop 1).takeWhile notDot
  if hasDecimal cell.toList && fraction == ['0'] then
    some (String.ofList (cell.toList.takeWhile notDot))
  else none

/-- The cell without a fraction of zero. -/
def normalizeCell (cell : String) : String :=
  (integralPart? cell).getD cell

theorem mem_dot_of_hasDecimal {characters : List Char} (decimal : hasDecimal characters = true) :
    '.' ∈ characters := by
  fun_induction hasDecimal characters with
  | case1 left dot right rest ih =>
      simp only [Bool.or_eq_true, Bool.and_eq_true, beq_iff_eq] at decimal
      rcases decimal with ⟨⟨-, rfl⟩, -⟩ | later
      · simp
      · exact List.mem_cons_of_mem _ (ih later)
  | case2 => simp at decimal

/-- A cell that was changed is not changed again. -/
theorem integralPart?_normalizeCell (cell : String) :
    integralPart? (normalizeCell cell) = none := by
  unfold normalizeCell
  cases found : integralPart? cell with
  | none => simpa using found
  | some whole =>
      simp only [Option.getD_some]
      unfold integralPart? at found ⊢
      simp only [Option.ite_none_right_eq_some, Option.some.injEq] at found
      obtain ⟨-, rfl⟩ := found
      simp only [String.toList_ofList, ite_eq_right_iff, Bool.and_eq_true, reduceCtorEq, imp_false,
        not_and]
      intro decimal
      have dot := List.all_eq_true.1 List.all_takeWhile _ (mem_dot_of_hasDecimal decimal)
      simp at dot

@[simp] theorem normalizeCell_normalizeCell (cell : String) :
    normalizeCell (normalizeCell cell) = normalizeCell cell := by
  change (integralPart? (normalizeCell cell)).getD (normalizeCell cell) = normalizeCell cell
  rw [integralPart?_normalizeCell, Option.getD_none]

namespace Table

/-- The table with all cells normalised. -/
def normalize (table : Table) : Table where
  name := table.name
  columns := table.columns
  rows := table.rows.map (·.map normalizeCell)
  rectangular := by
    intro row mem
    obtain ⟨source, sourceMem, rfl⟩ := List.mem_map.1 mem
    simpa using table.rectangular source sourceMem

/-- The number of cells that normalisation changes. -/
def decimalCells (table : Table) : Nat :=
  table.rows.flatten.countP fun cell => (integralPart? cell).isSome

@[simp] theorem normalize_normalize (table : Table) :
    table.normalize.normalize = table.normalize := by
  simp [normalize]

end Table

end CsvSelect
