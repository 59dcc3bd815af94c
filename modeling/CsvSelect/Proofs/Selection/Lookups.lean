import Mathlib.Data.List.GetD
import CsvSelect.Proofs.Query.Quoting
import CsvSelect.Proofs.Selection.Operators
import CsvSelect.Proofs.Selection.Positions
import CsvSelect.Proofs.Tables

/-!
# Looking up a stored value

A value that is stored in a table is looked up by asking for the rows that have this text in the
column. Such a query compares texts, so no cell mismatches it, and on a table with this name and
this column it always succeeds (`RowQuery.execute_statement`). But the cells are normalised before
they are compared, and the text in the query is not. So a row is found by the text that is stored in
it exactly if normalisation leaves this text alone (`Table.query_stored`). A stored `6.0` is
compared as `6` and is not found as `6.0`.
-/

namespace CsvSelect

open Text Query

/-- The row with all its cells normalised. -/
def normalizeRow (row : Row) : Row :=
  row.map normalizeCell

theorem normalizeRow_eq_self_iff {row : Row} :
    normalizeRow row = row ↔ ∀ cell ∈ row, normalizeCell cell = cell := by
  rw [normalizeRow]
  conv_lhs => rhs; rw [← List.map_id row]
  exact List.map_inj_left

theorem normalizeRow_normalizeRow (row : Row) :
    normalizeRow (normalizeRow row) = normalizeRow row := by
  rw [normalizeRow_eq_self_iff]
  intro cell mem
  rcases List.mem_map.mp mem with ⟨source, -, rfl⟩
  exact normalizeCell_normalizeCell source

namespace Query.RowQuery

variable {query : RowQuery} {table : Table}

/-- The query is one of the comparisons with a single operator. -/
theorem statement_eq (query : RowQuery) :
    query.statement = comparisonQuery (some (.ofName query.table)) (.ofName query.condition.column)
      { kind := .string, value := query.condition.value } query.condition.operator := rfl

theorem acceptedBy (named : query.table = table.name)
    (known : table.hasColumn query.condition.column) : query.statement.AcceptedBy table where
  items := by simp [statement, Projection.named]
  named := ⟨_, rfl, named⟩
  clauses := by
    intro entry mem
    rcases List.mem_singleton.mp mem with rfl
    refine ⟨rfl, known, ?_⟩
    exact Option.isSome_of_mem query.condition.operator.operator?_token

/-- Every cell has an order to a text, so the query selects rows and meets no mismatch. -/
theorem execute_statement (named : query.table = table.name)
    (known : table.hasColumn query.condition.column) :
    (table.execute query.statement).1 = .ok (table.normalize.rows.filter fun row =>
      query.condition.operator.holds
        (compare (table.cellUnder row query.condition.column) query.condition.value)) := by
  have noMismatch : query.statement.mismatches table = fun _ => [] := by
    funext row
    rw [statement_eq, mismatches_comparisonQuery]
    rfl
  have keeps : query.statement.keeps table = fun row => query.condition.operator.holds
      (compare (table.cellUnder row query.condition.column) query.condition.value) := by
    funext row
    rw [statement_eq, keeps_comparisonQuery]
    have known := query.condition.operator.operator?_token
    simp only [Condition.holdsOn, comparing, known]
    rfl
  have cells : query.statement.projection.cells table = id := rfl
  have nothing : table.normalize.rows.flatMap (fun _ => ([] : List SelectionError)) = [] :=
    List.flatMap_eq_nil_iff.mpr fun _ _ => rfl
  rw [Table.execute_of_acceptedBy (acceptedBy named known), noMismatch, keeps, cells, List.map_id,
    nothing, verdict_nil]
  rfl

end Query.RowQuery

namespace Table

variable {name : String} {header : List String} {rows : List Row} {table : Table}

/-- The query for the rows that have this text in the column. -/
def lookup (name column value : String) : RowQuery where
  table := name
  condition := ⟨column, .equal, value⟩

/-- A text is looked up among the normalised cells of the column. -/
theorem query_lookup (built : ofRows name header rows = .ok table) {column : String} {index : Nat}
    (first : table.columnIndex? column = some index) (value : String) :
    (table.query (lookup name column value).text).1 =
      .ok ((rows.map normalizeRow).filter fun row => row[index]? = some value) := by
  rcases ofRows_eq_ok_iff.mp built with ⟨-, named, -, rfl⟩
  have known : table.hasColumn column := by simp [hasColumn, first]
  rcases parse_of_scans (lookup name column value).scans_text with ⟨statement, parsed, same⟩
  rw [RowQuery.statement_sentence] at same
  have answered : (table.execute (lookup name column value).statement).1 = _ :=
    RowQuery.execute_statement named.symm known
  rw [query_of_parse parsed same, answered]
  apply congrArg Except.ok
  apply List.filter_congr
  intro row mem
  have width := table.normalize.rectangular row mem
  have inside : index < row.length := by
    rw [width]
    exact columnIndex?_lt first
  have cell : table.cellUnder row column = row[index] := by
    rw [← List.getD_eq_getElem row "" inside]
    exact (getD_eq_cellUnder width first).symm
  have compared : Operator.equal.holds (compare (table.cellUnder row column) value) = true ↔
      table.cellUnder row column = value :=
    beq_iff_eq.trans Std.compare_eq_iff_eq
  rw [cell] at compared
  simp only [List.getElem?_eq_getElem inside, Option.some.injEq]
  rw [Bool.eq_iff_iff, decide_eq_true_eq, ← compared, ← cell]
  rfl

/--
A query for a stored text succeeds. It finds the row that holds the text, with its cells normalised,
exactly if normalisation does not change the text, and finds the row as it is stored exactly if
normalisation changes none of its cells.
-/
theorem query_stored (built : ofRows name header rows = .ok table) {row : Row} (mem : row ∈ rows)
    {column : String} {index : Nat} (first : table.columnIndex? column = some index)
    {cell : String} (stored : row[index]? = some cell) :
    ∃ answer, (table.query (lookup name column cell).text).1 = .ok answer ∧
      answer = (rows.map normalizeRow).filter (fun other => other[index]? = some cell) ∧
      (normalizeRow row ∈ answer ↔ normalizeCell cell = cell) ∧
      (row ∈ answer ↔ ∀ other ∈ row, normalizeCell other = other) := by
  refine ⟨_, query_lookup built first cell, rfl, ?_, ?_⟩
  · have normalized : (normalizeRow row)[index]? = some (normalizeCell cell) := by
      rw [normalizeRow, List.getElem?_map, stored, Option.map_some]
    rw [List.mem_filter, normalized, decide_eq_true_eq, Option.some.injEq]
    exact and_iff_right (List.mem_map_of_mem mem)
  · rw [List.mem_filter, decide_eq_true_eq, and_iff_left stored, ← normalizeRow_eq_self_iff]
    constructor
    · intro found
      rcases List.mem_map.mp found with ⟨source, -, rfl⟩
      exact normalizeRow_normalizeRow source
    · intro unchanged
      rw [← unchanged]
      exact List.mem_map_of_mem mem

/-- A table of two releases, of which only the first has a fraction that is zero. -/
def releases : Table where
  name := "t"
  columns := ["version", "year"]
  rows := [["6.0", "2001"], ["6.5", "2004"]]
  rectangular := by decide

theorem ofRows_releases :
    ofRows "t" ["version", "year"] [["6.0", "2001"], ["6.5", "2004"]] = .ok releases :=
  ofRows_eq_ok_iff.mpr ⟨by decide, rfl, by decide, rfl⟩

theorem query_releases :
    (∃ answer, (releases.query (lookup "t" "version" "6.0").text).1 = .ok answer ∧
      ["6", "2001"] ∉ answer ∧ ["6.0", "2001"] ∉ answer) ∧
    (∃ answer, (releases.query (lookup "t" "year" "2001").text).1 = .ok answer ∧
      ["6", "2001"] ∈ answer ∧ ["6.0", "2001"] ∉ answer) ∧
    ∃ answer, (releases.query (lookup "t" "version" "6.5").text).1 = .ok answer ∧
      ["6.5", "2004"] ∈ answer := by
  have first : ["6.0", "2001"] ∈ releases.rows := by decide
  have second : ["6.5", "2004"] ∈ releases.rows := by decide
  have version : releases.columnIndex? "version" = some 0 := by decide
  have year : releases.columnIndex? "year" = some 1 := by decide
  have normalized : normalizeRow ["6.0", "2001"] = ["6", "2001"] := by decide
  refine ⟨?_, ?_, ?_⟩
  · rcases query_stored ofRows_releases first version rfl with ⟨answer, answered, -, cells, whole⟩
    rw [normalized] at cells
    exact ⟨answer, answered, cells.not.mpr (by decide), whole.not.mpr (by decide)⟩
  · rcases query_stored ofRows_releases first year rfl with ⟨answer, answered, -, cells, whole⟩
    rw [normalized] at cells
    exact ⟨answer, answered, cells.mpr (by decide), whole.not.mpr (by decide)⟩
  · rcases query_stored ofRows_releases second version rfl with ⟨answer, answered, -, -, whole⟩
    exact ⟨answer, answered, whole.mpr (by decide)⟩

/-- A row that is not found by a text that is stored in it. -/
theorem query_stored_missed :
    ¬∀ (name : String) (header : List String) (rows : List Row) (table : Table),
      ofRows name header rows = .ok table →
        ∀ row ∈ rows, ∀ (index : Nat) (column cell : String), table.columns[index]? = some column →
          table.columnIndex? column = some index → row[index]? = some cell →
            ∃ answer, (table.query (lookup name column cell).text).1 = .ok answer ∧
              (row ∈ answer ∨ normalizeRow row ∈ answer) := by
  intro found
  rcases found _ _ _ _ ofRows_releases ["6.0", "2001"] (by decide) 0 "version" "6.0" rfl (by decide)
    rfl with ⟨answer, answered, inside⟩
  have empty : (releases.query (lookup "t" "version" "6.0").text).1 = .ok [] := by decide +kernel
  rw [empty] at answered
  cases answered
  simp at inside

end Table

end CsvSelect
