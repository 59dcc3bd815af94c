import CsvSelect.Proofs.Selection.Rows
import CsvSelect.Proofs.Tables

/-!
# Faults that the header shows

Most of what can be wrong with a statement can be told from the name and the columns of a table: a
column is missing, the table has another name, or the clauses do not fit. `Table.fault?` is the
first such fault. A statement with a fault fails with it, whatever the rows are
(`Table.execute_of_fault?`), and a statement without one is accepted (`Table.fault?_eq_none_iff`)
and can only fail for a cell that mismatches a condition (`Table.execute_of_no_fault?`). So the rows
decide about no other error.
-/

namespace CsvSelect

open Query

/-- The first fault of the statement that the name and the columns of the table show. -/
def Table.fault? (table : Table) (statement : Statement) : Option SelectionError :=
  match table.unknownColumn? statement with
  | some name => some (.unknownColumn name)
  | none =>
      match statement.checkTable table.name with
      | .error error => some error
      | .ok () =>
          match Filter.compile table statement.clauses with
          | .error error => some error
          | .ok _ => none

/-! ### Tables with the same header -/

section

variable {table other : Table} (sameColumns : table.columns = other.columns)
include sameColumns

theorem Table.columnIndex?_congr (name : String) :
    table.columnIndex? name = other.columnIndex? name := by
  rw [columnIndex?, columnIndex?, sameColumns]

theorem Table.unknownColumn?_congr (statement : Statement) :
    table.unknownColumn? statement = other.unknownColumn? statement := by
  simp only [unknownColumn?, hasColumn, columnIndex?_congr sameColumns]

theorem Comparison.resolve_congr (condition : Condition) :
    resolve table condition = resolve other condition := by
  rw [resolve, resolve, Table.columnIndex?_congr sameColumns]

theorem Filter.compile_congr (clauses : List Clause) :
    compile table clauses = compile other clauses := by
  suffices general : ∀ joined steps,
      compileCondition table joined steps clauses = compileCondition other joined steps clauses ∧
        compileConnective table joined steps clauses =
          compileConnective other joined steps clauses from
    (general none []).1
  induction clauses with
  | nil =>
      intro joined steps
      constructor
      · rw [compileCondition, compileCondition]
      · rw [compileConnective, compileConnective]
  | cons clause clauses ih =>
      intro joined steps
      cases clause with
      | condition condition =>
          constructor
          · rw [compileCondition, compileCondition, Comparison.resolve_congr sameColumns]
            cases Comparison.resolve other condition with
            | error error => rfl
            | ok comparison => exact (ih _ _).2
          · rw [compileConnective, compileConnective]
      | connective word =>
          constructor
          · rw [compileCondition, compileCondition]
          · rw [compileConnective, compileConnective]
            cases word.connective? with
            | none => rfl
            | some connective => simp only [(ih _ _).1]

/-- The rows have no part in the fault. -/
theorem Table.fault?_congr (sameName : table.name = other.name) (statement : Statement) :
    table.fault? statement = other.fault? statement := by
  simp only [fault?, unknownColumn?_congr sameColumns, sameName, Filter.compile_congr sameColumns]

end

/-! ### Faults and executions -/

namespace Table

variable {table : Table} {statement : Statement}

theorem fault?_eq_none_iff : table.fault? statement = none ↔ statement.AcceptedBy table := by
  rw [acceptedBy_iff, fault?]
  cases table.unknownColumn? statement with
  | some name => simp
  | none =>
      cases statement.checkTable table.name with
      | error error => simp
      | ok =>
          cases Filter.compile table statement.clauses with
          | error error => simp
          | ok filter => simp

/-- A fault is found before the first row, also when the table is normalised on the way to it. -/
theorem execute_of_fault? {error : SelectionError} (found : table.fault? statement = some error) :
    (table.execute statement).1 = .error error := by
  have sameColumns : table.normalize.columns = table.columns := rfl
  have normalized : table.normalize.fault? statement = some error := by
    rw [← found]
    exact fault?_congr sameColumns rfl statement
  rw [fault?] at normalized
  have sameNames : table.normalize.unknownColumn? statement = table.unknownColumn? statement := rfl
  rw [execute, ← sameNames]
  cases unknown : table.normalize.unknownColumn? statement with
  | some name =>
      rw [unknown] at normalized
      exact congrArg Except.error (Option.some.inj normalized)
  | none =>
      rw [unknown] at normalized
      simp only [select]
      cases named : statement.checkTable table.normalize.name with
      | error error =>
          rw [named] at normalized
          exact congrArg Except.error (Option.some.inj normalized)
      | ok =>
          rw [named] at normalized
          cases compiled : Filter.compile table.normalize statement.clauses with
          | error error =>
              rw [compiled] at normalized
              exact congrArg Except.error (Option.some.inj normalized)
          | ok filter => simp [compiled] at normalized

/-- Only accepted statements have an answer. -/
theorem acceptedBy_of_answer {answer : List Row}
    (answered : (table.execute statement).1 = .ok answer) : statement.AcceptedBy table := by
  rw [← fault?_eq_none_iff]
  cases found : table.fault? statement with
  | none => rfl
  | some fault => simp [execute_of_fault? found] at answered

theorem eq_of_mem_mismatches {row : Row} {error : SelectionError}
    (mem : error ∈ statement.mismatches table row) :
    ∃ value column, error = .typeMismatch value column := by
  rcases List.mem_map.mp mem with ⟨condition, -, rfl⟩
  exact ⟨_, _, rfl⟩

/-- Without a fault there is an answer, unless some cell mismatches a condition. -/
theorem execute_of_no_fault? (noFault : table.fault? statement = none) :
    (∃ rows, (table.execute statement).1 = .ok rows) ∨
      ∃ value column, (table.execute statement).1 = .error (.typeMismatch value column) := by
  rw [execute_of_acceptedBy (fault?_eq_none_iff.mp noFault)]
  cases faults : table.normalize.rows.flatMap (statement.mismatches table) with
  | nil => exact Or.inl ⟨_, rfl⟩
  | cons fault others =>
      have mem : fault ∈ table.normalize.rows.flatMap (statement.mismatches table) := by
        simp [faults]
      rcases List.mem_flatMap.mp mem with ⟨row, -, mem⟩
      rcases eq_of_mem_mismatches mem with ⟨value, column, rfl⟩
      exact Or.inr ⟨value, column, rfl⟩

/-- The errors that are no mismatches are the faults. -/
theorem execute_eq_error_iff {error : SelectionError}
    (noMismatch : ∀ value column, error ≠ .typeMismatch value column) :
    (table.execute statement).1 = .error error ↔ table.fault? statement = some error := by
  refine ⟨?_, execute_of_fault?⟩
  intro failed
  cases found : table.fault? statement with
  | some fault =>
      rw [execute_of_fault? found, Except.error.injEq] at failed
      rw [failed]
  | none =>
      rcases execute_of_no_fault? found with ⟨rows, answered⟩ | ⟨value, column, mismatched⟩
      · simp [answered] at failed
      · rw [mismatched, Except.error.injEq] at failed
        exact absurd failed.symm (noMismatch value column)

/--
Tables of the same name and header fail alike, whatever their rows are, unless a cell mismatches a
condition.
-/
theorem execute_error_of_sameHeader {name : String} {header : List String}
    {rows otherRows : List Row} {other : Table} (built : ofRows name header rows = .ok table)
    (otherBuilt : ofRows name header otherRows = .ok other) {error : SelectionError}
    (failed : (table.execute statement).1 = .error error)
    (noMismatch : ∀ value column, error ≠ .typeMismatch value column) :
    (other.execute statement).1 = .error error := by
  rcases ofRows_eq_ok_iff.mp built with ⟨-, sameName, sameColumns, -⟩
  rcases ofRows_eq_ok_iff.mp otherBuilt with ⟨-, otherName, otherColumns, -⟩
  rw [execute_eq_error_iff noMismatch] at failed ⊢
  rw [← failed]
  exact fault?_congr (otherColumns.trans sameColumns.symm) (otherName.trans sameName.symm) statement

/-- A table with one column and a row for each of the cells. -/
def singleColumn (cells : List String) : Table where
  name := "t"
  columns := ["size"]
  rows := cells.map fun cell => [cell]
  rectangular := by simp

/-- Three conditions on the size, which are joined in two ways. -/
def mixedQuery : Statement where
  projection := .all
  table := some { kind := .identifier, value := "t" }
  clauses := [atLeast "1", joined .OR, atLeast "2", joined .AND, atLeast "3"]
where
  atLeast (bound : String) : Clause :=
    .condition ⟨{ kind := .identifier, value := "size" }, { kind := .operation, value := ">=" },
      { kind := .numeric, value := bound }⟩
  joined (word : Keyword) : Clause :=
    .connective { kind := .keyword, value := word.text }

/-- The clauses are refused before a cell that is no number is met, and without any cell. -/
theorem execute_mixedQuery :
    ((singleColumn ["large"]).execute mixedQuery).1 = .error .mixedConnectives ∧
      ((singleColumn []).execute mixedQuery).1 = .error .mixedConnectives := by
  have built : ofRows "t" ["Size"] [["large"]] = .ok (singleColumn ["large"]) :=
    ofRows_eq_ok_iff.mpr ⟨by decide, rfl, by decide, rfl⟩
  have otherBuilt : ofRows "t" ["Size"] [] = .ok (singleColumn []) :=
    ofRows_eq_ok_iff.mpr ⟨by decide, rfl, by decide, rfl⟩
  have failed : ((singleColumn ["large"]).execute mixedQuery).1 = .error .mixedConnectives := rfl
  exact ⟨failed, execute_error_of_sameHeader built otherBuilt failed (by simp)⟩

end Table

end CsvSelect
