import CsvSelect.Proofs.Selection.Faults
import CsvSelect.Proofs.Selection.Independence

/-!
# Reads inside the rows

An execution reads cells by index: a comparison reads the cell of its column, and the projection
reads the cells of its items. This file repeats the execution with every read checked. The checked
execution has no answer if a cell outside its row is read; it visits the rows one by one, and a row
that passes is projected before the next one is filtered. It always has an answer, which is that of
the execution (`Table.executeChecked_eq`).

An index comes from the header and all rows are as wide as the header, before and after they are
normalised. So the answers are rectangular, too (`Table.length_of_mem_answer`).
-/

namespace CsvSelect

open Query

/-! ### Checked reads -/

/-- The comparison, unless it reads outside the row. -/
def Comparison.evaluateChecked (comparison : Comparison) (row : Row) :
    Option (Except SelectionError Bool) :=
  match row[comparison.index]? with
  | none => none
  | some cell =>
      match comparison.operand.order? cell with
      | some order => some (.ok (comparison.operator.holds order))
      | none => some (.error (.typeMismatch cell comparison.column))

namespace Filter

/-- The answer after the steps, unless one of those that are taken reads outside the row. -/
def runChecked (row : Row) (keep : Bool) : List Step → Option (Except SelectionError Bool)
  | [] => some (.ok keep)
  | .compare comparison :: steps =>
      match comparison.evaluateChecked row with
      | none => none
      | some (.error error) => some (.error error)
      | some (.ok answer) => runChecked row answer steps
  | .join .conjunction :: steps => if keep then runChecked row keep steps else some (.ok false)
  | .join .disjunction :: steps => runChecked row keep steps

def acceptsChecked (filter : Filter) (row : Row) : Option (Except SelectionError Bool) :=
  if filter.isEmpty then some (.ok true) else runChecked row false filter

/--
The rows that pass, each as it is shown, behind those that were found before, which are in reverse.
There is no answer if a row that is reached is read outside of it.
-/
def visitChecked (filter : Filter) (shown : Row → Option Row) (found : List Row) :
    List Row → Option (Except SelectionError (List Row))
  | [] => some (.ok found.reverse)
  | row :: rows =>
      match filter.acceptsChecked row with
      | none => none
      | some (.error error) => some (.error error)
      | some (.ok false) => visitChecked filter shown found rows
      | some (.ok true) =>
          match shown row with
          | none => none
          | some cells => visitChecked filter shown (cells :: found) rows

end Filter

namespace Table

/-- The row as the projection shows it. -/
def projectRow (table : Table) (projection : Projection) (row : Row) : Row :=
  match projection with
  | .all => row
  | .items items => (table.indexes items).map (row.getD · "")

/-- The row as the projection shows it, unless an item is read outside the row. -/
def projectRowChecked (table : Table) (projection : Projection) (row : Row) : Option Row :=
  match projection with
  | .all => some row
  | .items items => (table.indexes items).mapM (row[·]?)

def selectChecked (table : Table) (statement : Statement) :
    Option (Except SelectionError (List Row)) :=
  match statement.checkTable table.name with
  | .error error => some (.error error)
  | .ok () =>
      match Filter.compile table statement.clauses with
      | .error error => some (.error error)
      | .ok filter =>
          filter.visitChecked (table.projectRowChecked statement.projection)
            statement.projection.header.reverse table.rows

/-- The answer to the statement, unless a cell outside its row is read on the way. -/
def executeChecked (table : Table) (statement : Statement) :
    Option (Except SelectionError (List Row)) :=
  match table.unknownColumn? statement with
  | some name => some (.error (.unknownColumn name))
  | none => table.normalize.selectChecked statement

end Table

/-! ### Indexes of columns -/

theorem Table.lt_of_mem_indexes {table : Table} {items : List Token} {index : Nat}
    (mem : index ∈ table.indexes items) : index < table.columns.length := by
  rcases List.mem_filterMap.mp mem with ⟨item, -, found⟩
  exact columnIndex?_lt found

/-- The comparisons of a filter are about columns of the table it was made for. -/
theorem Filter.index_lt_of_compile {table : Table} {clauses : List Clause} {filter : Filter}
    (compiled : compile table clauses = .ok filter) {comparison : Comparison}
    (mem : .compare comparison ∈ filter) : comparison.index < table.columns.length := by
  rw [(compile_eq_ok_iff.mp compiled).2] at mem
  rcases List.mem_filterMap.mp mem with ⟨clause, -, step⟩
  cases clause with
  | connective word => simp [Clause.step?] at step
  | condition condition =>
      rw [Clause.step?] at step
      cases resolved : Comparison.resolve table condition with
      | error error => simp [resolved] at step
      | ok known =>
          simp only [resolved, Option.some.injEq, Step.compare.injEq] at step
          rw [← step]
          exact Table.columnIndex?_lt (Comparison.resolve_eq_ok_iff.mp resolved).1

/-! ### Checked reads succeed -/

theorem getElem?_of_lt {row : Row} {index : Nat} (inside : index < row.length) :
    row[index]? = some (row.getD index "") := by
  rw [List.getD_eq_getElem?_getD, List.getElem?_eq_getElem inside, Option.getD_some]

theorem mapM_getElem?_of_lt {row : Row} {indexes : List Nat}
    (inside : ∀ index ∈ indexes, index < row.length) :
    indexes.mapM (row[·]?) = some (indexes.map (row.getD · "")) := by
  induction indexes with
  | nil => rfl
  | cons index indexes ih =>
      have here := getElem?_of_lt (inside index List.mem_cons_self)
      have later := ih fun other mem => inside other (List.mem_cons_of_mem _ mem)
      rw [List.mapM_cons, here, later]
      rfl

theorem Comparison.evaluateChecked_eq {comparison : Comparison} {row : Row}
    (inside : comparison.index < row.length) :
    comparison.evaluateChecked row = some (comparison.evaluate row) := by
  simp only [evaluateChecked, getElem?_of_lt inside, evaluate]
  cases comparison.operand.order? (row.getD comparison.index "") <;> rfl

namespace Filter

variable {row : Row}

theorem runChecked_eq {steps : List Step} (inside : ∀ comparison, .compare comparison ∈ steps →
    comparison.index < row.length) (keep : Bool) :
    runChecked row keep steps = some (run row keep steps) := by
  induction steps generalizing keep with
  | nil => rfl
  | cons step steps ih =>
      have later := ih fun comparison mem => inside comparison (List.mem_cons_of_mem _ mem)
      cases step with
      | compare comparison =>
          have here := inside comparison List.mem_cons_self
          rw [runChecked, run, Comparison.evaluateChecked_eq here]
          cases comparison.evaluate row with
          | error error => rfl
          | ok answer => exact later answer
      | join connective =>
          cases connective with
          | conjunction =>
              cases keep with
              | false => rfl
              | true => exact later true
          | disjunction => exact later keep

theorem acceptsChecked_eq {filter : Filter} (inside : ∀ comparison, .compare comparison ∈ filter →
    comparison.index < row.length) :
    filter.acceptsChecked row = some (filter.accepts row) := by
  rw [acceptsChecked, accepts]
  split
  · rfl
  · exact runChecked_eq inside false

/-- Row by row, those rows are found that are selected when all are filtered first. -/
theorem visitChecked_eq {filter : Filter} {checked : Row → Option Row} {shown : Row → Row}
    {rows : List Row}
    (accepted : ∀ row ∈ rows, filter.acceptsChecked row = some (filter.accepts row))
    (read : ∀ row ∈ rows, checked row = some (shown row)) (front passed : List Row) :
    filter.visitChecked checked (passed.map shown ++ front.reverse) rows =
      some ((filter.selectRows passed rows).map fun kept => front ++ kept.map shown) := by
  induction rows generalizing passed with
  | nil => simp [visitChecked, selectRows, Except.map]
  | cons row rows ih =>
      have later := ih (fun other mem => accepted other (List.mem_cons_of_mem _ mem))
        (fun other mem => read other (List.mem_cons_of_mem _ mem))
      rw [visitChecked, selectRows, accepted row List.mem_cons_self]
      cases filter.accepts row with
      | error error => rfl
      | ok keeps =>
          cases keeps with
          | false => exact later passed
          | true =>
              simp only [read row List.mem_cons_self]
              exact later (row :: passed)

end Filter

namespace Table

variable {table : Table} {statement : Statement}

theorem project_eq_projectRow (table : Table) (rows : List Row) (projection : Projection) :
    table.project rows projection =
      projection.header ++ rows.map (table.projectRow projection) := by
  cases projection with
  | all => exact (List.map_id rows).symm
  | items items => rfl

theorem projectRowChecked_eq {row : Row} (width : row.length = table.columns.length)
    (projection : Projection) :
    table.projectRowChecked projection row = some (table.projectRow projection row) := by
  cases projection with
  | all => rfl
  | items items =>
      apply mapM_getElem?_of_lt
      intro index mem
      rw [width]
      exact lt_of_mem_indexes mem

theorem selectChecked_eq (table : Table) (statement : Statement) :
    table.selectChecked statement = some (table.select statement) := by
  rw [selectChecked, select]
  cases statement.checkTable table.name with
  | error error => rfl
  | ok =>
      simp only
      cases compiled : Filter.compile table statement.clauses with
      | error error => rfl
      | ok filter =>
          have accepted : ∀ row ∈ table.rows,
              filter.acceptsChecked row = some (filter.accepts row) := by
            intro row mem
            apply Filter.acceptsChecked_eq
            intro comparison step
            rw [table.rectangular row mem]
            exact Filter.index_lt_of_compile compiled step
          have read : ∀ row ∈ table.rows, table.projectRowChecked statement.projection row =
              some (table.projectRow statement.projection row) :=
            fun row mem => projectRowChecked_eq (table.rectangular row mem) _
          have visited := Filter.visitChecked_eq accepted read statement.projection.header []
          rw [List.map_nil, List.nil_append] at visited
          simp only [visited, project_eq_projectRow]
          cases filter.selectRows [] table.rows <;> rfl

/-- No execution reads a cell outside its row. -/
theorem executeChecked_eq (table : Table) (statement : Statement) :
    table.executeChecked statement = some (table.execute statement).1 := by
  rw [executeChecked, execute]
  cases table.unknownColumn? statement with
  | some name => rfl
  | none => exact table.normalize.selectChecked_eq statement

end Table

/-! ### Widths of answers -/

/-- The number of cells in a row of an answer, from a header of this width. -/
def Query.Projection.width (projection : Projection) (columns : Nat) : Nat :=
  match projection with
  | .all => columns
  | .items tokens => tokens.length

theorem Query.Projection.length_of_mem_header {projection : Projection} {row : Row}
    (mem : row ∈ projection.header) (columns : Nat) : row.length = projection.width columns := by
  cases projection with
  | all => simp [header] at mem
  | items tokens =>
      rw [List.mem_singleton.mp mem, List.length_map]
      rfl

theorem Query.Projection.length_cells {table : Table} {row : Row}
    (width : row.length = table.columns.length) (projection : Projection) :
    (projection.cells table row).length = projection.width table.columns.length := by
  cases projection with
  | all => exact width
  | items tokens => exact List.length_map _

theorem eq_of_verdict_eq_ok {Answer : Type} {faults : List SelectionError}
    {answer answered : Answer} (ok : verdict faults answer = .ok answered) : answered = answer := by
  cases faults with
  | nil => exact (Except.ok.inj ok).symm
  | cons fault faults => simp at ok

namespace Table

/-- No item is dropped from an answer, because all items have been found in the header. -/
theorem length_of_mem_answer {table : Table} {statement : Statement} {answer : List Row}
    (answered : (table.execute statement).1 = .ok answer) {row : Row} (mem : row ∈ answer) :
    row.length = statement.projection.width table.columns.length := by
  rw [execute_of_acceptedBy (acceptedBy_of_answer answered)] at answered
  rw [eq_of_verdict_eq_ok answered] at mem
  rcases List.mem_append.mp mem with inHeader | inRows
  · exact statement.projection.length_of_mem_header inHeader _
  · rcases List.mem_map.mp inRows with ⟨source, kept, rfl⟩
    have inTable := (List.mem_filter.mp kept).1
    exact statement.projection.length_cells (table.normalize.rectangular source inTable)

/--
Whatever has been done to a table that was built from rows, no execution reads a cell outside its
row, and the rows of an answer are all as wide as the projection.
-/
theorem executeChecked_afterAll {name : String} {header : List String} {rows : List Row}
    {table : Table} (built : ofRows name header rows = .ok table) (actions : List Action)
    (statement : Statement) :
    (table.afterAll actions).executeChecked statement =
        some ((table.afterAll actions).execute statement).1 ∧
      ∀ answer, ((table.afterAll actions).execute statement).1 = .ok answer →
        ∀ row ∈ answer, row.length = statement.projection.width header.length := by
  refine ⟨executeChecked_eq _ statement, ?_⟩
  intro answer answered row mem
  have columns : (table.afterAll actions).columns = header.map Text.lowercase := by
    rw [← (ofRows_eq_ok_iff.mp built).2.2.1, afterAll_eq]
    split <;> rfl
  rw [length_of_mem_answer answered mem, columns, List.length_map]

/-- An execution that stumbled over a count on the way leaves the rows as wide as they were. -/
theorem executeChecked_stock :
    (stock.afterAll [.normalize, .execute (stockQuery .OR)]).executeChecked (stockQuery .AND) =
        some (.ok [["Item"], ["bolt"]]) ∧
      ∀ row ∈ [["Item"], ["bolt"]], row.length = (stockQuery .AND).projection.width 2 := by
  have built : ofRows "stock" ["Item", "Count"] stock.rows = .ok stock :=
    ofRows_eq_ok_iff.mpr ⟨by decide, rfl, by decide, rfl⟩
  have inside := executeChecked_afterAll built [.normalize, .execute (stockQuery .OR)]
    (stockQuery .AND)
  exact ⟨inside.1, inside.2 _ rfl⟩

end Table

end CsvSelect
