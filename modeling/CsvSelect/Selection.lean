import CsvSelect.Selection.Filter

/-!
# Executing statements

A statement is executed on a table in a fixed order. Every column it names must exist. Then the
table is normalised, and stays so whatever happens next. Then the table must have the name after
FROM, the clauses must describe a filter, and the rows that pass are projected.
-/

namespace CsvSelect

open Query

/-- The first name in the statement that no column has: of the items, then of the conditions. -/
def Table.unknownColumn? (table : Table) (statement : Statement) : Option String :=
  let names := statement.projection.named.map Token.value ++
    statement.conditions.map (·.column.value)
  names.find? fun name => !table.hasColumn name

/-- The statement is about a table of this name. -/
def Query.Statement.checkTable (statement : Statement) (name : String) :
    Except SelectionError Unit :=
  match statement.table with
  | none => .error .missingTable
  | some table => if table.value = name then .ok () else .error (.tableNotFound table.value)

/-- The indexes of the columns that the items name. -/
def Table.indexes (table : Table) (items : List Token) : List Nat :=
  items.filterMap fun item => table.columnIndex? item.value

/--
The rows as the projection shows them: whole, or the cells of the named columns under a header of
the names as they are written in the statement.
-/
def Table.project (table : Table) (rows : List Row) : Projection → List Row
  | .all => rows
  | .items items =>
      let indexes := table.indexes items
      items.map Token.value :: rows.map fun row => indexes.map (row.getD · "")

/-- The answer to a statement all of whose columns exist, from the rows as they are. -/
def Table.select (table : Table) (statement : Statement) : Except SelectionError (List Row) :=
  match statement.checkTable table.name with
  | .error error => .error error
  | .ok () =>
      match Filter.compile table statement.clauses with
      | .error error => .error error
      | .ok filter =>
          match filter.selectRows [] table.rows with
          | .error error => .error error
          | .ok rows => .ok (table.project rows statement.projection)

/-- The answer to a statement, and the table behind it. -/
def Table.execute (table : Table) (statement : Statement) :
    Except SelectionError (List Row) × Table :=
  match table.unknownColumn? statement with
  | some name => (.error (.unknownColumn name), table)
  | none => (table.normalize.select statement, table.normalize)

end CsvSelect
