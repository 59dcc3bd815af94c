import CsvSelect.Query.Token
import CsvSelect.Text.Casing

/-!
# Statements

A statement selects all columns or some, from a table, under a sequence of clauses. The clauses
stay in the order in which they were written and are not grouped: a clause is a comparison of a
column with an operand, or a reserved word between comparisons. `Statement.render` writes a
statement as a query with one blank between its parts.
-/

namespace CsvSelect.Query

open Text

/-- What a statement returns of each selected row. -/
inductive Projection where
  | all
  | items (items : List Token)
deriving DecidableEq

/-- A comparison of a column with an operand. -/
structure Condition where
  column : Token
  operation : Token
  operand : Token
deriving DecidableEq

/-- An element of the sequence after WHERE. -/
inductive Clause where
  | condition (condition : Condition)
  | connective (word : Token)
deriving DecidableEq

/-- A way of joining conditions. -/
inductive Connective where
  | conjunction
  | disjunction
deriving DecidableEq

/-- A query in its parts. -/
structure Statement where
  projection : Projection
  table : Option Token := none
  clauses : List Clause := []
deriving DecidableEq

/-- The way of joining conditions that the word stands for. -/
def Token.connective? (word : Token) : Option Connective :=
  match word.keyword? with
  | some .AND => some .conjunction
  | some .OR => some .disjunction
  | _ => none

/-- The comparison that the clause is, if it is one. -/
def Clause.condition? : Clause → Option Condition
  | .condition comparison => some comparison
  | .connective _ => none

/-- The comparisons among the clauses. -/
def Statement.conditions (statement : Statement) : List Condition :=
  statement.clauses.filterMap Clause.condition?

/-- The named items of a projection; `*` names none. -/
def Projection.named : Projection → List Token
  | .all => []
  | .items tokens => tokens

/-- The projection as it is written after SELECT. -/
def Projection.render : Projection → String
  | .all => "*"
  | .items tokens => ", ".intercalate (tokens.map Token.render)

/-- The clause as it is written after WHERE; reserved words are written in upper case. -/
def Clause.render : Clause → String
  | .condition comparison =>
      " ".intercalate
        [comparison.column.render, comparison.operation.render, comparison.operand.render]
  | .connective word => uppercase word.value

/-- The statement as a query. -/
def Statement.render (statement : Statement) : String :=
  let table := match statement.table with
    | some name => " FROM " ++ name.render
    | none => ""
  let clauses := statement.clauses.map fun clause => " " ++ clause.render
  "SELECT " ++ statement.projection.render ++ table ++
    (if clauses.isEmpty then "" else " WHERE" ++ String.join clauses)

end CsvSelect.Query
