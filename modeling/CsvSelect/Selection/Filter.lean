import CsvSelect.Query.Statement
import CsvSelect.Table
import CsvSelect.Text.Lexical

/-!
# Row filters

The clauses of a statement are checked against the header once, before any row is seen: conditions
and connectives must alternate, beginning with a condition, all connectives must be the same, and
every condition must have a comparison for its operation. The result is a list of steps that a row
goes through from left to right. A condition sets the running answer; a conjunction that meets a
negative answer ends the run.
-/

namespace CsvSelect

open Text Query

/-- Why a statement has no answer. -/
inductive SelectionError where
  | unknownColumn (name : String)
  | missingTable
  | tableNotFound (name : String)
  | malformedClauses
  | unsupportedOperation (operation : String)
  | mixedConnectives
  | typeMismatch (value column : String)
deriving DecidableEq

/-- The words for an error. -/
def SelectionError.message : SelectionError → String
  | .unknownColumn name => s!"no such column name '{name}' in csv"
  | .missingTable => "query has no FROM clause"
  | .tableNotFound name => s!"can't find csv with name '{name}'"
  | .malformedClauses => "incorrect expression 'where' format"
  | .unsupportedOperation operation => s!"operation '{operation}' is not supported"
  | .mixedConnectives => "cannot combine AND/OR"
  | .typeMismatch value column =>
      s!"types do not match: '{value}' in column '{column}' must be an integer"

/-- What the cells of a condition are compared with. -/
inductive Operand where
  /-- A numeral for an integer: cells must be integers and compare as such. -/
  | integer (value : Int)
  /-- Any other numeral: cells must be integers and compare as texts. -/
  | numeral (spelling : String)
  /-- Anything else: cells compare as texts. -/
  | text (value : String)
deriving DecidableEq

/-- The operand that a token stands for. -/
def Operand.ofToken (token : Token) : Operand :=
  if token.kind = .numeric then
    match integer? token.value with
    | some value => .integer value
    | none => .numeral token.value
  else .text token.value

/-- How a cell stands to the operand; nothing if the cell must be an integer and is none. -/
def Operand.order? : Operand → String → Option Ordering
  | .integer value, cell => (integer? cell).map (compare · value)
  | .numeral spelling, cell => (integer? cell).map fun _ => compare cell spelling
  | .text value, cell => some (compare cell value)

/-- A condition with its column found and its comparison known. -/
structure Comparison where
  column : String
  index : Nat
  operator : Operator
  operand : Operand
deriving DecidableEq

/-- The comparison holds of the row, unless the cell must be an integer and is none. -/
def Comparison.evaluate (comparison : Comparison) (row : Row) : Except SelectionError Bool :=
  let cell := row.getD comparison.index ""
  match comparison.operand.order? cell with
  | some order => .ok (comparison.operator.holds order)
  | none => .error (.typeMismatch cell comparison.column)

/-- The comparison that a condition asks for, with its column found in the header. -/
def Comparison.resolve (table : Table) (condition : Condition) :
    Except SelectionError Comparison :=
  match table.columnIndex? condition.column.value with
  | none => .error (.unknownColumn condition.column.value)
  | some index =>
      match condition.operation.operator? with
      | none => .error (.unsupportedOperation condition.operation.value)
      | some operator =>
          .ok { column := condition.column.value, index, operator,
                operand := .ofToken condition.operand }

/-- One step of a filter. -/
inductive Step where
  | compare (comparison : Comparison)
  | join (connective : Connective)
deriving DecidableEq

/-- The steps that a row goes through. -/
abbrev Filter := List Step

namespace Filter

mutual

/--
The steps of clauses of which the first must be a condition, behind the steps so far, which are in
reverse. `joined` is the connective in use.
-/
def compileCondition (table : Table) (joined : Option Connective) (steps : List Step) :
    List Clause → Except SelectionError Filter
  | [] => .ok steps.reverse
  | .connective _ :: _ => .error .malformedClauses
  | .condition condition :: clauses =>
      match Comparison.resolve table condition with
      | .error error => .error error
      | .ok comparison => compileConnective table joined (.compare comparison :: steps) clauses

/-- The same for clauses of which the first must be a connective. -/
def compileConnective (table : Table) (joined : Option Connective) (steps : List Step) :
    List Clause → Except SelectionError Filter
  | [] => .ok steps.reverse
  | .condition _ :: _ => .error .malformedClauses
  | .connective word :: clauses =>
      match word.connective? with
      | none => .error .malformedClauses
      | some connective =>
          if joined.any (· != connective) then .error .mixedConnectives
          else compileCondition table (some connective) (.join connective :: steps) clauses

end

/-- The filter that the clauses describe. -/
def compile (table : Table) (clauses : List Clause) : Except SelectionError Filter :=
  compileCondition table none [] clauses

/-- The answer after the steps for a row that comes to them with the answer `keep`. -/
def run (row : Row) (keep : Bool) : List Step → Except SelectionError Bool
  | [] => .ok keep
  | .compare comparison :: steps =>
      match comparison.evaluate row with
      | .ok answer => run row answer steps
      | .error error => .error error
  | .join .conjunction :: steps => if keep then run row keep steps else .ok false
  | .join .disjunction :: steps => run row keep steps

/-- The filter lets the row pass. Without steps every row passes. -/
def accepts (filter : Filter) (row : Row) : Except SelectionError Bool :=
  if filter.isEmpty then .ok true else run row false filter

/-- The rows that pass, in order, behind those that passed before, which are in reverse. -/
def selectRows (filter : Filter) (passed : List Row) : List Row → Except SelectionError (List Row)
  | [] => .ok passed.reverse
  | row :: rows =>
      match filter.accepts row with
      | .error error => .error error
      | .ok true => selectRows filter (row :: passed) rows
      | .ok false => selectRows filter passed rows

end Filter

end CsvSelect
