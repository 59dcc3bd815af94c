import CsvSelect.Csv.Codec
import CsvSelect.Journal
import CsvSelect.Query.Statement.Parser
import CsvSelect.Request
import CsvSelect.Selection

/-!
# Sessions

A session answers requests on the table in one file. Running a request records it, answers it and
writes the answer to the result file. What goes wrong after recording it is recorded too, and the
result file then stays as it was, unless writing to it was what went wrong.

A table is loaded from the bytes of a file and called after the file. The first record is its
header. Everything that can go wrong from a request to its result is an `Error`, told apart by its
cause.
-/

namespace CsvSelect

open Query

/-! ### Errors -/

/-- Why a request has no result. -/
inductive Error where
  | parse (error : ParseError)
  | selection (error : SelectionError)
  | input (error : InputError)
  | file (error : FileError)
  /-- The bytes of the table are no table, in these words. -/
  | csv (words : String)
deriving DecidableEq

namespace Error

/-- The words for an error. -/
def message : Error → String
  | .parse error => error.message
  | .selection error => error.message
  | .input error => "Invalid input: " ++ error.message
  | .file error => "I/O error: " ++ error.message
  | .csv words => "CSV error: " ++ words

/-- The error of input in which no request is found. -/
def ofRequest : RequestError → Error
  | .file error => .file error
  | .input error => .input error

end Error

/-! ### Tables in files -/

section

variable [Csv.Codec]

/-- The table in the bytes of the file at the path. Its first faulty record is what is reported. -/
def Table.ofBytes (path : String) (bytes : List UInt8) : Except Error Table :=
  match (Csv.Codec.records bytes).mapM id with
  | .error words => .error (.csv words)
  | .ok [] => .error (.csv s!"{path} has no header row")
  | .ok (header :: rows) =>
      match Table.ofRows (Path.tableName path) header rows with
      | .error ragged => .error (.input (.raggedRow ragged))
      | .ok table => .ok table

variable {World : Type → Type} [Monad World] [Files World]

/-- The table in a file. -/
def Table.load (path : String) : World (Except Error Table) := do
  match ← Files.read path with
  | .error error => return .error (.file error)
  | .ok bytes => return Table.ofBytes path bytes

/-- Make the rows the content of a file. -/
def writeRows (path : String) (rows : List Row) : World (Except Error Unit) := do
  match ← Files.replace path (Csv.encodeRows rows) with
  | .error error => return .error (.file error)
  | .ok () => return .ok ()

end

/-! ### Requests -/

/-- The files of a session: the table that it reads, and those that it writes to. -/
structure Session where
  table : String
  result : String
  journal : JournalPaths
deriving DecidableEq

/-- What a run leaves behind: so many rows in the file at the path. -/
structure Outcome where
  count : Nat
  path : String
deriving DecidableEq

/-- The words for an outcome. -/
def Outcome.message (outcome : Outcome) : String :=
  s!"count: {outcome.count} result in: {outcome.path}"

/-- The answer to a query on a table, and the table behind it. -/
def Table.query (table : Table) (query : String) : Except Error (List Row) × Table :=
  match parse query with
  | .error error => (.error (.parse error), table)
  | .ok statement =>
      let (answer, table) := table.execute statement
      (answer.mapError .selection, table)

namespace Session

variable {World : Type → Type} [Monad World] [Files World]

/-- Record an error and end with it. -/
def fail (session : Session) (error : Error) : World (Except Error Outcome) := do
  Journal.recordError session.journal error.message
  return .error error

variable [Csv.Codec]

/-- The answer to a request. Nothing is written. -/
def query (session : Session) (request : String) : World (Except Error (List Row)) := do
  match checkQuery request with
  | .error error => return .error (.input error)
  | .ok () =>
      match parse request with
      | .error error => return .error (.parse error)
      | .ok statement =>
          match ← Table.load session.table with
          | .error error => return .error error
          | .ok table => return (table.execute statement).1.mapError .selection

/-- Answer a request and write the answer to the result file. -/
def answer (session : Session) (request : String) : World (Except Error Outcome) := do
  match ← session.query request with
  | .error error => return .error error
  | .ok rows =>
      match ← writeRows session.result rows with
      | .error error => return .error error
      | .ok () => return .ok { count := rows.length, path := session.result }

/-- Record a request, answer it, and record the error if there is one. -/
def run (session : Session) (request : String) : World (Except Error Outcome) := do
  Journal.recordRequest session.journal request
  match ← session.answer request with
  | .ok outcome => return .ok outcome
  | .error error => session.fail error

/-- Run the request in the first line of the input; if there is none, record that. -/
def runInput (session : Session) (input : List UInt8) : World (Except Error Outcome) := do
  match readRequest input with
  | .ok request => session.run request
  | .error error => session.fail (.ofRequest error)

end Session

end CsvSelect
