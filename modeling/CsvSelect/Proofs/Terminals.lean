import CsvSelect.Console
import CsvSelect.Proofs.Storage.Actions
import CsvSelect.Settings

/-!
# Actions at a terminal

What a program does with files alone it does at a terminal as on the disk of the terminal: the
answer is the same, the disk behind it is the same, and the streams stay as they are
(`Terminal.onDisk`). This is so for each operation on files, and it is kept when actions follow one
another, so it is so for every part of a session and for loading settings.
-/

namespace CsvSelect

namespace Terminal

variable {Answer Next : Type}

/-- The answer of an action and the terminal behind it. -/
def perform (terminal : Terminal) (action : StateM Terminal Answer) : Answer × Terminal :=
  action.run terminal

theorem perform_bind (terminal : Terminal) (action : StateM Terminal Answer)
    (next : Answer → StateM Terminal Next) :
    terminal.perform (action >>= next) =
      (terminal.perform action).2.perform (next (terminal.perform action).1) := rfl

theorem perform_onDisk (terminal : Terminal) (operation : StateM Disk Answer) :
    terminal.perform (onDisk operation) =
      ((terminal.disk.perform operation).1,
        { terminal with disk := (terminal.disk.perform operation).2 }) := rfl

theorem bind_onDisk {action : StateM Terminal Answer} {operation : StateM Disk Answer}
    {next : Answer → StateM Terminal Next} {nextOperation : Answer → StateM Disk Next}
    (first : action = onDisk operation)
    (later : ∀ answer, next answer = onDisk (nextOperation answer)) :
    action >>= next = onDisk (operation >>= nextOperation) := by
  rw [first, funext later]
  rfl

end Terminal

open Terminal

/-! ### Recording -/

namespace Journal

theorem record_onDisk (path field text : String) :
    record path field text = onDisk (record path field text) := rfl

theorem recordError_onDisk (paths : JournalPaths) (message : String) :
    recordError paths message = onDisk (recordError paths message) := rfl

theorem recordRequest_onDisk (paths : JournalPaths) (request : String) :
    recordRequest paths request = onDisk (recordRequest paths request) := by
  apply bind_onDisk (record_onDisk _ _ _)
  intro recorded
  cases recorded with
  | ok => rfl
  | error fault => exact recordError_onDisk paths fault.message

end Journal

/-! ### Tables in files -/

section

variable [Csv.Codec]

theorem Table.load_onDisk (path : String) : load path = onDisk (load path) := by
  apply bind_onDisk rfl
  intro found
  cases found <;> rfl

theorem writeRows_onDisk (path : String) (rows : List Row) :
    writeRows path rows = onDisk (writeRows path rows) := by
  apply bind_onDisk rfl
  intro written
  cases written <;> rfl

end

/-! ### Sessions -/

namespace Session

variable (session : Session)

theorem fail_onDisk (error : Error) : session.fail error = onDisk (session.fail error) := rfl

variable [Csv.Codec]

theorem query_onDisk (request : String) :
    session.query request = onDisk (session.query request) := by
  rw [query, query]
  cases checkQuery request with
  | error error => rfl
  | ok =>
      cases Query.parse request with
      | error error => rfl
      | ok statement =>
          apply bind_onDisk (Table.load_onDisk session.table)
          intro loaded
          cases loaded <;> rfl

theorem answer_onDisk (request : String) :
    session.answer request = onDisk (session.answer request) := by
  apply bind_onDisk (session.query_onDisk request)
  intro answered
  cases answered with
  | error error => rfl
  | ok rows =>
      apply bind_onDisk (writeRows_onDisk session.result rows)
      intro written
      cases written <;> rfl

theorem run_onDisk (request : String) :
    session.run request = onDisk (session.run request) := by
  apply bind_onDisk (Journal.recordRequest_onDisk session.journal request)
  intro recorded
  apply bind_onDisk (session.answer_onDisk request)
  intro answered
  cases answered with
  | ok outcome => rfl
  | error error => exact session.fail_onDisk error

theorem runInput_onDisk (input : List UInt8) :
    session.runInput input = onDisk (session.runInput input) := by
  rw [runInput, runInput]
  cases readRequest input with
  | ok request => exact session.run_onDisk request
  | error error => exact session.fail_onDisk (.ofRequest error)

end Session

/-! ### Settings -/

namespace Settings

variable [Toml.Decoder]

theorem load_onDisk (path : String) : load path = onDisk (load path) := by
  apply bind_onDisk rfl
  intro found
  cases found with
  | error fault => rfl
  | ok bytes =>
      simp only
      cases Text.Utf8.decode bytes <;> rfl

theorem loadIfPresent_onDisk (path : String) :
    loadIfPresent path = onDisk (loadIfPresent path) := by
  apply bind_onDisk rfl
  intro present
  cases present with
  | true => exact load_onDisk path
  | false => rfl

end Settings

end CsvSelect
