import CsvSelect.Storage.Files
import CsvSelect.Text.Bytes

/-!
# The journal

Requests and errors are recorded in two files, each with the time. A request that cannot be
recorded is an error to be recorded; an error that cannot be recorded is lost.
-/

namespace CsvSelect

/-- The files in which requests and errors are recorded. -/
structure JournalPaths where
  access : String
  error : String
deriving DecidableEq

namespace Journal

/-- The record of a text, which stands under the name of its field. -/
def line (timestamp field text : String) : String :=
  "time: \"" ++ timestamp ++ "\", " ++ field ++ ": \"" ++ text ++ "\"\n"

variable {World : Type → Type} [Monad World] [Files World]

/-- Put the record of a text behind those in the file. -/
def record (path field text : String) : World (Except FileError Unit) := do
  let timestamp ← Files.timestamp
  Files.append path (Text.Utf8.encode (line timestamp field text))

/-- Record the words for an error, if this is possible. -/
def recordError (paths : JournalPaths) (message : String) : World Unit := do
  let _ ← record paths.error "error" message

/-- Record a request, or the reason why it cannot be recorded. -/
def recordRequest (paths : JournalPaths) (request : String) : World Unit := do
  match ← record paths.access "request" request with
  | .ok () => return ()
  | .error error => recordError paths error.message

end Journal

end CsvSelect
