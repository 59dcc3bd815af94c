import CsvSelect.Table
import CsvSelect.Text.Bytes
import CsvSelect.Text.Lexical
import CsvSelect.Storage.Files
import CsvSelect.Storage.Path

/-!
# Requests

A request is a query as it is handed in. It is the first line of the input up to the last semicolon
in it. Before a request is looked at it must not be blank or too long, and before a path is used as
that of a table it must not be empty, too long, hold a null character or lack the ending `.csv`.
-/

namespace CsvSelect

open Text

/-- Why a request, a path or a table is refused. -/
inductive InputError where
  | emptyQuery
  | longQuery (length : Nat)
  | emptyPath
  | longPath (length : Nat)
  | nullInPath
  | notTableFile (path : String)
  | noSemicolon
  | raggedRow (row : RaggedRow)
deriving DecidableEq

/-- The greatest number of bytes in a query. -/
def maxQueryLength : Nat := 1048576

/-- The greatest number of bytes in the path of a table. -/
def maxTablePathLength : Nat := 4096

/-- The words for an error. -/
def InputError.message : InputError → String
  | .emptyQuery => "Query cannot be empty"
  | .longQuery length => s!"Query length {length} exceeds maximum {maxQueryLength}"
  | .emptyPath => "Path cannot be empty"
  | .longPath length => s!"Path length {length} exceeds maximum {maxTablePathLength}"
  | .nullInPath => "Path cannot contain null bytes"
  | .notTableFile path => s!"Table path '{path}' must end with .csv"
  | .noSemicolon => "query must end with ';'"
  | .raggedRow row => s!"row {row.row} has {row.found} fields, expected {row.expected}"

/-- The query is not blank and not too long. -/
def checkQuery (query : String) : Except InputError Unit :=
  if isBlankText query then .error .emptyQuery
  else if maxQueryLength < query.utf8ByteSize then .error (.longQuery query.utf8ByteSize)
  else .ok ()

/-- The path can be used as that of a table. -/
def checkTablePath (path : String) : Except InputError Unit :=
  if path.isEmpty then .error .emptyPath
  else if maxTablePathLength < path.utf8ByteSize then .error (.longPath path.utf8ByteSize)
  else if path.toList.contains (Char.ofNat 0) then .error .nullInPath
  else if !Path.tableEnding.isSuffixOf path.toList then .error (.notTableFile path)
  else .ok ()

/-- The line up to its last semicolon, with it; nothing without one. -/
def throughSemicolon? (line : List Char) : Option (List Char) :=
  match line.reverse.dropWhile (· != ';') with
  | [] => none
  | kept => some kept.reverse

/-- Why no request is found in an input. -/
inductive RequestError where
  | file (error : FileError)
  | input (error : InputError)
deriving DecidableEq

/-- The request in the first line of an input. -/
def readRequest (input : List UInt8) : Except RequestError String :=
  match Utf8.decode (splitLine input).1 with
  | .error _ => .error (.file .invalidUtf8)
  | .ok line =>
      match throughSemicolon? line.toList with
      | none => .error (.input .noSemicolon)
      | some request => .ok (String.ofList request)

end CsvSelect
