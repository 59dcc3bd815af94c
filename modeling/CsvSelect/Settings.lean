import CsvSelect.Diagnostics
import CsvSelect.Session
import CsvSelect.Toml.Document

/-!
# Settings

Where a session finds its files, how long a run may take, and where diagnostics go. Settings are
read from a TOML document; what it leaves out keeps a default, and keys without a meaning are passed
over.
-/

namespace CsvSelect

open Toml

/-- What a user can set. -/
structure Settings where
  table : String := "table.csv"
  result : String := "result.csv"
  accessLog : String := "access.log"
  errorLog : String := "error.log"
  timeoutSeconds : Nat := 60
  logLevel : String := "info"
  logFile : Option String := none
deriving DecidableEq

/-- Why there are no settings, or none that can be used. -/
inductive SettingsError where
  | unreadable (path : String) (error : FileError)
  /-- The document is no TOML, or no settings, in these words. It may come from no file. -/
  | malformed (path : Option String) (words : String)
  | noTime
  | input (error : InputError)
deriving DecidableEq

/-- The words for an error. -/
def SettingsError.message : SettingsError → String
  | .unreadable path error => s!"Configuration error: failed to read {path}: {error.message}"
  | .malformed (some path) words => s!"Configuration error: failed to parse {path}: {words}"
  | .malformed none words => s!"Configuration error: failed to parse TOML: {words}"
  | .noTime => "Configuration error: timeout_secs must be greater than 0"
  | .input error => (Error.input error).message

namespace Settings

section

variable [Decoder] (document : String) (entries : List (String × Value)) (key : String)

/-- The text under the key, if there is anything. -/
def text? : Except String (Option String) :=
  match entries.lookup key with
  | none => .ok none
  | some (.text text) => .ok (some text)
  | some _ => .error (Decoder.mismatch document key "a string")

/-- The text under the key, or the default. -/
def text (default : String) : Except String String := do
  return (← text? document entries key).getD default

/-- The natural number under the key, or the default. -/
def natural (default : Nat) : Except String Nat :=
  match entries.lookup key with
  | none => .ok default
  | some (.integer value) =>
      if 0 ≤ value then .ok value.toNat
      else .error (Decoder.mismatch document key "a natural number")
  | some _ => .error (Decoder.mismatch document key "a natural number")

/-- The settings in a document, or the words for what is wrong with it. -/
def ofToml : Except String Settings := do
  let entries ← Decoder.decode document
  let defaults : Settings := {}
  return {
    table := ← text document entries "csv_file_path" defaults.table
    result := ← text document entries "result_file_path" defaults.result
    accessLog := ← text document entries "access_log_path" defaults.accessLog
    errorLog := ← text document entries "error_log_path" defaults.errorLog
    timeoutSeconds := ← natural document entries "timeout_secs" defaults.timeoutSeconds
    logLevel := ← text document entries "log_level" defaults.logLevel
    logFile := ← text? document entries "log_file" }

/-- The settings in a document that comes from no file. -/
def ofText : Except SettingsError Settings :=
  (ofToml document).mapError (.malformed none)

end

/-- Where diagnostics go: to standard error, and to a file if there is one. -/
def log (settings : Settings) : LogSettings :=
  let log := LogSettings.withLevel settings.logLevel
  match settings.logFile with
  | some path => log.toBoth path
  | none => log

/-- The settings can be used: a run may take some time, and the table has a path. -/
def check (settings : Settings) : Except SettingsError Unit :=
  if settings.timeoutSeconds = 0 then .error .noTime
  else (checkTablePath settings.table).mapError .input

/-- The session on the files of the settings. -/
def session (settings : Settings) : Session where
  table := settings.table
  result := settings.result
  journal := { access := settings.accessLog, error := settings.errorLog }

variable [Decoder] {World : Type → Type} [Monad World] [Files World]

/-- The settings in the file at the path. -/
def load (path : String) : World (Except SettingsError Settings) := do
  match ← Files.read path with
  | .error error => return .error (.unreadable path error)
  | .ok bytes =>
      match Text.Utf8.decode bytes with
      | .error _ => return .error (.unreadable path .invalidUtf8)
      | .ok document => return (ofToml document).mapError (.malformed (some path))

/-- The settings in the file at the path, or the defaults if there is no such file. -/
def loadIfPresent (path : String) : World (Except SettingsError Settings) := do
  if ← Files.exists? path then load path else return .ok {}

end Settings

end CsvSelect
