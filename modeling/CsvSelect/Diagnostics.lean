import CsvSelect.Storage.Files
import CsvSelect.Storage.Path

/-!
# Diagnostics

Where diagnostics go, and how they are laid out. Those for a file go to a file of the day, which
lies beside the path that is given for it and has the date behind its name. The file is opened
before a run, and the directories that lead to it are made if they are missing.
-/

namespace CsvSelect

/-- How diagnostics are laid out. -/
inductive LogFormat where
  | pretty
  | compact
deriving DecidableEq

/-- Where diagnostics go. -/
inductive LogOutput where
  | stderr
  | file (path : String)
  | both (path : String)
deriving DecidableEq

/-- What can be set about diagnostics. -/
structure LogSettings where
  level : String := "info"
  output : LogOutput := .stderr
  format : LogFormat := .compact
deriving DecidableEq

/-- The path that is given for the file, if there is one. -/
def LogOutput.path? : LogOutput → Option String
  | .stderr => none
  | .file path | .both path => some path

namespace LogSettings

/-- The defaults with this level. -/
def withLevel (level : String) : LogSettings :=
  { level }

/-- The settings with a file instead of standard error. -/
def toFile (settings : LogSettings) (path : String) : LogSettings :=
  { settings with output := .file path }

/-- The settings with a file beside standard error. -/
def toBoth (settings : LogSettings) (path : String) : LogSettings :=
  { settings with output := .both path }

/-- The settings with this layout. -/
def withFormat (settings : LogSettings) (format : LogFormat) : LogSettings :=
  { settings with format }

end LogSettings

namespace Diagnostics

/-- The name of the file where the path has none. -/
def defaultName : String := "csvql.log"

/-- The path of the file of a day, which is written as `yyyy-mm-dd`. -/
def dailyFile (path day : String) : String :=
  Path.directory path ++ "/" ++ (Path.fileName? path).getD defaultName ++ "." ++ day

variable {World : Type → Type} [Monad World] [Files World]

/-- Open the file of the day, or else make its directory and try again. -/
def openFile (path : String) : World (Except FileError Unit) := do
  let file := dailyFile path (← Files.day)
  match ← Files.append file [] with
  | .ok () => return .ok ()
  | .error _ =>
      match ← Files.makeDirectories (Path.directory path) with
      | .error error => return .error error
      | .ok () => Files.append file []

/-- Open the file for diagnostics, if there is one. -/
def start (settings : LogSettings) : World (Except FileError Unit) := do
  match settings.output.path? with
  | none => return .ok ()
  | some path => openFile path

end Diagnostics

end CsvSelect
