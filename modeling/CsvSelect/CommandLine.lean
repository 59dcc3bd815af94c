import CsvSelect.Console
import CsvSelect.Csv.Standard
import CsvSelect.Invocation
import CsvSelect.Settings
import CsvSelect.Toml.Reader

/-!
# The command line

One run of the program answers one request, from an option or from standard input. The settings
come from a file; the options may replace the paths of the table and of the result. The run opens
its file of diagnostics, prints its outcome or its error, and ends with an exit code.

The packages for tables, settings and arguments are parameters here, too. Those that the program
runs with are imported, so that they are found where a run is evaluated.
-/

namespace CsvSelect

/-- The settings with the paths of the table and of the result replaced as the options say. -/
def Options.apply (options : Options) (settings : Settings) : Settings :=
  { settings with
    table := options.table.getD settings.table
    result := options.result.getD settings.result }

namespace CommandLine

/-- What is shown where a request is asked for. -/
def prompt : String :=
  "Enter a query in the form:\n\n" ++
    "\tSELECT * (or comma-separated columns) FROM csv_file_name WHERE column OP 'value' " ++
    "[AND/OR column OP 5];\n\n" ++
    "The query must end with ';'\n"

/-- The text with further lines moved in as far as the first. -/
def indent (text : String) : String :=
  String.ofList <| text.toList.flatMap fun character =>
    if character = '\n' then "\n    ".toList else [character]

/-- What is shown when the program cannot begin its work. -/
def startFailure (context : String) (error : SettingsError) : String :=
  "Error: " ++ context ++ "\n\nCaused by:\n    " ++ indent error.message ++ "\n"

/-- The exit code of a run that came to its outcome or showed a notice. -/
def success : UInt32 := 0

/-- The exit code of a run that came to an error. -/
def failure : UInt32 := 1

/-- The exit code of a run that cannot open its file of diagnostics. -/
def abort : UInt32 := 101

/-- The exit code where the arguments ask for nothing. -/
def misuse : UInt32 := 2

variable {World : Type → Type} [Monad World] [Files World] [Console World]

/-- The bytes that hold the request: the value of the option, or a line asked for. -/
def input (options : Options) : World (List UInt8) := do
  match options.query with
  | some query => return Text.Utf8.encode query
  | none =>
      Console.print (prompt ++ "\n")
      Console.readLine

/-- Print what came of a run, and tell it by the exit code. -/
def conclude : Except Error Outcome → World UInt32
  | .ok outcome => do
      Console.print ("\n" ++ outcome.message ++ "\n")
      return success
  | .error error => do
      Console.printError ("error: " ++ error.message ++ "\n")
      return failure

variable [Toml.Decoder]

/-- The settings that a run works under, or what is shown if there are none. -/
def settings (options : Options) : World (Except String Settings) := do
  match ← Settings.loadIfPresent options.config with
  | .error error => return .error (startFailure ("failed to load " ++ options.config) error)
  | .ok loaded =>
      let settings := options.apply loaded
      match settings.check with
      | .error error => return .error (startFailure "invalid configuration" error)
      | .ok () => return .ok settings

variable [Csv.Codec]

/-- Answer the request of a run with these options. -/
def run (options : Options) : World UInt32 := do
  match ← settings options with
  | .error text =>
      Console.printError text
      return failure
  | .ok settings =>
      match ← Diagnostics.start settings.log with
      | .error error =>
          Console.printError s!"Error: no file for diagnostics: {error.message}\n"
          return abort
      | .ok () =>
          let bytes ← input options
          conclude (← settings.session.runInput bytes)

/-- Do what the arguments ask for. -/
def start [ArgumentReader] (arguments : List String) : World UInt32 := do
  match ArgumentReader.read arguments with
  | .ok (.run options) => run options
  | .ok (.tell text) =>
      Console.print text
      return success
  | .error words =>
      Console.printError words
      return misuse

end CommandLine

end CsvSelect
