/-!
# What the arguments ask for

The program leaves its arguments to a package for command lines. It asks what they mean: a run with
options, or a text that is shown instead, such as a help. If they mean nothing, there are words for
that.

The package that the program runs with reads arguments from the left. The first that asks for help
or for the version decides what the program does; a fault before it ends the reading. After `--` no
further argument may stand.
-/

namespace CsvSelect

/-- The options of a run. -/
structure Options where
  config : String := "config.toml"
  query : Option String := none
  table : Option String := none
  result : Option String := none
deriving DecidableEq

/-- What the arguments ask for: to answer a request with these options, or to show a text. -/
inductive Invocation where
  | run (options : Options)
  | tell (text : String)
deriving DecidableEq

/-- What the program needs of a package for command lines. -/
class ArgumentReader where
  /-- What the arguments ask for, or the words for why they ask for nothing. -/
  read : List String → Except String Invocation

/-! ### The package that the program runs with -/

/-- The options by their names. -/
inductive OptionName where
  | config
  | query
  | csv
  | output
deriving DecidableEq

namespace OptionName

/-- The name as it is written in full. -/
def text : OptionName → String
  | .config => "--config"
  | .query => "--query"
  | .csv => "--csv"
  | .output => "--output"

/-- All names. -/
def all : List OptionName := [.config, .query, .csv, .output]

/-- The name with a place for the value. -/
def usage : OptionName → String
  | .config => "--config <CONFIG>"
  | .query => "--query <QUERY>"
  | .csv => "--csv <CSV>"
  | .output => "--output <OUTPUT>"

/-- The letter that may stand for the name. -/
def letter? : OptionName → Option Char
  | .config => some 'c'
  | .query => some 'q'
  | .csv | .output => none

/-- The value must not be empty: it is a path. -/
def isPath (option : OptionName) : Bool :=
  option != .query

/-- The option and its value if the argument holds both, or else the option alone. -/
def ofArgument? (argument : String) : Option (OptionName × Option String) :=
  match argument.toList with
  | '-' :: '-' :: _ =>
      let name := argument.toList.takeWhile (· != '=')
      let value := argument.toList.dropWhile (· != '=')
      (all.find? (·.text.toList == name)).map fun option =>
        (option, if value.isEmpty then none else some (String.ofList (value.drop 1)))
  | '-' :: letter :: value =>
      (all.find? (·.letter? == some letter)).map fun option =>
        (option, match value with
          | [] => none
          | '=' :: value => some (String.ofList value)
          | value => some (String.ofList value))
  | _ => none

end OptionName

/-- The texts that can be shown instead of a run. -/
inductive Notice where
  | help
  | version
deriving DecidableEq

namespace Notice

/-- How the program is called. -/
def usage : String := "Usage: csvql [OPTIONS]\n"

/-- The text of a notice. -/
def text : Notice → String
  | .help =>
      "Run a SELECT statement against a CSV file\n\n" ++ usage ++ "\nOptions:\n" ++
      "  -c, --config <CONFIG>  Path to TOML configuration file. " ++
      "Defaults are used if it does not exist [default: config.toml]\n" ++
      "  -q, --query <QUERY>    Statement to run instead of prompting on stdin\n" ++
      "      --csv <CSV>        CSV file to query (overrides csv_file_path)\n" ++
      "      --output <OUTPUT>  Result file (overrides result_file_path)\n" ++
      "  -h, --help             Print help\n" ++
      "  -V, --version          Print version\n"
  | .version => "csvql 0.3.0\n"

/-- The notice that the argument asks for. What stands behind a letter is not looked at. -/
def ofArgument? (argument : String) : Option Notice :=
  if argument = "--help" then some .help
  else if argument = "--version" then some .version
  else match argument.toList with
    | '-' :: 'h' :: _ => some .help
    | '-' :: 'V' :: _ => some .version
    | _ => none

end Notice

/-- Why arguments ask for nothing. -/
inductive UsageError where
  | unexpectedArgument (argument : String)
  | missingValue (option : OptionName)
  | repeatedOption (option : OptionName)
deriving DecidableEq

/-- The words for an error. -/
def UsageError.message : UsageError → String
  | .unexpectedArgument argument =>
      s!"error: unexpected argument '{argument}' found\n\n" ++ Notice.usage ++ hint
  | .missingValue option =>
      s!"error: a value is required for '{option.usage}' but none was supplied\n" ++ hint
  | .repeatedOption option =>
      s!"error: the argument '{option.usage}' cannot be used multiple times\n\n" ++
        Notice.usage ++ hint
where
  hint : String := "\nFor more information, try '--help'.\n"

namespace Options

/-- The options with a value for one more. -/
def set (options : Options) (option : OptionName) (value : String) : Options :=
  match option with
  | .config => { options with config := value }
  | .query => { options with query := some value }
  | .csv => { options with table := some value }
  | .output => { options with result := some value }

/-- The options with a value for one more, which is not among those given and accepts the value. -/
def set? (options : Options) (given : List OptionName) (option : OptionName) (value : String) :
    Except UsageError Options :=
  if given.contains option then .error (.repeatedOption option)
  else if option.isPath && value.isEmpty then .error (.missingValue option)
  else .ok (options.set option value)

end Options

namespace Invocation

/-- The argument is an option, or looks like one, and so is not the value of another. -/
def isOption (argument : String) : Bool :=
  argument.toList.head? == some '-' && argument != "-"

/-- What the arguments ask for after `options`; `given` are the options that have a value. -/
def ofArgumentsFrom (options : Options) (given : List OptionName) :
    List String → Except UsageError Invocation
  | [] => .ok (.run options)
  | argument :: rest =>
      if argument = "--" then
        match rest with
        | [] => .ok (.run options)
        | further :: _ => .error (.unexpectedArgument further)
      else match Notice.ofArgument? argument with
        | some notice => .ok (.tell notice.text)
        | none =>
            match OptionName.ofArgument? argument, rest with
            | none, _ => .error (.unexpectedArgument argument)
            | some (option, some value), rest =>
                match options.set? given option value with
                | .error error => .error error
                | .ok options => ofArgumentsFrom options (option :: given) rest
            | some (option, none), [] => .error (.missingValue option)
            | some (option, none), value :: rest =>
                if isOption value then .error (.missingValue option)
                else match options.set? given option value with
                  | .error error => .error error
                  | .ok options => ofArgumentsFrom options (option :: given) rest

/-- What the arguments ask for. -/
def ofArguments (arguments : List String) : Except UsageError Invocation :=
  ofArgumentsFrom {} [] arguments

end Invocation

/-- The package that the program runs with. -/
instance ArgumentReader.standard : ArgumentReader where
  read arguments := (Invocation.ofArguments arguments).mapError UsageError.message

end CsvSelect
