import CsvSelect.CommandLine
import CsvSelect.Proofs.Requests
import CsvSelect.Proofs.Session.Conduct
import CsvSelect.Proofs.Terminals

/-!
# Runs from the command line

A run that is asked for on the command line has settings, those of its file with the paths that the
options replace, or it ends before anything is done (`Options.settings?`). With settings it is a run
of their session on the request of the option, or on the first line of standard input, and it ends
as that run does: the exit code tells whether there is an outcome, and the outcome or the error is
what is printed last (`CommandLine.perform_start`).
-/

namespace CsvSelect

open Disk

/-! ### The options that can be asked for -/

namespace OptionName

/-- The argument that gives the option this value. -/
def argument (option : OptionName) (value : String) : String :=
  option.text ++ "=" ++ value

theorem toList_argument (option : OptionName) (value : String) :
    (option.argument value).toList = option.text.toList ++ '=' :: value.toList := by
  simp [argument]

theorem ofArgument?_argument (option : OptionName) (value : String) :
    ofArgument? (option.argument value) = some (option, some value) := by
  rw [ofArgument?, toList_argument]
  cases option <;> simp [text] <;> rfl

theorem notice?_argument (option : OptionName) (value : String) :
    Notice.ofArgument? (option.argument value) = none := by
  have apart (notice : String) (noSign : '=' ∉ notice.toList) : option.argument value ≠ notice := by
    rintro rfl
    simp [toList_argument] at noSign
  rw [Notice.ofArgument?, if_neg (apart _ (by decide)), if_neg (apart _ (by decide)),
    toList_argument]
  cases option <;> rfl

end OptionName

namespace Options

/-- The options name files: no path is empty. -/
structure Proper (options : Options) : Prop where
  config : options.config.isEmpty = false
  table : ∀ path ∈ options.table, path.isEmpty = false
  result : ∀ path ∈ options.result, path.isEmpty = false

/-- Arguments that ask for a run with these options. -/
def arguments (options : Options) : List String :=
  OptionName.config.argument options.config ::
    ((options.query.map OptionName.query.argument).toList ++
      (options.table.map OptionName.csv.argument).toList ++
      (options.result.map OptionName.output.argument).toList)

variable {options : Options} {given : List OptionName} {option : OptionName} {value : String}

theorem set?_eq_ok_iff {next : Options} :
    options.set? given option value = .ok next ↔
      option ∉ given ∧ (option.isPath = true → value.isEmpty = false) ∧
        next = options.set option value := by
  rw [set?]
  by_cases again : option ∈ given
  · simp [again]
  · cases path : option.isPath <;> cases empty : value.isEmpty <;> simp [again, eq_comm]

theorem Proper.set (proper : options.Proper)
    (named : option.isPath = true → value.isEmpty = false) : (options.set option value).Proper := by
  cases option with
  | config => exact { proper with config := named rfl }
  | query => exact { proper with }
  | csv => exact { proper with table := by rintro _ ⟨⟩; exact named rfl }
  | output => exact { proper with result := by rintro _ ⟨⟩; exact named rfl }

end Options

namespace Invocation

open Options

theorem ofArgumentsFrom_argument (options : Options) (given : List OptionName)
    (option : OptionName) (value : String) (rest : List String) :
    ofArgumentsFrom options given (option.argument value :: rest) =
      match options.set? given option value with
      | .error error => .error error
      | .ok options => ofArgumentsFrom options (option :: given) rest := by
  have proper : option.argument value ≠ "--" := by
    intro same
    have sign := congrArg (fun text => decide ('=' ∈ text.toList)) same
    simp [OptionName.toList_argument] at sign
  rw [ofArgumentsFrom.eq_def]
  cases set : options.set? given option value <;>
    simp only [if_neg proper, option.notice?_argument value, option.ofArgument?_argument value, set]

/-- What a first argument can do on the way to a run: end the options, or give one a value. -/
theorem ofArgumentsFrom_cases {options next : Options} {given : List OptionName}
    {argument : String} {rest : List String}
    (asked : ofArgumentsFrom options given (argument :: rest) = .ok (.run next)) :
    next = options ∨
      ∃ option value changed further,
        options.set? given option value = .ok changed ∧ further.length ≤ rest.length ∧
          ofArgumentsFrom changed (option :: given) further = .ok (.run next) := by
  have step {option : OptionName} {value : String} {further : List String}
      (asked : (match options.set? given option value with
        | .error error => .error error
        | .ok changed => ofArgumentsFrom changed (option :: given) further) =
          Except.ok (.run next)) :
      ∃ changed, options.set? given option value = .ok changed ∧
        ofArgumentsFrom changed (option :: given) further = .ok (.run next) := by
    cases set : options.set? given option value with
    | error error => simp [set] at asked
    | ok changed =>
        simp only [set] at asked
        exact ⟨changed, rfl, asked⟩
  rw [ofArgumentsFrom.eq_def] at asked
  simp only at asked
  split at asked
  · left
    cases rest with
    | nil => simpa using asked.symm
    | cons further rest => simp at asked
  · right
    split at asked
    · simp at asked
    · split at asked
      · simp at asked
      · rcases step asked with ⟨changed, set, asked⟩
        exact ⟨_, _, changed, _, set, Nat.le_refl _, asked⟩
      · simp at asked
      · split at asked
        · simp at asked
        · rcases step asked with ⟨changed, set, asked⟩
          exact ⟨_, _, changed, _, set, by simp, asked⟩

/-- Reading further arguments keeps the options proper. -/
theorem proper_of_ofArgumentsFrom {options next : Options} {given : List OptionName}
    {arguments : List String} (proper : options.Proper)
    (asked : ofArgumentsFrom options given arguments = .ok (.run next)) : next.Proper := by
  generalize count : arguments.length = length
  induction length using Nat.strongRecOn generalizing options given arguments with
  | ind length ih =>
      cases arguments with
      | nil =>
          cases asked
          exact proper
      | cons argument rest =>
          rw [List.length_cons] at count
          rcases ofArgumentsFrom_cases asked with
            rfl | ⟨option, value, changed, further, set, shorter, asked⟩
          · exact proper
          · rcases set?_eq_ok_iff.mp set with ⟨-, named, rfl⟩
            exact ih further.length (by omega) (proper.set named) asked rfl

theorem ofArguments_arguments {options : Options} (proper : options.Proper) :
    ofArguments options.arguments = .ok (.run options) := by
  rcases options with ⟨config, query, table, result⟩
  rcases proper with ⟨config', table', result'⟩
  have noPath : OptionName.query.isPath = false := rfl
  cases query <;> cases table <;> cases result <;>
    simp [ofArguments, arguments, ofArgumentsFrom_argument, set?, Options.set, ofArgumentsFrom,
      config', table', result', noPath]

theorem read_arguments {options : Options} (proper : options.Proper) :
    ArgumentReader.read options.arguments = .ok (.run options) := by
  change (ofArguments options.arguments).mapError UsageError.message = _
  rw [ofArguments_arguments proper]
  rfl

/-- What can be asked for on the command line is a run with any options that name files. -/
theorem exists_arguments_iff {options : Options} :
    (∃ arguments, ArgumentReader.read arguments = .ok (.run options)) ↔ options.Proper := by
  constructor
  · rintro ⟨arguments, asked⟩
    change (ofArguments arguments).mapError UsageError.message = _ at asked
    cases found : ofArguments arguments with
    | error error => simp [found, Except.mapError] at asked
    | ok invocation =>
        obtain rfl : invocation = .run options := by simpa [found, Except.mapError] using asked
        exact proper_of_ofArgumentsFrom ⟨rfl, by simp, by simp⟩ found
  · intro proper
    exact ⟨_, read_arguments proper⟩

end Invocation

/-! ### Settings -/

/--
The settings in the file at the path, or the defaults if there is no such file. There are none if
the file cannot be read or holds no settings.
-/
def Settings.at? [Toml.Decoder] (disk : Disk) (path : String) : Option Settings :=
  if disk.exists? path then do
    let bytes ← disk.content? path
    let document ← (Text.Utf8.decode bytes).toOption
    (ofToml document).toOption
  else some {}

/-- The settings for these options, if there are any and they can be used. -/
def Options.settings? [Toml.Decoder] (options : Options) (disk : Disk) : Option Settings :=
  (Settings.at? disk options.config).bind fun loaded =>
    if (options.apply loaded).check = .ok () then some (options.apply loaded) else none

theorem Settings.perform_loadIfPresent [Toml.Decoder] (disk : Disk) (path : String) :
    ∃ loaded, disk.perform (loadIfPresent path) = (loaded, disk) ∧
      loaded.toOption = Settings.at? disk path := by
  have asked : disk.perform (Files.exists? path) = (disk.exists? path, disk) := rfl
  have read : disk.perform (Files.read path) = (disk.read path, disk) := rfl
  rw [loadIfPresent, perform_bind, asked, Settings.at?]
  simp only
  cases disk.exists? path with
  | false => exact ⟨_, rfl, rfl⟩
  | true =>
      simp only [if_true, load, perform_bind, read, content?]
      cases disk.read path with
      | error fault => exact ⟨_, rfl, rfl⟩
      | ok bytes =>
          simp only
          cases decoded : Text.Utf8.decode bytes with
          | error length => exact ⟨_, rfl, by simp [decoded, Except.toOption]⟩
          | ok document =>
              refine ⟨_, rfl, ?_⟩
              cases read : ofToml document <;>
                simp [decoded, read, Except.toOption, Except.mapError]

namespace CommandLine

open Terminal

section

variable [Toml.Decoder] (options : Options) (terminal : Terminal)

/-- Settings are looked for without a trace. -/
theorem perform_settings :
    ∃ answer, terminal.perform (settings options) = (answer, terminal) ∧
      answer.toOption = options.settings? terminal.disk := by
  rcases Settings.perform_loadIfPresent terminal.disk options.config with ⟨loaded, load, same⟩
  rw [settings, Terminal.perform_bind, Settings.loadIfPresent_onDisk, perform_onDisk, load,
    Options.settings?, ← same]
  cases loaded with
  | error error => exact ⟨_, rfl, rfl⟩
  | ok loaded =>
      simp only
      cases checked : (options.apply loaded).check with
      | error error => exact ⟨_, rfl, by simp [checked, Except.toOption]⟩
      | ok => exact ⟨_, rfl, by simp [checked, Except.toOption]⟩

end

/-- What is printed before a request is read: the prompt, unless an option holds the request. -/
def greeting (options : Options) : String :=
  if options.query.isSome then "" else prompt ++ "\n"

/-- The bytes in which the request is looked for. -/
def source (options : Options) (input : List UInt8) : List UInt8 :=
  match options.query with
  | some query => Text.Utf8.encode query
  | none => input

/-- The outcome or the error of a run is printed last, and the exit code tells which it is. -/
theorem perform_conclude (terminal : Terminal) (ran : Except Error Outcome) :
    terminal.perform (conclude ran) =
      match ran with
      | .ok outcome =>
          (success,
            { terminal with output := terminal.output ++ ("\n" ++ outcome.message ++ "\n") })
      | .error error =>
          (failure,
            { terminal with
              errors := terminal.errors ++ ("error: " ++ error.message ++ "\n") }) := by
  cases ran <;> rfl

section

variable [Csv.Codec] (options : Options) (terminal : Terminal)

theorem perform_input :
    ∃ line rest,
      terminal.perform (input options) =
        (line, { terminal with input := rest, output := terminal.output ++ greeting options }) ∧
      ∀ (session : Session) (disk : Disk), disk.perform (session.runInput line) =
        disk.perform (session.runInput (source options terminal.input)) := by
  rw [input, greeting, source]
  cases options.query with
  | some query =>
      refine ⟨_, terminal.input, ?_, fun _ _ => rfl⟩
      simp only [Option.isSome_some, if_true, String.append_empty]
      rfl
  | none =>
      refine ⟨(Text.splitLine terminal.input).1, (Text.splitLine terminal.input).2, rfl, ?_⟩
      intro session disk
      rw [Session.runInput, readRequest_splitLine, Session.runInput]

variable [Toml.Decoder]

/-- Without settings nothing is done. -/
theorem perform_run_of_none (missing : options.settings? terminal.disk = none) :
    ∃ text, terminal.perform (run options) =
      (failure, { terminal with errors := terminal.errors ++ text }) := by
  rcases perform_settings options terminal with ⟨answer, performed, same⟩
  rw [missing] at same
  rw [run, Terminal.perform_bind, performed]
  cases answer with
  | error text => exact ⟨text, rfl⟩
  | ok settings => cases same

/-- With settings the session is run, and the run is concluded by what comes of it. -/
theorem perform_run_of_some {settings : Settings}
    (found : options.settings? terminal.disk = some settings) (noFile : settings.logFile = none) :
    ∃ rest,
      let ran := terminal.disk.perform (settings.session.runInput (source options terminal.input))
      terminal.perform (run options) =
        Terminal.perform
          { terminal with
            disk := ran.2
            input := rest
            output := terminal.output ++ greeting options }
          (conclude ran.1) := by
  rcases perform_settings options terminal with ⟨answer, performed, same⟩
  rcases perform_input options terminal with ⟨line, rest, read, sameRun⟩
  have started : terminal.perform (Diagnostics.start settings.log) = (.ok (), terminal) := by
    rw [Diagnostics.start, Settings.log, noFile]
    rfl
  rw [found] at same
  refine ⟨rest, ?_⟩
  rw [run, Terminal.perform_bind, performed]
  cases answer with
  | error text => cases same
  | ok settings' =>
      cases same
      simp only [Terminal.perform_bind, started, read, Session.runInput_onDisk, perform_onDisk,
        sameRun]

variable {options}

/--
How a run ends that the arguments ask for. Without settings that can be used it fails before it
prints to standard output or touches a file. With settings that send no diagnostics to a file it
does to the files what the session does, it succeeds exactly if the session comes to an outcome, and
the result file is as it was if it fails, the paths lead to different files and the result file
takes all bytes that are written to it.
-/
theorem perform_start [ArgumentReader] {arguments : List String}
    (asked : ArgumentReader.read arguments = .ok (.run options)) (disk : Disk)
    (input : List UInt8) :
    let ended := Terminal.perform { disk, input } (start arguments)
    (options.settings? disk = none →
      ended.1 = 1 ∧ ended.2.output = "" ∧ ended.2.disk = disk) ∧
    ∀ settings, options.settings? disk = some settings → settings.logFile = none →
      let ran := disk.perform (settings.session.runInput (source options input))
      ended.2.disk = ran.2 ∧
        (∀ outcome, ran.1 = .ok outcome →
          ended.1 = 0 ∧ ended.2.errors = "" ∧
            ended.2.output = greeting options ++ "\n" ++ outcome.message ++ "\n") ∧
        ∀ error, ran.1 = .error error →
          ended.1 = 1 ∧ ended.2.errors = "error: " ++ error.message ++ "\n" ∧
            ended.2.output = greeting options ∧
            ((settings.table :: settings.session.written).Pairwise disk.Differ →
              disk.Reliable settings.result →
              ended.2.disk.content? settings.result = disk.content? settings.result) := by
  have asRun : start arguments = (run options : StateM Terminal UInt32) := by rw [start, asked]
  rw [asRun]
  constructor
  · intro missing
    rcases perform_run_of_none options { disk, input } missing with ⟨text, performed⟩
    rw [performed]
    exact ⟨rfl, rfl, rfl⟩
  · intro settings found noFile
    rcases perform_run_of_some options { disk, input } found noFile with ⟨rest, performed⟩
    simp only [perform_conclude] at performed
    rw [performed]
    refine ⟨?_, ?_, ?_⟩
    · cases (disk.perform (settings.session.runInput (source options input))).1 <;> rfl
    · intro outcome succeeded
      simp [succeeded, success, String.append_assoc]
    · intro error failed
      rw [failed]
      refine ⟨rfl, String.empty_append, String.empty_append, ?_⟩
      intro different reliable
      have takesAll : disk.Reliable settings.session.result := reliable
      apply (Session.changesOnly_runInput_of_error takesAll failed).content?_eq
      have apart := (List.pairwise_cons.mp (List.pairwise_cons.mp different).2).1
      exact apart

end

/-- Options for a run of the sample session whose result goes elsewhere. -/
def sampleOptions : Options where
  config := "c.toml"
  query := some "select a from t;"
  table := some "t.csv"
  result := some "out.csv"

/-- The sample disk with a file of settings. -/
def sampleSettings (document : String) : Disk :=
  Session.sampleDisk.put ["c.toml"] (.file (Text.Utf8.encode document))

/-- How the run with these options ends on the disk. -/
def sampleRun (disk : Disk) : UInt32 × Terminal :=
  Terminal.perform { disk, input := [] } (start sampleOptions.arguments)

/--
A table that is no csv file is replaced before it is looked at, a run that may take no time is not
begun, and without any files the defaults are used and the table is missing.
-/
theorem perform_start_sample :
    let ran := sampleRun (sampleSettings "csv_file_path = \"t\"")
    let refused := sampleRun (sampleSettings "timeout_secs = 0")
    let failed := sampleRun {}
    (ran.1 = 0 ∧ ran.2.errors = "" ∧ ran.2.output = "\ncount: 2 result in: out.csv\n") ∧
      (refused.1 = 1 ∧ refused.2.output = "" ∧
        refused.2.disk = sampleSettings "timeout_secs = 0") ∧
      failed.1 = 1 ∧
        failed.2.errors = "error: I/O error: No such file or directory (os error 2)\n" ∧
        failed.2.disk.content? "out.csv" = none := by
  have asked : ArgumentReader.read sampleOptions.arguments = .ok (.run sampleOptions) :=
    Invocation.read_arguments ⟨by decide, by decide, by decide⟩
  refine ⟨?_, ?_, ?_⟩
  · rcases perform_start asked (sampleSettings "csv_file_path = \"t\"") [] with ⟨-, ends⟩
    have found : sampleOptions.settings? (sampleSettings "csv_file_path = \"t\"") =
        some { table := "t.csv", result := "out.csv" } := by decide +kernel
    rcases ends _ found rfl with ⟨-, succeeds, -⟩
    exact succeeds ⟨2, "out.csv"⟩ (by decide +kernel)
  · rcases perform_start asked (sampleSettings "timeout_secs = 0") [] with ⟨fails, -⟩
    exact fails (by decide +kernel)
  · rcases perform_start asked {} [] with ⟨-, ends⟩
    have found : sampleOptions.settings? {} =
        some { table := "t.csv", result := "out.csv" } := by decide +kernel
    rcases ends _ found rfl with ⟨-, -, fails⟩
    rcases fails (.file .notFound) (by decide +kernel) with ⟨code, message, -, unchanged⟩
    have same := unchanged (by decide +kernel) (by decide +kernel)
    exact ⟨code, message, same.trans (by decide +kernel)⟩

end CommandLine

end CsvSelect
