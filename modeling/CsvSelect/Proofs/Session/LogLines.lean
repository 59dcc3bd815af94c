import CsvSelect.Proofs.Requests
import CsvSelect.Proofs.Session.Conduct

/-!
# The lines of the logs

A record is meant to be one line of its log. This file follows the lines of both logs through any
sequence of events: texts that are recorded, commands that are obeyed, and new contents of the table
between them.

Each log consists of the records of the events, in order. Texts are recorded as they are, so a
record is one line if its text holds no line feed, and the lines of a log are its records exactly if
this is so for all of them (`lines_occurAll`). Requests that are read from an input never hold a
line feed, but requests that are handed in as texts can, and so can errors, which repeat parts of
the request and of the table. A text with a line feed can make the log of one event the same as the
log of two (`lines_forged`).
-/

namespace CsvSelect

open Text

namespace Journal

/-- In the name of a field and in a time there is no line feed, so there is one only in the text. -/
theorem Record.mem_line_iff {field : String} (named : '\n' ∉ field.toList) {record : Record}
    (timed : '\n' ∉ record.time.toList) :
    0x0A ∈ record.line field ↔ '\n' ∈ record.text.toList := by
  simp [Record.line, mem_encode_lineFeed, named, timed]

/-- Records are lines that are put behind those of the log. -/
theorem getD_extended (content : Option (List UInt8)) (field : String) (records : List Record) :
    (extended content (records.map fun record => entry record.time field record.text)).getD [] =
      content.getD [] ++ ended (records.map (Record.line field)) := by
  induction records generalizing content with
  | nil => simp [extended, ended]
  | cons record records ih =>
      have later := ih (some (content.getD [] ++ entry record.time field record.text))
      rw [List.map_cons, extended, List.foldl_cons, ← extended, later, Option.getD_some, entry,
        List.append_assoc]
      rfl

/-- The records are found again as the lines of their log if no text breaks its line. -/
theorem pieces_ended_line_iff {field : String} (named : '\n' ∉ field.toList)
    {records : List Record} (timed : ∀ record ∈ records, '\n' ∉ record.time.toList) :
    pieces (ended (records.map (Record.line field))) =
        records.map (Record.line field) ++ [[]] ↔
      ∀ record ∈ records, '\n' ∉ record.text.toList := by
  rw [pieces_ended_iff, List.forall_mem_map]
  constructor
  · intro whole record mem
    rw [← Record.mem_line_iff named (timed record mem)]
    exact whole record mem
  · intro whole record mem
    rw [Record.mem_line_iff named (timed record mem)]
    exact whole record mem

end Journal

/-- The bytes of the log at this path, which may be missing as long as nothing is recorded. -/
def Disk.log (disk : Disk) (path : String) : List UInt8 :=
  (disk.content? path).getD []

namespace Session

open Disk Journal

/-- What can happen while a session is in use. -/
inductive Event where
  /-- A request is recorded and nothing else. -/
  | request (text : String)
  /-- An error is recorded and nothing else. -/
  | error (text : String)
  | command (command : Command)
  /-- The table gets this content. -/
  | fill (bytes : List UInt8)

section

variable [Csv.Codec]

/-- The disk after an event. -/
def occur (session : Session) (disk : Disk) : Event → Disk
  | .request text => (disk.perform (recordRequest session.journal text)).2
  | .error text => (disk.perform (recordError session.journal text)).2
  | .command command => session.obey disk command
  | .fill bytes => (disk.replace session.table bytes).2

/-- The disk after the events, each at its time. -/
def occurAll (session : Session) (disk : Disk) (events : List (String × Event)) : Disk :=
  events.foldl (fun disk (time, event) => session.occur (disk.setClock time) event) disk

end

/-! ### What is recorded -/

/-- The request that is recorded for the event, if there is one. -/
def Event.request? : Event → Option String
  | .request text => some text
  | .error _ => none
  | .command asked => asked.request?
  | .fill _ => none

/-- The request that is handed in as a text. -/
def Event.handedIn? : Event → Option String
  | .request text => some text
  | .command (.run text) => some text
  | _ => none

/-- The words for the error that a run ended with, if it did. -/
def failure? : Except Error Outcome → Option String
  | .ok _ => none
  | .error error => some error.message

/-- The error that is recorded for the event on the disk as it is, if there is one. -/
def error? [Csv.Codec] (session : Session) (disk : Disk) : Event → Option String
  | .request _ => none
  | .error text => some text
  | .command (.run request) => failure? (disk.perform (session.run request)).1
  | .command (.runInput input) => failure? (disk.perform (session.runInput input)).1
  | .command (.query _) => none
  | .fill _ => none

/-- The requests of the events. -/
def requests (events : List (String × Event)) : List Record :=
  events.filterMap fun (time, event) => event.request?.map (Record.mk time)

/-- The errors of the events, which depend on what the disk holds when they happen. -/
def errors [Csv.Codec] (session : Session) (disk : Disk) : List (String × Event) → List Record
  | [] => []
  | (time, event) :: events =>
      let now := disk.setClock time
      ((session.error? now event).map (Record.mk time)).toList ++
        session.errors (session.occur now event) events

theorem mem_requests {events : List (String × Event)} {record : Record} :
    record ∈ requests events ↔
      ∃ event, (record.time, event) ∈ events ∧ event.request? = some record.text := by
  simp only [requests, List.mem_filterMap, Option.map_eq_some_iff]
  constructor
  · rintro ⟨⟨time, event⟩, mem, text, requested, rfl⟩
    exact ⟨event, mem, requested⟩
  · rintro ⟨event, mem, requested⟩
    exact ⟨_, mem, record.text, requested, rfl⟩

theorem Event.request?_of_handedIn? {event : Event} {text : String}
    (handedIn : event.handedIn? = some text) : event.request? = some text := by
  cases event with
  | request given => exact handedIn
  | error given => simp [handedIn?] at handedIn
  | command asked =>
      cases asked with
      | run given => exact handedIn
      | runInput input => simp [handedIn?] at handedIn
      | query given => simp [handedIn?] at handedIn
  | fill bytes => simp [handedIn?] at handedIn

/-- A request with a line feed was handed in, since an input has none to read. -/
theorem Event.handedIn?_of_mem {event : Event} {text : String}
    (requested : event.request? = some text) (broken : '\n' ∈ text.toList) :
    event.handedIn? = some text := by
  cases event with
  | request given => exact requested
  | error given => simp [request?] at requested
  | command asked =>
      cases asked with
      | run given => exact requested
      | runInput input =>
          rw [request?, Command.request?] at requested
          cases read : readRequest input with
          | error error => simp [read, Except.toOption] at requested
          | ok given =>
              rw [read] at requested
              have same : given = text := Option.some.inj requested
              exact absurd (same ▸ broken) (not_mem_of_readRequest read)
      | query given => simp [request?, Command.request?] at requested
  | fill bytes => simp [request?] at requested

theorem timed_of_mem_requests {events : List (String × Event)}
    (timed : ∀ event ∈ events, '\n' ∉ event.1.toList) {record : Record}
    (mem : record ∈ requests events) : '\n' ∉ record.time.toList := by
  rcases mem_requests.mp mem with ⟨event, mem, -⟩
  exact timed _ mem

theorem forall_requests_iff {events : List (String × Event)} :
    (∀ record ∈ requests events, '\n' ∉ record.text.toList) ↔
      ∀ event ∈ events, ∀ text ∈ event.2.handedIn?, '\n' ∉ text.toList := by
  constructor
  · intro whole event mem text handedIn
    exact whole ⟨event.1, text⟩
      (mem_requests.mpr ⟨event.2, mem, Event.request?_of_handedIn? handedIn⟩)
  · intro whole record mem broken
    rcases mem_requests.mp mem with ⟨event, mem, requested⟩
    exact whole _ mem _ (Event.handedIn?_of_mem requested broken) broken

/-! ### One event -/

section

variable [Csv.Codec] {session : Session} {disk : Disk}

theorem changesOnly_occur (separate : session.Separate disk) (event : Event) :
    ChangesOnly (session.table :: session.written) disk (session.occur disk event) := by
  cases event with
  | request text =>
      exact (effect_recordRequest separate text).changes.mono (List.subset_cons_self _ _)
  | error text => exact (effect_recordError separate text).changes.mono (List.subset_cons_self _ _)
  | command command => exact (changesOnly_obey separate command).mono (List.subset_cons_self _ _)
  | fill bytes => exact (changesOnly_replace disk session.table bytes).mono (by simp)

theorem content?_run (separate : session.Separate disk)
    (found : (disk.target? session.journal.access).isSome) (request : String) :
    let run := disk.perform (session.run request)
    run.2.content? session.journal.access =
        extended (disk.content? session.journal.access) [entry disk.clock "request" request] ∧
      run.2.content? session.journal.error =
        extended (disk.content? session.journal.error)
          ((failure? run.1).map (entry disk.clock "error")).toList := by
  have ran := (ran_run separate request).effect
  rcases requestRecords_of_target? found request with ⟨recorded, noFault⟩
  rw [recorded, noFault] at ran
  intro run
  rcases ran with ⟨rows, -, done, effect⟩ | ⟨error, result, failed, effect, -⟩
  · simp only [run, done]
    exact ⟨effect.access, effect.error⟩
  · simp only [run, failed]
    exact ⟨effect.access, effect.error⟩

/-- An event leaves its records in the logs, and nothing else. -/
theorem content?_occur (separate : session.Separate disk)
    (found : (disk.target? session.journal.access).isSome) (event : Event) :
    (session.occur disk event).content? session.journal.access =
        extended (disk.content? session.journal.access)
          (event.request?.map (entry disk.clock "request")).toList ∧
      (session.occur disk event).content? session.journal.error =
        extended (disk.content? session.journal.error)
          ((session.error? disk event).map (entry disk.clock "error")).toList := by
  cases event with
  | request text =>
      have effect := effect_recordRequest separate text
      rcases requestRecords_of_target? found text with ⟨recorded, noFault⟩
      rw [recorded, noFault] at effect
      exact ⟨effect.access, effect.error⟩
  | error text =>
      have effect := effect_recordError separate text
      exact ⟨effect.access, effect.error⟩
  | command command =>
      cases command with
      | run request => exact content?_run separate found request
      | runInput input =>
          rw [occur, obey, Event.request?, Command.request?, error?]
          cases read : readRequest input with
          | ok request =>
              rw [perform_runInput_of_ok read]
              exact content?_run separate found request
          | error error =>
              have effect := effect_recordError separate (Error.ofRequest error).message
              rw [perform_runInput_of_error read, perform_fail]
              exact ⟨effect.access, effect.error⟩
      | query request =>
          rw [occur, obey, perform_query]
          exact ⟨rfl, rfl⟩
  | fill bytes =>
      have changes := changesOnly_replace disk session.table bytes
      have differs := separate.table_differs
      constructor
      · apply changes.content?_eq
        simpa using differ_comm.mp (differs session.journal.access (by simp [written]))
      · apply changes.content?_eq
        simpa using differ_comm.mp (differs session.journal.error (by simp [written]))

/-! ### Sequences of events -/

/-- The logs consist of the records of the events, in order. -/
theorem content?_occurAll (separate : session.Separate disk)
    (found : (disk.target? session.journal.access).isSome) (events : List (String × Event)) :
    (session.occurAll disk events).content? session.journal.access =
        extended (disk.content? session.journal.access)
          ((requests events).map fun record => entry record.time "request" record.text) ∧
      (session.occurAll disk events).content? session.journal.error =
        extended (disk.content? session.journal.error)
          ((session.errors disk events).map fun record =>
            entry record.time "error" record.text) := by
  induction events generalizing disk with
  | nil => exact ⟨rfl, rfl⟩
  | cons timed events ih =>
      rcases timed with ⟨time, event⟩
      -- Neither the clock nor the event makes a path lead elsewhere, so the next event finds its
      -- files apart again.
      have waiting := changesOnly_setClock [] disk time
      have separate' := separate.of_changes waiting
      have found' : ((disk.setClock time).target? session.journal.access).isSome := found
      have changes := changesOnly_occur separate' event
      have first := content?_occur separate' found' event
      rw [content?_setClock, content?_setClock, clock_setClock] at first
      have later := ih (separate'.of_changes changes) (by rwa [changes.target?_eq])
      rw [first.1, first.2, ← extended_append, ← extended_append] at later
      rw [occurAll, List.foldl_cons, ← occurAll, later.1, later.2]
      constructor
      · cases requested : event.request? <;> simp [requests, requested]
      · cases failed : session.error? (disk.setClock time) event <;> simp [errors, failed]

theorem timed_of_mem_errors {events : List (String × Event)}
    (timed : ∀ event ∈ events, '\n' ∉ event.1.toList) {record : Record}
    (mem : record ∈ session.errors disk events) : '\n' ∉ record.time.toList := by
  induction events generalizing disk with
  | nil => simp [errors] at mem
  | cons first events ih =>
      rcases List.mem_append.mp mem with here | later
      · rcases Option.map_eq_some_iff.mp (Option.mem_toList.mp here) with ⟨text, -, rfl⟩
        exact timed first List.mem_cons_self
      · exact ih (fun event mem => timed event (List.mem_cons_of_mem _ mem)) later

/--
After any events on logs that were empty, each log holds the records of these events, in order. They
are its lines exactly if no text in them holds a line feed, which requests that are read never do.
-/
theorem lines_occurAll (separate : session.Separate disk)
    (found : (disk.target? session.journal.access).isSome)
    (noRequests : disk.log session.journal.access = [])
    (noErrors : disk.log session.journal.error = []) (events : List (String × Event))
    (timed : ∀ event ∈ events, '\n' ∉ event.1.toList) :
    let access := (session.occurAll disk events).log session.journal.access
    let error := (session.occurAll disk events).log session.journal.error
    let accessLines := (requests events).map (Record.line "request")
    let errorLines := (session.errors disk events).map (Record.line "error")
    (access = ended accessLines ∧ error = ended errorLines) ∧
      (pieces access = accessLines ++ [[]] ↔
        ∀ event ∈ events, ∀ text ∈ event.2.handedIn?, '\n' ∉ text.toList) ∧
      (pieces error = errorLines ++ [[]] ↔
        ∀ record ∈ session.errors disk events, '\n' ∉ record.text.toList) := by
  intro access error accessLines errorLines
  rcases content?_occurAll separate found events with ⟨accessContent, errorContent⟩
  have accessEnded : access = ended accessLines := by
    simp only [access, log, accessContent, getD_extended]
    rw [← log, noRequests, List.nil_append]
  have errorEnded : error = ended errorLines := by
    simp only [error, log, errorContent, getD_extended]
    rw [← log, noErrors, List.nil_append]
  refine ⟨⟨accessEnded, errorEnded⟩, ?_, ?_⟩
  · rw [accessEnded, ← forall_requests_iff]
    exact pieces_ended_line_iff (by decide) fun record mem => timed_of_mem_requests timed mem
  · rw [errorEnded]
    exact pieces_ended_line_iff (by decide) fun record mem => timed_of_mem_errors timed mem

end

/-- A query on the sample for the rows with a large first cell, as a line of input. -/
def largeCells : Event :=
  .command (.runInput (Utf8.encode "select * from t where a > 5;\n"))

/-- A request, a new table in which a cell is no integer, a query on it, and an error. -/
def sampleEvents : List (String × Event) :=
  [("9", .request "select b from t;"), ("10", .fill (Utf8.encode "a\nx\n")), ("11", largeCells),
    ("12", .error "lost")]

theorem lines_sample :
    pieces ((sample.occurAll sampleDisk sampleEvents).log sample.journal.access) =
        [⟨"9", "select b from t;"⟩, ⟨"11", "select * from t where a > 5;"⟩].map
          (Record.line "request") ++ [[]] ∧
      pieces ((sample.occurAll sampleDisk sampleEvents).log sample.journal.error) =
        [⟨"11", "types do not match: 'x' in column 'a' must be an integer"⟩, ⟨"12", "lost"⟩].map
          (Record.line "error") ++ [[]] := by
  have separate : sample.Separate sampleDisk := by decide +kernel
  have requested : requests sampleEvents =
      [⟨"9", "select b from t;"⟩, ⟨"11", "select * from t where a > 5;"⟩] := by decide +kernel
  have failed : sample.errors sampleDisk sampleEvents =
      [⟨"11", "types do not match: 'x' in column 'a' must be an integer"⟩, ⟨"12", "lost"⟩] := by
    decide +kernel
  have lines := lines_occurAll separate (by decide +kernel) (by decide +kernel) (by decide +kernel)
    sampleEvents (by decide)
  simp only [requested, failed] at lines
  exact ⟨lines.2.1.mpr (by decide), lines.2.2.mpr (by decide)⟩

/-- A text that ends its own record and begins the record of another request. -/
def forgery : String :=
  "select a from t;\"\ntime: \"9\", request: \"select b from t;"

/-- A cell of two lines. -/
def brokenCell : Event :=
  .fill (Utf8.encode "a\n\"x\ny\"\n")

/-- A request can be taken for two, and a cell can break the record of an error. -/
theorem lines_forged :
    let forged := [("9", .request forgery), ("10", brokenCell), ("11", largeCells)]
    let honest := [("9", .request "select a from t;"), ("9", .request "select b from t;"),
      ("11", largeCells)]
    let after := sample.occurAll sampleDisk forged
    sample.Separate sampleDisk ∧ (sampleDisk.target? sample.journal.access).isSome ∧
      sampleDisk.log sample.journal.access = [] ∧ sampleDisk.log sample.journal.error = [] ∧
      after.log sample.journal.access =
        (sample.occurAll sampleDisk honest).log sample.journal.access ∧
      pieces (after.log sample.journal.access) ≠
        (requests forged).map (Record.line "request") ++ [[]] ∧
      pieces (after.log sample.journal.error) ≠
        (sample.errors sampleDisk forged).map (Record.line "error") ++ [[]] := by
  decide +kernel

end Session

end CsvSelect
