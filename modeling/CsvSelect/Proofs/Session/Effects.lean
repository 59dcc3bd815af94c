import CsvSelect.Proofs.Storage.Actions
import CsvSelect.Proofs.Storage.Frame
import CsvSelect.Proofs.Text.Utf8

/-!
# What requests leave behind

A session reads its table and writes to three files: the result, and the journal's two logs. This
file is about the contents of these files when one request was run.

What a part of a request does to the files is an `Effect`: the records that it appends to each log,
and the new content of the result file, if there is one. Effects of parts that follow each other add
up, so the effect of a whole request is put together from those of recording it, answering it and
recording its error. All this rests on the paths leading to different files, which stays so, since
no write makes or removes a directory.
-/

namespace CsvSelect

open Query Text

/-! ### Records -/

namespace Journal

/-- What is recorded, and when. -/
structure Record where
  time : String
  text : String
deriving DecidableEq

/-- The record without the line feed behind it. -/
def Record.line (field : String) (record : Record) : List UInt8 :=
  Utf8.encode ("time: \"" ++ record.time ++ "\", " ++ field ++ ": \"" ++ record.text ++ "\"")

/-- The bytes of a record of this text, with the line feed behind them. -/
def entry (clock field text : String) : List UInt8 :=
  Record.line field ⟨clock, text⟩ ++ [0x0A]

/-- The content of a log behind which records were put; a missing log is made by the first one. -/
def extended (content : Option (List UInt8)) (records : List (List UInt8)) :
    Option (List UInt8) :=
  records.foldl (fun content record => some (content.getD [] ++ record)) content

/-- The record of a request in its log, which may be no file that can be appended to. -/
def requestRecords (paths : JournalPaths) (disk : Disk) (request : String) : List (List UInt8) :=
  match disk.writable paths.access with
  | .ok _ => [entry disk.clock "request" request]
  | .error _ => []

/-- The record of the reason why a request has no record in its log. -/
def faultRecords (paths : JournalPaths) (disk : Disk) : List (List UInt8) :=
  match disk.writable paths.access with
  | .ok _ => []
  | .error fault => [entry disk.clock "error" fault.message]

theorem encode_line (clock field text : String) :
    Utf8.encode (line clock field text) = entry clock field text := by
  have behind : Utf8.encode "\"\n" = Utf8.encode "\"" ++ [0x0A] := by decide
  simp only [entry, line, Record.line, Utf8.encode_append, behind, List.append_assoc]

/-- A record is put behind those in the file. -/
theorem perform_record (disk : Disk) (path field text : String) :
    disk.perform (record path field text) = disk.append path (entry disk.clock field text) := by
  rw [← encode_line]
  rfl

theorem perform_recordError (paths : JournalPaths) (disk : Disk) (message : String) :
    disk.perform (recordError paths message) =
      ((), (disk.append paths.error (entry disk.clock "error" message)).2) := by
  rw [recordError, Disk.perform_bind, perform_record]
  rfl

/-- A request is recorded in its log, or the reason why it cannot be in the log of errors. -/
theorem perform_recordRequest (paths : JournalPaths) (disk : Disk) (request : String) :
    disk.perform (recordRequest paths request) =
      let recorded := disk.append paths.access (entry disk.clock "request" request)
      match recorded.1 with
      | .ok () => ((), recorded.2)
      | .error fault => recorded.2.perform (recordError paths fault.message) := by
  rw [recordRequest, Disk.perform_bind, perform_record]
  simp only
  rcases disk.append paths.access (entry disk.clock "request" request) with ⟨answer, after⟩
  cases answer <;> rfl

theorem extended_append (content : Option (List UInt8)) (records others : List (List UInt8)) :
    extended content (records ++ others) = extended (extended content records) others :=
  List.foldl_append

end Journal

namespace Session

open Disk Journal

/-- The paths of the files that a session writes to. -/
def written (session : Session) : List String :=
  [session.result, session.journal.access, session.journal.error]

/--
The session's paths lead to four different files, errors can be recorded, and a log takes all that
is recorded in it.
-/
structure Separate (session : Session) (disk : Disk) : Prop where
  different : (session.table :: session.written).Pairwise disk.Differ
  recordable : (disk.target? session.journal.error).isSome
  access : disk.Reliable session.journal.access
  error : disk.Reliable session.journal.error

instance (session : Session) (disk : Disk) : Decidable (session.Separate disk) :=
  decidable_of_iff
    ((session.table :: session.written).Pairwise disk.Differ ∧
      (disk.target? session.journal.error).isSome ∧ disk.Reliable session.journal.access ∧
        disk.Reliable session.journal.error)
    ⟨fun ⟨different, recordable, access, error⟩ => ⟨different, recordable, access, error⟩,
      fun separate =>
        ⟨separate.different, separate.recordable, separate.access, separate.error⟩⟩

/-- The records that were appended to the logs, and the bytes that the result now consists of. -/
structure Effect (session : Session) (requests errors : List (List UInt8))
    (result : Option (List UInt8)) (before after : Disk) : Prop where
  changes : ChangesOnly session.written before after
  clock : after.clock = before.clock
  result : after.content? session.result = (result <|> before.content? session.result)
  access :
    after.content? session.journal.access =
      extended (before.content? session.journal.access) requests
  error :
    after.content? session.journal.error =
      extended (before.content? session.journal.error) errors

variable {session : Session} {before middle after disk : Disk}
variable {requests errors moreRequests moreErrors : List (List UInt8)}
variable {result newResult : Option (List UInt8)}

theorem Effect.trans (first : session.Effect requests errors result before middle)
    (second : session.Effect moreRequests moreErrors newResult middle after) :
    session.Effect (requests ++ moreRequests) (errors ++ moreErrors) (newResult <|> result)
      before after where
  changes := first.changes.trans second.changes
  clock := second.clock.trans first.clock
  result := by
    rw [second.result, first.result]
    cases newResult <;> rfl
  access := by rw [second.access, first.access, extended_append]
  error := by rw [second.error, first.error, extended_append]

namespace Separate

theorem of_changes (separate : session.Separate before) {paths : List String}
    (changes : ChangesOnly paths before after) : session.Separate after where
  different := separate.different.imp fun differ => changes.differ_iff.mpr differ
  recordable := by
    rw [changes.target?_eq]
    exact separate.recordable
  access := changes.reliable_iff.mpr separate.access
  error := changes.reliable_iff.mpr separate.error

theorem table_differs (separate : session.Separate disk) :
    ∀ path ∈ session.written, disk.Differ session.table path :=
  (List.pairwise_cons.mp separate.different).1

theorem result_differs (separate : session.Separate disk) :
    disk.Differ session.result session.journal.access ∧
      disk.Differ session.result session.journal.error := by
  have different := (List.pairwise_cons.mp separate.different).2
  simpa [written] using (List.pairwise_cons.mp different).1

theorem access_differs (separate : session.Separate disk) :
    disk.Differ session.journal.access session.journal.error := by
  have different := (List.pairwise_cons.mp separate.different).2
  simpa [written] using (List.pairwise_cons.mp different).2

/-- The table is not written to. -/
theorem content?_table_eq (separate : session.Separate before)
    (changes : ChangesOnly session.written before after) :
    after.content? session.table = before.content? session.table :=
  changes.content?_eq separate.table_differs

end Separate

/-! ### The parts of a request -/

theorem isOk_writable_of_target? {path : String} (found : (disk.target? path).isSome) :
    ∃ place, disk.writable path = .ok place := by
  rcases Option.isSome_iff_exists.mp found with ⟨names, found⟩
  rcases target?_eq_some_iff.mp found with ⟨old, writable⟩
  exact ⟨_, writable⟩

theorem clock_write (disk : Disk) (names : List String) (old bytes : List UInt8) :
    (disk.write names old bytes).2.clock = disk.clock := by
  rw [Disk.write]
  split <;> rfl

theorem clock_append (disk : Disk) (path : String) (bytes : List UInt8) :
    (disk.append path bytes).2.clock = disk.clock := by
  rw [Disk.append]
  split
  · rfl
  · exact clock_write _ _ _ _

theorem clock_replace (disk : Disk) (path : String) (bytes : List UInt8) :
    (disk.replace path bytes).2.clock = disk.clock := by
  rw [Disk.replace]
  split
  · rfl
  · exact clock_write _ _ _ _

theorem effect_recordError (separate : session.Separate disk) (message : String) :
    session.Effect [] [entry disk.clock "error" message] none disk
      (disk.perform (recordError session.journal message)).2 := by
  rcases isOk_writable_of_target? separate.recordable with ⟨place, writable⟩
  have changes := changesOnly_append disk session.journal.error
    (entry disk.clock "error" message)
  rw [perform_recordError]
  refine ⟨changes.mono ?_, clock_append _ _ _, ?_, ?_,
    content?_append separate.error writable _⟩
  · simp [written]
  · apply changes.content?_eq
    simpa using separate.result_differs.2
  · apply changes.content?_eq
    simpa using separate.access_differs

theorem changesOnly_recordRequest (session : Session) (disk : Disk) (request : String) :
    ChangesOnly [session.journal.access, session.journal.error] disk
      (disk.perform (recordRequest session.journal request)).2 := by
  have recording := changesOnly_append disk session.journal.access
    (entry disk.clock "request" request)
  rw [perform_recordRequest]
  simp only
  generalize disk.append session.journal.access (entry disk.clock "request" request) = recorded
    at recording ⊢
  cases recorded.1 with
  | ok => exact recording.mono (by simp)
  | error fault =>
      simp only [perform_recordError]
      exact (recording.mono (by simp)).trans ((changesOnly_append _ _ _).mono (by simp))

theorem effect_recordRequest (separate : session.Separate disk) (request : String) :
    session.Effect (requestRecords session.journal disk request)
      (faultRecords session.journal disk) none disk
      (disk.perform (recordRequest session.journal request)).2 := by
  rw [perform_recordRequest, requestRecords, faultRecords]
  cases writable : disk.writable session.journal.access with
  | error fault =>
      have refused : disk.append session.journal.access (entry disk.clock "request" request) =
          (.error fault, disk) := by
        rw [Disk.append, writable]
      rw [refused]
      exact effect_recordError separate fault.message
  | ok place =>
      have changes := changesOnly_append disk session.journal.access
        (entry disk.clock "request" request)
      have taken := append_of_reliable separate.access writable (entry disk.clock "request" request)
      simp only [congrArg Prod.fst taken]
      refine ⟨changes.mono ?_, clock_append _ _ _, ?_,
        content?_append separate.access writable _, ?_⟩
      · simp [written]
      · apply changes.content?_eq
        simpa using separate.result_differs.1
      · apply changes.content?_eq
        simpa using differ_comm.mp separate.access_differs

theorem perform_fail (session : Session) (disk : Disk) (error : Error) :
    disk.perform (session.fail error) =
      (.error error, (disk.perform (recordError session.journal error.message)).2) := rfl

theorem effect_replace (separate : session.Separate disk) {bytes taken : List UInt8}
    (held : (disk.replace session.result bytes).2.content? session.result = some taken) :
    session.Effect [] [] (some taken) disk (disk.replace session.result bytes).2 := by
  have changes := changesOnly_replace disk session.result bytes
  refine ⟨changes.mono ?_, clock_replace _ _ _, held, ?_, ?_⟩
  · simp [written]
  · apply changes.content?_eq
    simpa using differ_comm.mp separate.result_differs.1
  · apply changes.content?_eq
    simpa using differ_comm.mp separate.result_differs.2

/-! ### Answers -/

/-- The same, but perhaps for the reason why a file could not be used. -/
def SameButFault {Answer : Type} (left right : Except Error Answer) : Prop :=
  left = right ∨ ∃ fault other, left = .error (.file fault) ∧ right = .error (.file other)

theorem SameButFault.eq_ok {Answer : Type} {answer : Answer} {right : Except Error Answer}
    (same : SameButFault (.ok answer) right) : right = .ok answer := by
  rcases same with same | ⟨fault, other, failed, -⟩
  · exact same.symm
  · simp at failed

section

variable [Csv.Codec]

/-- The answer to a request if this is found in the place of the table. -/
def rowsFrom (session : Session) (request : String) (found : Except FileError (List UInt8)) :
    Except Error (List Row) :=
  match checkQuery request with
  | .error error => .error (.input error)
  | .ok () =>
      match parse request with
      | .error error => .error (.parse error)
      | .ok statement =>
          match found with
          | .error fault => .error (.file fault)
          | .ok bytes =>
              match Table.ofBytes session.table bytes with
              | .error error => .error error
              | .ok table => (table.execute statement).1.mapError .selection

/-- The answer to a request on the disk as it is. -/
def rowsOn (session : Session) (disk : Disk) (request : String) : Except Error (List Row) :=
  (disk.perform (session.query request)).1

/-- The outcome of answering a request on the disk as it is, with nothing recorded. -/
def answerOn (session : Session) (disk : Disk) (request : String) : Except Error Outcome :=
  (disk.perform (session.answer request)).1

theorem perform_query (session : Session) (disk : Disk) (request : String) :
    disk.perform (session.query request) =
      (session.rowsFrom request (disk.read session.table), disk) := by
  rw [query, rowsFrom]
  cases checkQuery request with
  | error error => rfl
  | ok =>
      cases parse request with
      | error error => rfl
      | ok statement =>
          simp only [perform_bind, perform_load]
          cases disk.read session.table with
          | error fault => rfl
          | ok bytes =>
              simp only
              cases Table.ofBytes session.table bytes <;> rfl

theorem rowsOn_eq (session : Session) (disk : Disk) (request : String) :
    session.rowsOn disk request = session.rowsFrom request (disk.read session.table) := by
  rw [rowsOn, perform_query]

/-- The result is written if there are rows, and then perhaps in vain. -/
theorem perform_answer (session : Session) (disk : Disk) (request : String) :
    disk.perform (session.answer request) =
      match session.rowsOn disk request with
      | .error error => (.error error, disk)
      | .ok rows =>
          let written := disk.replace session.result (Csv.encodeRows rows)
          (match written.1 with
            | .error fault => .error (.file fault)
            | .ok () => .ok { count := rows.length, path := session.result }, written.2) := by
  rw [answer, perform_bind, perform_query, ← rowsOn_eq]
  cases session.rowsOn disk request with
  | error error => rfl
  | ok rows =>
      simp only [perform_bind, perform_writeRows]
      cases (disk.replace session.result (Csv.encodeRows rows)).1 <;> rfl

/-- Two files of the same bytes are read alike, and so are two that cannot be read. -/
theorem rowsFrom_sameButFault {found other : Except FileError (List UInt8)}
    (same : found.toOption = other.toOption) (session : Session) (request : String) :
    SameButFault (session.rowsFrom request found) (session.rowsFrom request other) := by
  rw [rowsFrom, rowsFrom]
  cases checkQuery request with
  | error error => exact Or.inl rfl
  | ok =>
      cases parse request with
      | error error => exact Or.inl rfl
      | ok statement =>
          cases found with
          | error fault =>
              cases other with
              | error other => exact Or.inr ⟨fault, other, rfl, rfl⟩
              | ok bytes => simp [Except.toOption] at same
          | ok bytes =>
              cases other with
              | error other => simp [Except.toOption] at same
              | ok others =>
                  rw [Option.some.inj same]
                  exact Or.inl rfl

theorem rowsOn_sameButFault (separate : session.Separate before)
    (changes : ChangesOnly session.written before after) (request : String) :
    SameButFault (session.rowsOn after request) (session.rowsOn before request) := by
  rw [rowsOn_eq, rowsOn_eq]
  apply rowsFrom_sameButFault
  exact separate.content?_table_eq changes

/-- A request is answered alike on both disks, or nothing is written on either. -/
theorem perform_answer_alike (separate : session.Separate before)
    (changes : ChangesOnly session.written before after) (request : String) :
    (∃ answer other, SameButFault answer other ∧
      after.perform (session.answer request) = (answer, after) ∧
      before.perform (session.answer request) = (other, before)) ∨
    ∃ names answer taken, before.target? session.result = some names ∧
      after.perform (session.answer request) = (answer, after.put names (.file taken)) ∧
      before.perform (session.answer request) = (answer, before.put names (.file taken)) := by
  rw [perform_answer, perform_answer]
  rcases rowsOn_sameButFault separate changes request with same | ⟨fault, other, failed, failed'⟩
  · rw [same]
    cases session.rowsOn before request with
    | error error => exact Or.inl ⟨.error error, .error error, Or.inl rfl, rfl, rfl⟩
    | ok rows =>
        rcases changes.replace_alike session.result (Csv.encodeRows rows) with
          ⟨fault, other, refused, refused'⟩ | ⟨names, answer, taken, found, written, written'⟩
        · simp only [refused, refused']
          exact Or.inl ⟨_, _, Or.inr ⟨fault, other, rfl, rfl⟩, rfl, rfl⟩
        · simp only [written, written']
          exact Or.inr ⟨names, _, taken, found, rfl, rfl⟩
  · rw [failed, failed']
    exact Or.inl ⟨_, _, Or.inr ⟨fault, other, rfl, rfl⟩, rfl, rfl⟩

theorem answerOn_sameButFault (separate : session.Separate before)
    (changes : ChangesOnly session.written before after) (request : String) :
    SameButFault (session.answerOn after request) (session.answerOn before request) := by
  rw [answerOn, answerOn]
  rcases perform_answer_alike separate changes request with
    ⟨answer, other, same, failed, failed'⟩ | ⟨names, answer, taken, -, written, written'⟩
  · rwa [failed, failed']
  · rw [written, written']
    exact Or.inl rfl

/-- The result does not depend on what is recorded and where. -/
theorem content?_result_answer (separate : session.Separate before)
    (changes : ChangesOnly [session.journal.access, session.journal.error] before after)
    (request : String) :
    (after.perform (session.answer request)).2.content? session.result =
      (before.perform (session.answer request)).2.content? session.result := by
  have moreChanges : ChangesOnly session.written before after := changes.mono (by simp [written])
  rcases perform_answer_alike separate moreChanges request with
    ⟨answer, other, -, failed, failed'⟩ | ⟨names, answer, taken, found, written, written'⟩
  · rw [failed, failed']
    exact changes.content?_eq (by simpa using separate.result_differs)
  · rw [written, written', content?_put found,
      content?_put ((moreChanges.target?_eq _).trans found)]

theorem changesOnly_answer (session : Session) (disk : Disk) (request : String) :
    ChangesOnly [session.result] disk (disk.perform (session.answer request)).2 := by
  rw [perform_answer]
  cases session.rowsOn disk request with
  | error error => exact .refl _ _
  | ok rows => exact changesOnly_replace disk session.result (Csv.encodeRows rows)

/-- No path of a file that is read or replaced runs through a log. -/
def Unhindered (session : Session) (disk : Disk) : Prop :=
  ∀ path ∈ [session.table, session.result],
    ∀ log ∈ [session.journal.access, session.journal.error], disk.Apart path log

theorem answerOn_eq (unhindered : session.Unhindered before)
    (changes : ChangesOnly [session.journal.access, session.journal.error] before after)
    (request : String) : session.answerOn after request = session.answerOn before request := by
  have sameTable := changes.read_eq (unhindered session.table (by simp))
  have sameResult := changes.writable_eq (unhindered session.result (by simp))
  rw [answerOn, answerOn, perform_answer, perform_answer, rowsOn_eq, rowsOn_eq, sameTable]
  cases session.rowsFrom request (before.read session.table) with
  | error error => rfl
  | ok rows => simp only [fst_replace_congr sameResult changes.limit?]

/-- An answer is written as a whole, or nothing is done, or its beginning gets into the file. -/
theorem perform_answer_cases (separate : session.Separate disk) (request : String) :
    (∃ rows, session.rowsOn disk request = .ok rows ∧
      (disk.perform (session.answer request)).1 =
        .ok { count := rows.length, path := session.result } ∧
      session.Effect [] [] (some (Csv.encodeRows rows)) disk
        (disk.perform (session.answer request)).2) ∨
    (∃ error, disk.perform (session.answer request) = (.error error, disk)) ∨
    ∃ rows taken fault, session.rowsOn disk request = .ok rows ∧
      ¬disk.Reliable session.result ∧ taken <+: Csv.encodeRows rows ∧
      (disk.perform (session.answer request)).1 = .error (.file fault) ∧
      session.Effect [] [] (some taken) disk (disk.perform (session.answer request)).2 := by
  rw [perform_answer]
  cases answered : session.rowsOn disk request with
  | error error => exact Or.inr (Or.inl ⟨error, rfl⟩)
  | ok rows =>
      rcases replace_cases disk session.result (Csv.encodeRows rows) with
        ⟨fault, -, failed⟩ | ⟨names, found, done | ⟨limit, fault, limited, -, failed⟩⟩
      · simp only [failed]
        exact Or.inr (Or.inl ⟨_, rfl⟩)
      · have held := content?_put found (Csv.encodeRows rows)
        have effect := @effect_replace _ _ separate (Csv.encodeRows rows) (Csv.encodeRows rows)
        rw [done] at effect
        simp only [done]
        exact Or.inl ⟨rows, rfl, rfl, effect held⟩
      · have held := content?_put found ((Csv.encodeRows rows).take limit)
        have effect := @effect_replace _ _ separate (Csv.encodeRows rows)
          ((Csv.encodeRows rows).take limit)
        have unreliable : ¬disk.Reliable session.result := by
          intro reliable
          simp [reliable names found] at limited
        rw [failed] at effect
        simp only [failed]
        exact Or.inr (Or.inr ⟨rows, _, fault, rfl, unreliable, List.take_prefix _ _, rfl,
          effect held⟩)

/-! ### Requests -/

/-- What a request that was run leaves behind. -/
structure Ran (session : Session) (request : String) (before : Disk)
    (outcome : Except Error Outcome) (after : Disk) : Prop where
  /--
  The result consists of the rows of the answer, or it is as it was and the error recorded. Where
  the result does not take all the bytes of the rows, it holds the first of them.
  -/
  effect :
    (∃ rows, session.rowsOn before request = .ok rows ∧
      outcome = .ok { count := rows.length, path := session.result } ∧
      session.Effect (requestRecords session.journal before request)
        (faultRecords session.journal before) (some (Csv.encodeRows rows)) before after) ∨
    ∃ error result, outcome = .error error ∧
      session.Effect (requestRecords session.journal before request)
        (faultRecords session.journal before ++ [entry before.clock "error" error.message]) result
        before after ∧
      (result = none ∨
        ∃ rows taken fault, session.rowsOn before request = .ok rows ∧
          ¬before.Reliable session.result ∧ result = some taken ∧
          taken <+: Csv.encodeRows rows ∧ error = .file fault)
  /-- The outcome does not depend on what is recorded and where. -/
  independent : SameButFault outcome (session.answerOn before request)
  /-- Neither does the result. -/
  sameResult : after.content? session.result =
    (before.perform (session.answer request)).2.content? session.result
  unhindered : session.Unhindered before → outcome = session.answerOn before request

theorem perform_run (session : Session) (disk : Disk) (request : String) :
    disk.perform (session.run request) =
      let recorded := (disk.perform (recordRequest session.journal request)).2
      let answered := recorded.perform (session.answer request)
      match answered.1 with
      | .ok outcome => (.ok outcome, answered.2)
      | .error error => answered.2.perform (session.fail error) := by
  rw [run, perform_bind, perform_bind]
  simp only
  generalize (disk.perform (recordRequest session.journal request)).2 = recorded
  cases (recorded.perform (session.answer request)).1 <;> rfl

theorem fst_perform_run (session : Session) (disk : Disk) (request : String) :
    (disk.perform (session.run request)).1 =
      session.answerOn (disk.perform (recordRequest session.journal request)).2 request := by
  rw [perform_run, answerOn]
  simp only
  generalize (disk.perform (recordRequest session.journal request)).2 = recorded
  cases (recorded.perform (session.answer request)).1 <;> rfl

/-- The result is as it was left by the answer, whether or not an error is recorded behind it. -/
theorem content?_result_run (separate : session.Separate disk) (request : String) :
    let recorded := (disk.perform (recordRequest session.journal request)).2
    (disk.perform (session.run request)).2.content? session.result =
      (recorded.perform (session.answer request)).2.content? session.result := by
  have recording := changesOnly_recordRequest session disk request
  rw [perform_run]
  simp only
  generalize (disk.perform (recordRequest session.journal request)).2 = recorded at *
  have replacing := changesOnly_answer session recorded request
  cases (recorded.perform (session.answer request)).1 with
  | ok outcome => rfl
  | error error =>
      simp only [perform_fail, perform_recordError]
      apply (changesOnly_append _ session.journal.error _).content?_eq
      simpa [replacing.differ_iff, recording.differ_iff] using separate.result_differs.2

theorem ran_run (separate : session.Separate disk) (request : String) :
    session.Ran request disk (disk.perform (session.run request)).1
      (disk.perform (session.run request)).2 := by
  have recording := effect_recordRequest separate request
  have onlyLogs := changesOnly_recordRequest session disk request
  have outcome := fst_perform_run session disk request
  have sameResult := content?_result_run separate request
  have run := perform_run session disk request
  simp only at run sameResult
  generalize (disk.perform (recordRequest session.journal request)).2 = recorded at *
  have separate' := separate.of_changes recording.changes
  refine ⟨?_, ?_, sameResult.trans (content?_result_answer separate onlyLogs request), ?_⟩
  · rcases perform_answer_cases separate' request with
      ⟨rows, answered, done, replacing⟩ | ⟨error, failed⟩ |
        ⟨rows, taken, fault, answered, unreliable, beginning, failed, replacing⟩
    · left
      have sameRows := rowsOn_sameButFault separate recording.changes request
      rw [answered] at sameRows
      rw [done] at run
      rw [run]
      exact ⟨rows, sameRows.eq_ok, rfl, by simpa using recording.trans replacing⟩
    · right
      have failing := effect_recordError separate' error.message
      rw [recording.clock] at failing
      simp only [failed, perform_fail] at run
      rw [run]
      exact ⟨error, none, rfl, by simpa using recording.trans failing, Or.inl rfl⟩
    · right
      have sameRows := rowsOn_sameButFault separate recording.changes request
      rw [answered] at sameRows
      have failing := effect_recordError (separate'.of_changes replacing.changes)
        (Error.file fault).message
      rw [replacing.clock, recording.clock] at failing
      simp only [failed, perform_fail] at run
      rw [run]
      refine ⟨_, some taken, rfl, by simpa using (recording.trans replacing).trans failing,
        Or.inr ⟨rows, taken, fault, sameRows.eq_ok, ?_, rfl, beginning, rfl⟩⟩
      rwa [← recording.changes.reliable_iff]
  · rw [outcome]
    exact answerOn_sameButFault separate recording.changes request
  · intro unhindered
    rw [outcome]
    exact answerOn_eq unhindered onlyLogs request

end

end Session

end CsvSelect
