import Mathlib.Data.List.Basic
import CsvSelect.Csv.Standard
import CsvSelect.Proofs.Session.Effects

/-!
# How a session goes on

A session can be asked to do one thing after the other. No command makes a path lead to another
file, so whatever came before, a session behaves like a new one (`Session.conduct_obeyAll`): the
table is never changed, a query leaves nothing behind, and each request that is run has its effect.

Only the reason why a file cannot be used may come from an earlier record. A log that is made where
a path runs through turns a missing directory into a file that is no directory
(`Session.conduct_hindered`). This cannot happen if no path runs through a log
(`Session.Unhindered`).
-/

namespace CsvSelect

namespace Session

open Disk Journal

/-! ### Commands -/

/-- What a session can be asked to do. -/
inductive Command where
  | run (request : String)
  | runInput (input : List UInt8)
  | query (request : String)

/-- The request that is run for the command, if there is one. -/
def Command.request? : Command → Option String
  | .run request => some request
  | .runInput input => (readRequest input).toOption
  | .query _ => none

/-! ### Time passing -/

theorem changesOnly_setClock (paths : List String) (disk : Disk) (time : String) :
    ChangesOnly paths disk (disk.setClock time) :=
  ⟨fun _ => Iff.rfl, rfl, rfl, fun _ _ => rfl⟩

theorem content?_setClock (disk : Disk) (time path : String) :
    (disk.setClock time).content? path = disk.content? path :=
  (changesOnly_setClock [] disk time).content?_eq (List.forall_mem_nil _)

/-! ### Recording now -/

variable {session : Session} {disk : Disk}

theorem requestRecords_of_target? (found : (disk.target? session.journal.access).isSome)
    (request : String) :
    requestRecords session.journal disk request = [entry disk.clock "request" request] ∧
      faultRecords session.journal disk = [] := by
  rcases isOk_writable_of_target? found with ⟨place, writable⟩
  simp [requestRecords, faultRecords, writable]

theorem requestRecords_of_no_target? (missing : disk.target? session.journal.access = none) :
    ∃ fault, disk.writable session.journal.access = .error fault ∧
      faultRecords session.journal disk = [entry disk.clock "error" fault.message] ∧
      ∀ request, requestRecords session.journal disk request = [] := by
  cases writable : disk.writable session.journal.access with
  | ok place => simp [target?, writable, Except.toOption] at missing
  | error fault => exact ⟨fault, rfl, by simp [faultRecords, writable],
      by simp [requestRecords, writable]⟩

/-! ### Sequences of commands -/

section

variable [Csv.Codec]

/-- The disk after a command. -/
def obey (session : Session) (disk : Disk) : Command → Disk
  | .run request => (disk.perform (session.run request)).2
  | .runInput input => (disk.perform (session.runInput input)).2
  | .query request => (disk.perform (session.query request)).2

/-- The disk after the commands, each given at its time. -/
def obeyAll (session : Session) (disk : Disk) (commands : List (String × Command)) : Disk :=
  commands.foldl (fun disk (time, command) => session.obey (disk.setClock time) command) disk

theorem perform_runInput_of_ok {input : List UInt8} {request : String}
    (read : readRequest input = .ok request) (session : Session) (disk : Disk) :
    disk.perform (session.runInput input) = disk.perform (session.run request) := by
  rw [runInput, read]

theorem perform_runInput_of_error {input : List UInt8} {error : RequestError}
    (read : readRequest input = .error error) (session : Session) (disk : Disk) :
    disk.perform (session.runInput input) = disk.perform (session.fail (.ofRequest error)) := by
  rw [runInput, read]

/-- An answer that fails leaves nothing behind if the result takes all bytes. -/
theorem snd_perform_answer_of_error {request : String} {error : Error}
    (reliable : disk.Reliable session.result)
    (failed : (disk.perform (session.answer request)).1 = .error error) :
    (disk.perform (session.answer request)).2 = disk := by
  rw [perform_answer] at failed ⊢
  cases answered : session.rowsOn disk request with
  | error error => rfl
  | ok rows =>
      rcases replace_cases disk session.result (Csv.encodeRows rows) with
        ⟨fault, -, refused⟩ | ⟨names, found, done | ⟨limit, fault, limited, -, -⟩⟩
      · simp only [refused]
      · simp [answered, done] at failed
      · simp [reliable names found] at limited

theorem changesOnly_run_of_error {request : String} {error : Error}
    (reliable : disk.Reliable session.result)
    (failed : (disk.perform (session.run request)).1 = .error error) :
    ChangesOnly [session.journal.access, session.journal.error] disk
      (disk.perform (session.run request)).2 := by
  have recording := changesOnly_recordRequest session disk request
  rw [fst_perform_run, answerOn] at failed
  rw [perform_run]
  simp only
  generalize (disk.perform (recordRequest session.journal request)).2 = recorded at *
  rw [failed, snd_perform_answer_of_error (recording.reliable_iff.mpr reliable) failed]
  simp only [perform_fail, perform_recordError]
  exact recording.trans ((changesOnly_append recorded _ _).mono (by simp))

/--
Input that is not answered changes nothing but the logs, wherever the paths lead, if the result
takes all bytes.
-/
theorem changesOnly_runInput_of_error {input : List UInt8} {error : Error}
    (reliable : disk.Reliable session.result)
    (failed : (disk.perform (session.runInput input)).1 = .error error) :
    ChangesOnly [session.journal.access, session.journal.error] disk
      (disk.perform (session.runInput input)).2 := by
  cases read : readRequest input with
  | ok request =>
      rw [perform_runInput_of_ok read] at failed ⊢
      exact changesOnly_run_of_error reliable failed
  | error error =>
      rw [perform_runInput_of_error read, perform_fail, perform_recordError]
      exact (changesOnly_append disk _ _).mono (by simp)

theorem changesOnly_run (separate : session.Separate disk) (request : String) :
    ChangesOnly session.written disk (disk.perform (session.run request)).2 := by
  rcases (ran_run separate request).effect with ⟨rows, -, -, effect⟩ | ⟨error, result, -, effect, -⟩
  · exact effect.changes
  · exact effect.changes

theorem changesOnly_obey (separate : session.Separate disk) (command : Command) :
    ChangesOnly session.written disk (session.obey disk command) := by
  cases command with
  | run request => exact changesOnly_run separate request
  | runInput input =>
      rw [obey]
      cases read : readRequest input with
      | ok request =>
          rw [perform_runInput_of_ok read]
          exact changesOnly_run separate request
      | error error =>
          rw [perform_runInput_of_error read, perform_fail]
          exact (effect_recordError separate _).changes
  | query request =>
      rw [obey, perform_query]
      exact .refl _ _

theorem changesOnly_obeyAll (separate : session.Separate disk)
    (commands : List (String × Command)) :
    ChangesOnly session.written disk (session.obeyAll disk commands) := by
  induction commands generalizing disk with
  | nil => exact .refl _ _
  | cons timed commands ih =>
      rcases timed with ⟨time, command⟩
      have waiting := changesOnly_setClock session.written disk time
      have first := waiting.trans (changesOnly_obey (separate.of_changes waiting) command)
      exact first.trans (ih (separate.of_changes first))

/-- How a session behaves now, on a disk on which its files were apart at first. -/
structure Conduct (session : Session) (initial now : Disk) : Prop where
  /-- The table is never changed. -/
  table : now.content? session.table = initial.content? session.table
  /-- Requests that could be recorded at first are recorded once. -/
  recorded : (initial.target? session.journal.access).isSome → ∀ request,
    requestRecords session.journal now request = [entry now.clock "request" request] ∧
      faultRecords session.journal now = []
  /-- If they could not, the reason is recorded with the errors. -/
  unrecorded : initial.target? session.journal.access = none →
    ∃ fault, now.writable session.journal.access = .error fault ∧
      faultRecords session.journal now = [entry now.clock "error" fault.message] ∧
      ∀ request, requestRecords session.journal now request = []
  /-- No run makes a path run through a log. -/
  unhindered : session.Unhindered now ↔ session.Unhindered initial
  /-- Nothing is left behind by a query. -/
  query : ∀ request, (now.perform (session.query request)).2 = now
  run : ∀ request, session.Ran request now (now.perform (session.run request)).1
    (now.perform (session.run request)).2
  runInput : ∀ input request, readRequest input = .ok request →
    session.Ran request now (now.perform (session.runInput input)).1
      (now.perform (session.runInput input)).2
  /-- Input without a request leaves nothing behind but the record of this error. -/
  unreadable : ∀ input error, readRequest input = .error error →
    (now.perform (session.runInput input)).1 = .error (.ofRequest error) ∧
      session.Effect [] [entry now.clock "error" (Error.ofRequest error).message] none now
        (now.perform (session.runInput input)).2

/-- Whatever a session was asked to do before, it goes on in the same way. -/
theorem conduct_obeyAll (separate : session.Separate disk)
    (earlier : List (String × Command)) (time : String) :
    session.Conduct disk ((session.obeyAll disk earlier).setClock time) := by
  have changes := (changesOnly_obeyAll separate earlier).trans (changesOnly_setClock _ _ time)
  generalize (session.obeyAll disk earlier).setClock time = now at changes
  have separate' := separate.of_changes changes
  have sameTarget := changes.target?_eq session.journal.access
  have sameApart : session.Unhindered now ↔ session.Unhindered disk := by
    simp only [Unhindered, changes.apart_iff]
  refine ⟨separate.content?_table_eq changes, ?_, ?_, sameApart, ?_, ran_run separate', ?_, ?_⟩
  · intro found request
    apply requestRecords_of_target?
    rwa [sameTarget]
  · intro missing
    apply requestRecords_of_no_target?
    rwa [sameTarget]
  · intro request
    rw [perform_query]
  · intro input request read
    rw [perform_runInput_of_ok read]
    exact ran_run separate' request
  · intro input error read
    rw [perform_runInput_of_error read, perform_fail]
    exact ⟨rfl, effect_recordError separate' _⟩

end

/-- A session in which everything stands in the root directory. -/
def sample : Session where
  table := "t.csv"
  result := "r.csv"
  journal := { access := "a.log", error := "e.log" }

/-- A disk with nothing but the table of this session. -/
def sampleDisk : Disk where
  entry names := if names = ["t.csv"] then some (.file (Text.Utf8.encode "a,b\n1,2\n")) else none

theorem conduct_sample :
    sample.Separate sampleDisk ∧
      sample.Conduct sampleDisk ((sample.obeyAll sampleDisk
        [("9", .run "select a from t;"), ("10", .runInput [0x3B])]).setClock "11") := by
  have separate : sample.Separate sampleDisk := by decide +kernel
  exact ⟨separate, conduct_obeyAll separate _ _⟩

/-- A session whose table would stand in a directory with the name of the log of errors. -/
def hindered : Session where
  table := "x/t.csv"
  result := "r.csv"
  journal := { access := "missing/a.log", error := "x" }

/-- The same session with a log of requests that can be made. -/
def recordable : Session :=
  { hindered with journal := { hindered.journal with access := "a.log" } }

/-- The sample disk on which the result does not take more than one byte. -/
def fullDisk : Disk :=
  { sampleDisk with
    limit? := fun names =>
      if names = ["r.csv"] then some (1, .other "No space left on device (os error 28)") else none }

/--
If requests cannot be recorded, an outcome may differ in the reason why a file cannot be used. A run
that fails may leave the beginning of its rows in the result.
-/
theorem conduct_hindered :
    let request := "select a from t;"
    let ran := fullDisk.perform (sample.run request)
    (hindered.Separate {} ∧ recordable.Separate {} ∧
      Disk.target? {} hindered.journal.access = none ∧
      (Disk.target? {} recordable.journal.access).isSome ∧
      (Disk.perform {} (recordable.run request)).1 = .error (.file .notFound) ∧
      hindered.answerOn {} request = .error (.file .notFound) ∧
      (Disk.perform {} (hindered.run request)).1 = .error (.file .notDirectory)) ∧
    sample.Separate fullDisk ∧ fullDisk.content? sample.result = none ∧
      ran.1 = .error (.file (.other "No space left on device (os error 28)")) ∧
      ran.2.content? sample.result = some (Text.Utf8.encode "a") := by
  decide +kernel

end Session

end CsvSelect
