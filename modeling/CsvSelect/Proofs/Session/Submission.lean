import CsvSelect.Proofs.Session.LogLines

/-!
# Requests that are handed in as input

A request can be handed in as a text, or as input in which it is looked for. This file compares the
two for a text that ends with a semicolon. If the text is a single line, it is the request in its
own bytes, and there is no difference. Otherwise only the first line of the input counts: the text
up to the last semicolon of that line is run instead, or the input is refused although the text ends
with a semicolon. The log of requests tells the two apart, since no request that is read from an
input has more than one line.
-/

namespace CsvSelect

open Text

namespace Journal

theorem entry_inj {clock field text other : String} :
    entry clock field text = entry clock field other ↔ text = other := by
  rw [entry, entry, List.append_left_inj, Record.line, Record.line, Utf8.encode_inj,
    ← String.toList_inj, ← String.toList_inj]
  simp

/-- A log shows whether something was recorded, and what. -/
theorem extended_entry_inj {content : Option (List UInt8)} {clock field : String}
    {text other : Option String} :
    extended content (text.map (entry clock field)).toList =
        extended content (other.map (entry clock field)).toList ↔
      text = other := by
  have proper (text : String) : entry clock field text ≠ [] := by
    simp [entry]
  cases text with
  | none =>
      cases other with
      | none => simp
      | some other => cases content <;> simp [extended, proper]
  | some text =>
      cases other with
      | none => cases content <;> simp [extended, proper]
      | some other => simp [extended, entry_inj]

end Journal

namespace Session

open Disk Journal

section

variable [Csv.Codec] {session : Session} {disk : Disk}

/-- Whatever is read from an input, the log of requests tells it from a text of several lines. -/
theorem content?_runInput_ne (separate : session.Separate disk)
    (found : (disk.target? session.journal.access).isSome) {text : String}
    (broken : '\n' ∈ text.toList) (input : List UInt8) :
    (disk.perform (session.runInput input)).2.content? session.journal.access ≠
      (disk.perform (session.run text)).2.content? session.journal.access := by
  have handedIn := (content?_occur separate found (.command (.run text))).1
  have read := (content?_occur separate found (.command (.runInput input))).1
  simp only [occur, obey] at handedIn read
  rw [handedIn, read, ne_eq, extended_entry_inj]
  intro same
  have requested : Event.handedIn? (.command (.runInput input)) = some text :=
    Event.handedIn?_of_mem same broken
  simp [Event.handedIn?] at requested

/--
A text that ends with a semicolon means the same as an input exactly if it is a single line. If it
is not, what is run is its first line up to the last semicolon in it, if there is one, and the log
of requests differs.
-/
theorem runInput_encode {text : String} (complete : text.toList.getLast? = some ';') :
    ('\n' ∉ text.toList → ∀ (session : Session) (disk : Disk),
      disk.perform (session.runInput (Utf8.encode text)) = disk.perform (session.run text)) ∧
    (∀ line rest, text.toList = line ++ '\n' :: rest → '\n' ∉ line →
      ∀ (session : Session) (disk : Disk),
        disk.perform (session.runInput (Utf8.encode text)) =
          match throughSemicolon? line with
          | some request => disk.perform (session.run (String.ofList request))
          | none => disk.perform (session.fail (.input .noSemicolon))) ∧
    ('\n' ∈ text.toList → ∀ (session : Session) (disk : Disk), session.Separate disk →
      (disk.target? session.journal.access).isSome →
        (disk.perform (session.runInput (Utf8.encode text))).2.content? session.journal.access ≠
          (disk.perform (session.run text)).2.content? session.journal.access) := by
  refine ⟨?_, ?_, ?_⟩
  · intro whole session disk
    have read := readRequest_encode whole [] (by simp)
    rcases List.getLast?_eq_some_iff.mp complete with ⟨front, characters⟩
    rw [List.append_nil, String.ofList_toList, characters, throughSemicolon?_semicolon,
      ← characters] at read
    simp only [String.ofList_toList] at read
    exact perform_runInput_of_ok read session disk
  · intro line rest characters inside session disk
    have read := readRequest_encode inside ('\n' :: rest) (by simp)
    rw [← characters, String.ofList_toList] at read
    cases kept : throughSemicolon? line with
    | none =>
        rw [kept] at read
        exact perform_runInput_of_error read session disk
    | some request =>
        rw [kept] at read
        exact perform_runInput_of_ok read session disk
  · intro broken session disk separate found
    exact content?_runInput_ne separate found broken _

end

/-- A query on one line. -/
def oneLine : String :=
  "select a from t;"

/-- The same query, written on two lines. -/
def twoLines : String :=
  "select a\nfrom t;"

theorem runInput_encode_sample :
    let input := Utf8.encode twoLines
    sampleDisk.perform (sample.runInput (Utf8.encode oneLine)) =
        sampleDisk.perform (sample.run oneLine) ∧
      sampleDisk.perform (sample.runInput input) =
        sampleDisk.perform (sample.fail (.input .noSemicolon)) ∧
      (sampleDisk.perform (sample.runInput input)).2.content? sample.journal.access ≠
        (sampleDisk.perform (sample.run twoLines)).2.content? sample.journal.access := by
  have complete : oneLine.toList.getLast? = some ';' := by decide
  have complete' : twoLines.toList.getLast? = some ';' := by decide
  rcases runInput_encode complete with ⟨whole, -, -⟩
  rcases runInput_encode complete' with ⟨-, firstLine, different⟩
  have separate : sample.Separate sampleDisk := by decide +kernel
  refine ⟨whole (by decide) sample sampleDisk, ?_, ?_⟩
  · exact firstLine "select a".toList "from t;".toList (by decide) (by decide) sample sampleDisk
  · exact different (by decide) sample sampleDisk separate (by decide +kernel)

/-- The same text is run when it is handed in, and refused when it is read. -/
theorem runInput_refused :
    ¬∀ (text : String), text.toList.getLast? = some ';' → ∀ (session : Session) (disk : Disk),
      disk.perform (session.runInput (Utf8.encode text)) = disk.perform (session.run text) := by
  intro same
  have outcome := congrArg Prod.fst (same twoLines (by decide) sample sampleDisk)
  revert outcome
  decide +kernel

end Session

end CsvSelect
