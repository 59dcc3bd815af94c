import CsvSelect.Csv.Codec
import CsvSelect.Text.Quoted

/-!
# The format of comma-separated values

What the records of a file are is said here without a reader. The bytes of a field in front of
others are described by `IsField`, those of a record by `IsRecord`, and `FileRecords` divides the
bytes of a whole file. The rules are the constructors of these relations:

* quoting: a field that begins with a quote goes on to the closing one, inside which two quotes
  stand for one, and what follows is taken as it stands (`IsField.quoted`, `IsField.unclosed`);
* record ends: a record ends with a line end outside quotes or with the file (`IsRecord.last`);
* empty lines: line ends in front of a record are no records (`Divides.emptyLine`);
* the mark: a byte order mark in front of a file is passed over (`FileRecords.marked`).

Every file is divided in exactly one way (`exists_fileRecords`, `FileRecords.unique`). A record that
is ended by a line end stays the same whatever the bytes are behind it (`FileRecords.take_append`).
-/

namespace CsvSelect.Csv

open Text

/-- The position behind the bytes. -/
def Position.passing (position : Position) (bytes : List UInt8) : Position :=
  bytes.foldl after position

/-! ### Fields -/

/-- The byte ends a field that has no quotes. -/
def isSeparator (byte : UInt8) : Bool :=
  byte == comma || isLineEnd byte

/-- No byte ends the field. -/
def Unbroken (bytes : List UInt8) : Prop :=
  ∀ byte ∈ bytes, isSeparator byte = false

/-- A field can end in front of these bytes. -/
def Stops (rest : List UInt8) : Prop :=
  ∀ stop ∈ rest.head?, isSeparator stop = true

/-- In front of `rest` the bytes `text` are the field `field`. -/
inductive IsField : List UInt8 → List UInt8 → List UInt8 → Prop
  /-- A field that begins with no quote stands for itself. -/
  | plain {field rest : List UInt8} (unquoted : field.head? ≠ some quote)
      (unbroken : Unbroken field) (stops : Stops rest) : IsField field field rest
  /-- Inside quotes a doubled one stands for one. What follows them stands for itself. -/
  | quoted {body tail rest : List UInt8} (closed : tail.head? ≠ some quote)
      (unbroken : Unbroken tail) (stops : Stops rest) :
      IsField (Quoted.enclose quote body ++ tail) (body ++ tail) rest
  /-- The end of a file closes the quotes, too. -/
  | unclosed {body : List UInt8} : IsField (quote :: Quoted.double quote body) body []

section

variable {text field rest other otherField otherRest : List UInt8}

theorem isSeparator_quote : isSeparator quote = false := by
  decide

theorem Unbroken.of_cons {byte : UInt8} {bytes : List UInt8} (unbroken : Unbroken (byte :: bytes)) :
    isSeparator byte = false ∧ Unbroken bytes :=
  List.forall_mem_cons.mp unbroken

theorem exists_unbroken (bytes : List UInt8) :
    ∃ front rest, bytes = front ++ rest ∧ Unbroken front ∧ Stops rest := by
  induction bytes with
  | nil => exact ⟨[], [], rfl, by simp [Unbroken], by simp [Stops]⟩
  | cons byte bytes ih =>
      cases separates : isSeparator byte with
      | true => exact ⟨[], byte :: bytes, rfl, by simp [Unbroken], by simp [Stops, separates]⟩
      | false =>
          rcases ih with ⟨front, rest, rfl, unbroken, stops⟩
          exact ⟨byte :: front, rest, rfl, List.forall_mem_cons.mpr ⟨separates, unbroken⟩, stops⟩

/-- Bytes without a separator reach as far as they can. -/
theorem Unbroken.unique (first : Unbroken text) (second : Unbroken other) (stops : Stops rest)
    (otherStops : Stops otherRest) (same : text ++ rest = other ++ otherRest) :
    text = other ∧ rest = otherRest := by
  induction text generalizing other with
  | nil =>
      cases other with
      | nil => exact ⟨rfl, same⟩
      | cons byte other =>
          have separates := stops byte (by rw [← List.nil_append rest, same]; rfl)
          simp [second.of_cons.1] at separates
  | cons byte text ih =>
      cases other with
      | nil =>
          have separates := otherStops byte (by rw [← List.nil_append otherRest, ← same]; rfl)
          simp [first.of_cons.1] at separates
      | cons otherByte other =>
          rcases List.cons.inj same with ⟨rfl, later⟩
          rcases ih first.of_cons.2 second.of_cons.2 later with ⟨rfl, sameRest⟩
          exact ⟨rfl, sameRest⟩

/-- The bytes behind a text in quotes: nothing, or the closing quote and no other one. -/
def Closes (behind : List UInt8) : Prop :=
  behind = [] ∨ ∃ rest, behind = quote :: rest ∧ rest.head? ≠ some quote

theorem exists_double (bytes : List UInt8) :
    ∃ body behind, bytes = Quoted.double quote body ++ behind ∧ Closes behind := by
  cases scanned : Quoted.scanBody? quote [] bytes with
  | none =>
      rcases Quoted.exists_double_of_scanBody?_eq_none scanned with ⟨body, same⟩
      exact ⟨body, [], by simpa using same, Or.inl rfl⟩
  | some found =>
      rcases found with ⟨body, rest⟩
      have same := Quoted.double_append_of_scanBody? scanned
      exact ⟨body, quote :: rest, by simpa using same,
        Or.inr ⟨rest, rfl, Quoted.head?_ne_of_scanBody? scanned⟩⟩

theorem head?_double_cons (byte : UInt8) (body rest : List UInt8) :
    (Quoted.double quote (byte :: body) ++ rest).head? = some byte := by
  rw [Quoted.double_cons]
  split
  · next same => simp [same]
  · simp

/-- The bytes behind a text in quotes do not begin with more of it. -/
theorem Closes.ne_double_cons {behind : List UInt8} (closes : Closes behind) (byte : UInt8)
    (body rest : List UInt8) : behind ≠ Quoted.double quote (byte :: body) ++ rest := by
  rintro rfl
  rw [Quoted.double_cons] at closes
  by_cases same : byte = quote
  · simp [Closes, same] at closes
  · simp [Closes, same] at closes

/-- A doubled text reaches as far as the quotes come in pairs. -/
theorem double_append_inj {body otherBody behind otherBehind : List UInt8} (closes : Closes behind)
    (otherCloses : Closes otherBehind)
    (same : Quoted.double quote body ++ behind = Quoted.double quote otherBody ++ otherBehind) :
    body = otherBody ∧ behind = otherBehind := by
  induction body generalizing otherBody with
  | nil =>
      cases otherBody with
      | nil => exact ⟨rfl, same⟩
      | cons byte otherBody => exact absurd same (closes.ne_double_cons _ _ _)
  | cons byte body ih =>
      cases otherBody with
      | nil => exact absurd same.symm (otherCloses.ne_double_cons _ _ _)
      | cons otherByte otherBody =>
          have sameHead := congrArg List.head? same
          rw [head?_double_cons, head?_double_cons] at sameHead
          obtain rfl : byte = otherByte := Option.some.inj sameHead
          rw [Quoted.double_cons, Quoted.double_cons, List.append_assoc, List.append_assoc] at same
          rcases ih (List.append_cancel_left same) with ⟨rfl, sameBehind⟩
          exact ⟨rfl, sameBehind⟩

/-- A field stands at the front of any bytes. -/
theorem exists_isField (bytes : List UInt8) :
    ∃ text field rest, bytes = text ++ rest ∧ IsField text field rest := by
  by_cases unquoted : bytes.head? = some quote
  · rcases List.head?_eq_some_iff.mp unquoted with ⟨inside, rfl⟩
    rcases exists_double inside with ⟨body, behind, rfl, rfl | ⟨outside, rfl, closed⟩⟩
    · exact ⟨quote :: Quoted.double quote body, body, [], by simp, .unclosed⟩
    · rcases exists_unbroken outside with ⟨tail, rest, rfl, unbroken, stops⟩
      refine ⟨Quoted.enclose quote body ++ tail, body ++ tail, rest, by simp [Quoted.enclose],
        .quoted ?_ unbroken stops⟩
      cases tail with
      | nil => simp
      | cons byte tail => simpa using closed
  · rcases exists_unbroken bytes with ⟨front, rest, rfl, unbroken, stops⟩
    refine ⟨front, front, rest, rfl, .plain ?_ unbroken stops⟩
    cases front with
    | nil => simp
    | cons byte front => simpa using unquoted

/-- What follows a field does not make it begin with a quote. -/
theorem head?_append_ne_quote (unquoted : field.head? ≠ some quote) (stops : Stops rest) :
    (field ++ rest).head? ≠ some quote := by
  cases field with
  | nil =>
      intro found
      have separates := stops quote found
      simp [isSeparator_quote] at separates
  | cons byte field => simpa using unquoted

/-- What follows the closing quote does not begin with a quote. -/
theorem closes_append (closed : text.head? ≠ some quote) (stops : Stops rest) :
    Closes (quote :: (text ++ rest)) :=
  Or.inr ⟨_, rfl, head?_append_ne_quote closed stops⟩

theorem enclose_append_append (body tail rest : List UInt8) :
    Quoted.enclose quote body ++ tail ++ rest =
      quote :: (Quoted.double quote body ++ quote :: (tail ++ rest)) := by
  simp [Quoted.enclose]

/-- There is only one field at the front of bytes. -/
theorem IsField.unique (first : IsField text field rest)
    (second : IsField other otherField otherRest) (same : text ++ rest = other ++ otherRest) :
    text = other ∧ field = otherField ∧ rest = otherRest := by
  cases first with
  | plain unquoted unbroken stops =>
      have noQuote := head?_append_ne_quote unquoted stops
      cases second with
      | plain otherUnquoted otherUnbroken otherStops =>
          rcases unbroken.unique otherUnbroken stops otherStops same with ⟨rfl, rfl⟩
          exact ⟨rfl, rfl, rfl⟩
      | quoted => exact absurd (same ▸ rfl) noQuote
      | unclosed => exact absurd (same ▸ rfl) noQuote
  | @quoted body tail _ closed unbroken stops =>
      cases second with
      | plain otherUnquoted otherUnbroken otherStops =>
          exact absurd (same ▸ rfl) (head?_append_ne_quote otherUnquoted otherStops)
      | quoted otherClosed otherUnbroken otherStops =>
          rw [enclose_append_append, enclose_append_append] at same
          rcases double_append_inj (closes_append closed stops)
            (closes_append otherClosed otherStops) (List.cons.inj same).2 with ⟨rfl, behind⟩
          rcases unbroken.unique otherUnbroken stops otherStops (List.cons.inj behind).2 with
            ⟨rfl, rfl⟩
          exact ⟨rfl, rfl, rfl⟩
      | @unclosed otherBody =>
          rw [enclose_append_append] at same
          rcases double_append_inj (closes_append closed stops) (Or.inl rfl)
            (List.cons.inj same).2 with ⟨-, behind⟩
          simp at behind
  | @unclosed body =>
      cases second with
      | plain otherUnquoted otherUnbroken otherStops =>
          exact absurd (same ▸ rfl) (head?_append_ne_quote otherUnquoted otherStops)
      | quoted otherClosed otherUnbroken otherStops =>
          rw [enclose_append_append] at same
          rcases double_append_inj (Or.inl rfl) (closes_append otherClosed otherStops)
            (List.cons.inj same).2 with ⟨-, behind⟩
          simp at behind
      | unclosed =>
          rcases double_append_inj (Or.inl rfl) (Or.inl rfl) (List.cons.inj same).2 with ⟨rfl, -⟩
          exact ⟨rfl, rfl, rfl⟩

/-- Of the bytes behind a field only the first one matters. -/
theorem IsField.replace {stop : UInt8} (isField : IsField text field (stop :: rest))
    (other : List UInt8) : IsField text field (stop :: other) := by
  cases isField with
  | plain unquoted unbroken stops => exact .plain unquoted unbroken stops
  | quoted closed unbroken stops => exact .quoted closed unbroken stops

/-- A field does not begin with a line end. -/
theorem IsField.isLineEnd_eq_false {byte : UInt8} (isField : IsField (byte :: text) field rest) :
    isLineEnd byte = false := by
  have quoteVisible : isLineEnd quote = false := by decide
  generalize found : byte :: text = bytes at isField
  cases isField with
  | plain unquoted unbroken stops =>
      subst found
      have whole := unbroken.of_cons.1
      rw [isSeparator, Bool.or_eq_false_iff] at whole
      exact whole.2
  | quoted closed unbroken stops =>
      rw [Quoted.enclose, List.cons_append] at found
      rwa [(List.cons.inj found).1]
  | unclosed => rwa [(List.cons.inj found).1]

end

/-! ### Records -/

/-- A record can end in front of these bytes: at the end of a file or at a line end. -/
def EndsRecord (rest : List UInt8) : Prop :=
  ∀ stop ∈ rest.head?, isLineEnd stop = true

/-- In front of `rest` the bytes `text` are a record of these fields. -/
inductive IsRecord : List UInt8 → List (List UInt8) → List UInt8 → Prop
  /-- The record ends behind its last field. -/
  | last {text field rest : List UInt8} (isField : IsField text field rest)
      (ended : EndsRecord rest) : IsRecord text [field] rest
  /-- Behind a comma the record goes on. -/
  | more {text field others rest : List UInt8} {fields : List (List UInt8)}
      (isField : IsField text field (comma :: (others ++ rest)))
      (isRecord : IsRecord others fields rest) :
      IsRecord (text ++ comma :: others) (field :: fields) rest

section

variable {text rest other otherRest : List UInt8} {fields otherFields : List (List UInt8)}

theorem isLineEnd_comma : isLineEnd comma = false := by
  decide

theorem IsRecord.fields_ne_nil (isRecord : IsRecord text fields rest) : fields ≠ [] := by
  cases isRecord <;> simp

theorem IsRecord.ended (isRecord : IsRecord text fields rest) : EndsRecord rest := by
  induction isRecord with
  | last isField ended => exact ended
  | more isField isRecord ih => exact ih

/-- A record stands at the front of any bytes. -/
theorem exists_isRecord (bytes : List UInt8) :
    ∃ text fields rest, bytes = text ++ rest ∧ IsRecord text fields rest := by
  generalize count : bytes.length = length
  induction length using Nat.strongRecOn generalizing bytes with
  | ind length ih =>
      rcases exists_isField bytes with ⟨text, field, rest, rfl, isField⟩
      by_cases separated : ∃ inside, rest = comma :: inside
      · rcases separated with ⟨inside, rfl⟩
        have shorter : inside.length < length := by
          simp only [List.length_append, List.length_cons] at count
          omega
        rcases ih inside.length shorter inside rfl with ⟨others, fields, rest, rfl, isRecord⟩
        exact ⟨text ++ comma :: others, field :: fields, rest, by simp, .more isField isRecord⟩
      · refine ⟨text, [field], rest, rfl, .last isField ?_⟩
        intro stop found
        rcases List.head?_eq_some_iff.mp found with ⟨inside, rfl⟩
        have separates : isSeparator stop = true := by
          cases isField with
          | plain unquoted unbroken stops => exact stops stop found
          | quoted closed unbroken stops => exact stops stop found
        have noComma : stop ≠ comma := by
          rintro rfl
          exact separated ⟨inside, rfl⟩
        simpa [isSeparator, noComma] using separates

/-- There is only one record at the front of bytes. -/
theorem IsRecord.unique (first : IsRecord text fields rest)
    (second : IsRecord other otherFields otherRest) (same : text ++ rest = other ++ otherRest) :
    text = other ∧ fields = otherFields ∧ rest = otherRest := by
  induction first generalizing other otherFields otherRest with
  | last isField ended =>
      cases second with
      | last otherIsField otherEnded =>
          rcases isField.unique otherIsField same with ⟨rfl, rfl, rfl⟩
          exact ⟨rfl, rfl, rfl⟩
      | more otherIsField otherIsRecord =>
          rw [List.append_assoc, List.cons_append] at same
          rcases isField.unique otherIsField same with ⟨-, -, rfl⟩
          have noEnd := ended comma rfl
          simp [isLineEnd_comma] at noEnd
  | more isField isRecord ih =>
      rw [List.append_assoc, List.cons_append] at same
      cases second with
      | last otherIsField otherEnded =>
          rcases isField.unique otherIsField same with ⟨-, -, rfl⟩
          have noEnd := otherEnded comma rfl
          simp [isLineEnd_comma] at noEnd
      | more otherIsField otherIsRecord =>
          rw [List.append_assoc, List.cons_append] at same
          rcases isField.unique otherIsField same with ⟨rfl, rfl, behind⟩
          rcases ih otherIsRecord (List.cons.inj behind).2 with ⟨rfl, rfl, rfl⟩
          exact ⟨rfl, rfl, rfl⟩

/-- Of the bytes behind a record only the first one matters. -/
theorem IsRecord.replace {stop : UInt8} (isRecord : IsRecord text fields (stop :: rest))
    (other : List UInt8) : IsRecord text fields (stop :: other) := by
  generalize same : stop :: rest = behind at isRecord
  induction isRecord with
  | last isField ended =>
      subst same
      exact .last (isField.replace other) ended
  | more isField isRecord ih => exact .more (isField.replace _) (ih same)

/-- A record that takes up bytes does not begin with a line end. -/
theorem IsRecord.isLineEnd_eq_false {byte : UInt8}
    (isRecord : IsRecord (byte :: text) fields rest) : isLineEnd byte = false := by
  generalize found : byte :: text = bytes at isRecord
  cases isRecord with
  | last isField ended =>
      subst found
      exact isField.isLineEnd_eq_false
  | @more front _ _ _ _ isField isRecord =>
      cases front with
      | nil =>
          rw [(List.cons.inj found).1]
          exact isLineEnd_comma
      | cons first front =>
          rw [(List.cons.inj found).1]
          exact isField.isLineEnd_eq_false

end

/-! ### Files -/

/-- A record of a file. -/
structure Record where
  /-- The position that is reported for it. -/
  start : Position
  fields : List (List UInt8)
  /-- The position behind it. -/
  stop : Position
  /-- It is ended by a line end, not by the end of the bytes. -/
  closed : Bool
deriving DecidableEq

/--
The bytes from the position on are divided into these records, `start` being reported for the first.
-/
inductive Divides : Position → Position → List UInt8 → List Record → Prop
  /-- At the end of the bytes there are no more records. -/
  | ended {start position : Position} : Divides start position [] []
  /-- A line end in front of a record is passed over. -/
  | emptyLine {start position : Position} {byte : UInt8} {bytes : List UInt8}
      {records : List Record} (lineEnd : isLineEnd byte = true)
      (divides : Divides start (position.after byte) bytes records) :
      Divides start position (byte :: bytes) records
  /-- A record takes up bytes, and more records follow the line end behind it. -/
  | record {start position behind : Position} {text bytes : List UInt8} {stop : UInt8}
      {fields : List (List UInt8)} {records : List Record} (visible : text ≠ [])
      (isRecord : IsRecord text fields (stop :: bytes))
      (passed : behind = position.passing (text ++ [stop]))
      (divides : Divides behind behind bytes records) :
      Divides start position (text ++ stop :: bytes)
        ({ start, fields, stop := behind, closed := true } :: records)
  /-- The last record may be ended by the end of the bytes. -/
  | lastRecord {start position : Position} {text : List UInt8} {fields : List (List UInt8)}
      (visible : text ≠ []) (isRecord : IsRecord text fields []) :
      Divides start position text
        [{ start, fields, stop := position.passing text, closed := false }]

/--
The bytes of a whole file are divided into these records. The first is reported at the beginning,
also where a mark is passed over.
-/
inductive FileRecords : List UInt8 → List Record → Prop
  | marked {bytes : List UInt8} {records : List Record}
      (divides : Divides {} { byte := 3 } bytes records) :
      FileRecords (0xEF :: 0xBB :: 0xBF :: bytes) records
  | unmarked {bytes : List UInt8} {records : List Record}
      (noMark : ∀ rest, bytes ≠ 0xEF :: 0xBB :: 0xBF :: rest)
      (divides : Divides {} {} bytes records) : FileRecords bytes records

section

variable {start position : Position} {bytes : List UInt8} {records before after : List Record}
  {record : Record}

theorem exists_divides (start position : Position) (bytes : List UInt8) :
    ∃ records, Divides start position bytes records := by
  generalize count : bytes.length = length
  induction length using Nat.strongRecOn generalizing start position bytes with
  | ind length ih =>
      cases bytes with
      | nil => exact ⟨[], .ended⟩
      | cons byte bytes =>
          cases lineEnd : isLineEnd byte with
          | true =>
              rcases ih bytes.length (by simp [← count]) start (position.after byte) bytes rfl with
                ⟨records, divides⟩
              exact ⟨records, .emptyLine lineEnd divides⟩
          | false =>
              rcases exists_isRecord (byte :: bytes) with ⟨text, fields, rest, same, isRecord⟩
              have visible : text ≠ [] := by
                rintro rfl
                have noEnd := isRecord.ended byte (by rw [← List.nil_append rest, ← same]; rfl)
                simp [lineEnd] at noEnd
              rw [same] at count ⊢
              cases rest with
              | nil =>
                  rw [List.append_nil]
                  exact ⟨_, .lastRecord visible isRecord⟩
              | cons stop rest =>
                  have shorter : rest.length < length := by
                    simp only [List.length_append, List.length_cons] at count
                    omega
                  rcases ih rest.length shorter (position.passing (text ++ [stop]))
                    (position.passing (text ++ [stop])) rest rfl with ⟨records, divides⟩
                  exact ⟨_, .record visible isRecord rfl divides⟩

/-- A record that is not empty is no empty line. -/
theorem IsRecord.ne_emptyLine {byte : UInt8} {text rest : List UInt8} {fields : List (List UInt8)}
    (lineEnd : isLineEnd byte = true) (visible : text ≠ [])
    (isRecord : IsRecord text fields rest) : byte :: bytes ≠ text ++ rest := by
  intro same
  obtain ⟨first, text, rfl⟩ := List.exists_cons_of_ne_nil visible
  obtain rfl : byte = first := (List.cons.inj same).1
  simp [isRecord.isLineEnd_eq_false] at lineEnd

/-- Bytes are divided in one way only. -/
theorem Divides.unique {others : List Record} (first : Divides start position bytes records)
    (second : Divides start position bytes others) : records = others := by
  induction first generalizing others with
  | ended =>
      generalize found : ([] : List UInt8) = bytes at second
      cases second with
      | ended => rfl
      | emptyLine => simp at found
      | record visible => simp at found
      | lastRecord visible => exact absurd found.symm visible
  | @emptyLine start position byte bytes records lineEnd divides ih =>
      generalize found : byte :: bytes = all at second
      cases second with
      | ended => simp at found
      | emptyLine otherLineEnd otherDivides =>
          obtain ⟨rfl, rfl⟩ := List.cons.inj found
          exact ih otherDivides
      | record visible isRecord => exact absurd found (isRecord.ne_emptyLine lineEnd visible)
      | lastRecord visible isRecord =>
          rw [← List.append_nil all] at found
          exact absurd found (isRecord.ne_emptyLine lineEnd visible)
  | @record start position behind text bytes stop fields records visible isRecord passed divides
      ih =>
      generalize found : text ++ stop :: bytes = all at second
      cases second with
      | ended => simp at found
      | emptyLine otherLineEnd otherDivides =>
          exact absurd found.symm (isRecord.ne_emptyLine otherLineEnd visible)
      | record otherVisible otherIsRecord otherPassed otherDivides =>
          rcases isRecord.unique otherIsRecord found with ⟨rfl, rfl, behindSame⟩
          obtain ⟨rfl, rfl⟩ := List.cons.inj behindSame
          subst passed otherPassed
          rw [ih otherDivides]
      | lastRecord otherVisible otherIsRecord =>
          rw [← List.append_nil all] at found
          rcases isRecord.unique otherIsRecord found with ⟨-, -, nothing⟩
          simp at nothing
  | @lastRecord start position text fields visible isRecord =>
      generalize found : text = all at second
      cases second with
      | ended => exact absurd found visible
      | emptyLine otherLineEnd otherDivides =>
          rw [← List.append_nil text] at found
          exact absurd found.symm (isRecord.ne_emptyLine otherLineEnd visible)
      | record otherVisible otherIsRecord otherPassed otherDivides =>
          rw [← List.append_nil text] at found
          rcases isRecord.unique otherIsRecord found with ⟨-, -, nothing⟩
          simp at nothing
      | lastRecord otherVisible otherIsRecord =>
          subst found
          rcases isRecord.unique otherIsRecord rfl with ⟨-, rfl, -⟩
          rfl

/-! ### The end of a record -/

theorem Position.passing_cons (position : Position) (byte : UInt8) (bytes : List UInt8) :
    position.passing (byte :: bytes) = (position.after byte).passing bytes := rfl

theorem Position.passing_append (position : Position) (bytes others : List UInt8) :
    position.passing (bytes ++ others) = (position.passing bytes).passing others :=
  List.foldl_append

theorem Position.byte_passing (position : Position) (bytes : List UInt8) :
    (position.passing bytes).byte = position.byte + bytes.length := by
  induction bytes generalizing position with
  | nil => rfl
  | cons byte bytes ih =>
      have one : (position.after byte).byte = position.byte + 1 := rfl
      rw [passing_cons, ih, one, List.length_cons]
      omega

/--
The records up to one that is ended by a line end do not depend on what is behind the line end.
-/
theorem Divides.exists_append
    (divides : Divides start position bytes (before ++ record :: after))
    (closed : record.closed = true) :
    ∃ front stop rest, isLineEnd stop = true ∧ bytes = front ++ stop :: rest ∧
      record.stop = position.passing (front ++ [stop]) ∧
      ∀ other, ∃ after', Divides start position (front ++ stop :: other)
        (before ++ record :: after') := by
  generalize same : before ++ record :: after = records at divides
  induction divides generalizing before with
  | ended => simp at same
  | emptyLine lineEnd divides ih =>
      rcases ih same with ⟨front, stop, rest, ends, rfl, passed, replaced⟩
      refine ⟨_ :: front, stop, rest, ends, rfl, passed, ?_⟩
      intro other
      rcases replaced other with ⟨after', divides'⟩
      exact ⟨after', .emptyLine lineEnd divides'⟩
  | @record start position behind text bytes stop fields records visible isRecord passed divides
      ih =>
      cases before with
      | nil =>
          obtain ⟨rfl, rfl⟩ := List.cons.inj same
          refine ⟨text, stop, bytes, isRecord.ended stop rfl, rfl, passed, ?_⟩
          intro other
          rcases exists_divides behind behind other with ⟨after', divides'⟩
          exact ⟨after', .record visible (isRecord.replace other) passed divides'⟩
      | cons first before =>
          obtain ⟨rfl, sameLater⟩ := List.cons.inj same
          rcases ih sameLater with ⟨front, last, rest, ends, rfl, passedLater, replaced⟩
          refine ⟨text ++ stop :: front, last, rest, ends, by simp, ?_, ?_⟩
          · rw [passedLater, passed, ← Position.passing_append]
            simp
          · intro other
            rcases replaced other with ⟨after', divides'⟩
            rw [List.append_assoc, List.cons_append]
            exact ⟨after', .record visible (isRecord.replace _) passed divides'⟩
  | lastRecord visible isRecord =>
      cases before with
      | nil =>
          obtain ⟨rfl, -⟩ := List.cons.inj same
          simp at closed
      | cons first before => simp at same

/-- A record that no line end ends takes up all the bytes. -/
theorem Divides.stop_of_not_closed
    (divides : Divides start position bytes (before ++ record :: after))
    (unclosed : record.closed = false) : record.stop = position.passing bytes := by
  generalize same : before ++ record :: after = records at divides
  induction divides generalizing before with
  | ended => simp at same
  | emptyLine lineEnd divides ih => exact ih same
  | @record start position behind text bytes stop fields records visible isRecord passed divides
      ih =>
      cases before with
      | nil =>
          obtain ⟨rfl, -⟩ := List.cons.inj same
          simp at unclosed
      | cons first before =>
          rw [ih (List.cons.inj same).2, passed, ← Position.passing_append]
          simp
  | lastRecord visible isRecord =>
      cases before with
      | nil =>
          obtain ⟨rfl, -⟩ := List.cons.inj same
          rfl
      | cons first before => simp at same

/-! ### The records of a file -/

/-- A mark at the front lies before any byte that is none of its own. -/
theorem exists_of_append_eq_mark {bytes more rest : List UInt8} {stop : UInt8}
    (notMark : stop ≠ 0xEF ∧ stop ≠ 0xBB ∧ stop ≠ 0xBF)
    (marked : bytes ++ stop :: more = 0xEF :: 0xBB :: 0xBF :: rest) :
    ∃ rest', bytes = 0xEF :: 0xBB :: 0xBF :: rest' := by
  rcases bytes with _ | ⟨first, _ | ⟨second, _ | ⟨third, rest'⟩⟩⟩
  · simp [notMark] at marked
  · simp [notMark] at marked
  · simp [notMark] at marked
  · simp only [List.cons_append, List.cons.injEq] at marked
    rcases marked with ⟨rfl, rfl, rfl, -⟩
    exact ⟨rest', rfl⟩

theorem exists_fileRecords (bytes : List UInt8) : ∃ records, FileRecords bytes records := by
  by_cases marked : ∃ rest, bytes = 0xEF :: 0xBB :: 0xBF :: rest
  · rcases marked with ⟨rest, rfl⟩
    rcases exists_divides {} { byte := 3 } rest with ⟨records, divides⟩
    exact ⟨records, .marked divides⟩
  · rcases exists_divides {} {} bytes with ⟨records, divides⟩
    exact ⟨records, .unmarked (not_exists.mp marked) divides⟩

/-- A file is divided in one way only. -/
theorem FileRecords.unique {others : List Record} (first : FileRecords bytes records)
    (second : FileRecords bytes others) : records = others := by
  cases first with
  | @marked rest _ divides =>
      generalize found : 0xEF :: 0xBB :: 0xBF :: rest = all at second
      cases second with
      | marked otherDivides =>
          simp only [List.cons.injEq, true_and] at found
          exact divides.unique (found ▸ otherDivides)
      | unmarked noMark => exact absurd found.symm (noMark _)
  | unmarked noMark divides =>
      cases second with
      | marked => exact absurd rfl (noMark _)
      | unmarked otherNoMark otherDivides => exact divides.unique otherDivides

/-- The position behind a record that is ended by a line end is right behind the line end. -/
theorem FileRecords.exists_append (divided : FileRecords bytes (before ++ record :: after))
    (closed : record.closed = true) :
    ∃ front stop rest, bytes = front ++ stop :: rest ∧ record.stop.byte = front.length + 1 ∧
      ∀ other, ∃ after', FileRecords (front ++ stop :: other) (before ++ record :: after') := by
  cases divided with
  | marked divides =>
      rcases divides.exists_append closed with ⟨front, stop, rest, -, rfl, passed, replaced⟩
      refine ⟨0xEF :: 0xBB :: 0xBF :: front, stop, rest, rfl, ?_, ?_⟩
      · rw [passed, Position.byte_passing]
        simp
        omega
      · intro other
        rcases replaced other with ⟨after', divides'⟩
        exact ⟨after', .marked divides'⟩
  | unmarked noMark divides =>
      rcases divides.exists_append closed with ⟨front, stop, rest, lineEnd, rfl, passed, replaced⟩
      refine ⟨front, stop, rest, rfl, by simp [passed, Position.byte_passing], ?_⟩
      intro other
      rcases replaced other with ⟨after', divides'⟩
      refine ⟨after', .unmarked ?_ divides'⟩
      -- No mark arises, since it would lie in front of the line end.
      intro more marked
      have notMark : stop ≠ 0xEF ∧ stop ≠ 0xBB ∧ stop ≠ 0xBF := by
        refine ⟨?_, ?_, ?_⟩ <;> rintro rfl <;> simp [isLineEnd] at lineEnd
      rcases exists_of_append_eq_mark notMark marked with ⟨front, rfl⟩
      exact noMark _ rfl

/-- Up to a record that is ended by a line end, the bytes behind it do not matter. -/
theorem FileRecords.take_append (divided : FileRecords bytes (before ++ record :: after))
    (closed : record.closed = true) (other : List UInt8) :
    ∃ after', FileRecords (bytes.take record.stop.byte ++ other) (before ++ record :: after') := by
  rcases divided.exists_append closed with ⟨front, stop, rest, rfl, passed, replaced⟩
  have taken : (front ++ stop :: rest).take record.stop.byte = front ++ [stop] := by
    rw [passed, List.append_cons]
    exact List.take_left' (by simp)
  rw [taken, List.append_assoc, List.singleton_append]
  exact replaced other

theorem FileRecords.stop_eq_length (divided : FileRecords bytes (before ++ record :: after))
    (unclosed : record.closed = false) : record.stop.byte = bytes.length := by
  cases divided with
  | marked divides =>
      rw [divides.stop_of_not_closed unclosed, Position.byte_passing]
      simp
      omega
  | unmarked noMark divides =>
      rw [divides.stop_of_not_closed unclosed, Position.byte_passing]
      simp

/-- The records of a file have fields. -/
theorem Divides.fields_ne_nil (divides : Divides start position bytes records) :
    ∀ record ∈ records, record.fields ≠ [] := by
  induction divides with
  | ended => simp
  | emptyLine lineEnd divides ih => exact ih
  | record visible isRecord passed divides ih =>
      exact List.forall_mem_cons.mpr ⟨isRecord.fields_ne_nil, ih⟩
  | lastRecord visible isRecord => simpa using isRecord.fields_ne_nil

theorem FileRecords.fields_ne_nil (divided : FileRecords bytes records) :
    ∀ record ∈ records, record.fields ≠ [] := by
  cases divided with
  | marked divides => exact divides.fields_ne_nil
  | unmarked noMark divides => exact divides.fields_ne_nil

end

end CsvSelect.Csv
