import CsvSelect.Proofs.Requests

/-!
# What an input is answered with

The first line of an input decides what is read from it. This file says what a line is answered with
(`LineAnswer`): it must be a text, and what is kept of it is the part up to its last semicolon. So
two inputs with the same first line are answered alike, and also two whose first lines differ only
in texts behind the last semicolon. A request that was read is no blank text, and it is its own
answer when it is handed in again.

The semicolon is looked for in the text, while the lines are compared as bytes. This makes no
difference, because the byte of a semicolon is found only where the text has a semicolon
(`Utf8.exists_of_encode_eq_append`).
-/

namespace CsvSelect

open Text

/-- What a line is answered with: the text up to its last semicolon, or why there is none. -/
inductive LineAnswer (line : List UInt8) : Except RequestError String → Prop
  | unreadable (foreign : ∀ text, Utf8.encode text ≠ line) :
      LineAnswer line (.error (.file .invalidUtf8))
  | unfinished {text : String} (bytes : Utf8.encode text = line) (free : ';' ∉ text.toList) :
      LineAnswer line (.error (.input .noSemicolon))
  | request {front rest : List Char}
      (bytes : Utf8.encode (String.ofList (front ++ ';' :: rest)) = line) (last : ';' ∉ rest) :
      LineAnswer line (.ok (String.ofList (front ++ [';'])))

theorem throughSemicolon?_eq_none {line : List Char} (free : ';' ∉ line) :
    throughSemicolon? line = none := by
  rw [← List.nil_append line, throughSemicolon?_append free]
  rfl

theorem throughSemicolon?_last {rest : List Char} (last : ';' ∉ rest) (front : List Char) :
    throughSemicolon? (front ++ ';' :: rest) = some (front ++ [';']) := by
  rw [List.append_cons, throughSemicolon?_append last, throughSemicolon?_semicolon]

variable {input line : List UInt8} {answer : Except RequestError String}

theorem readRequest_of_lineAnswer (first : FirstLine input line)
    (answered : LineAnswer line answer) : readRequest input = answer := by
  have splits := splitLine_of_firstLine first
  cases answered with
  | unreadable foreign =>
      rw [readRequest, splits]
      cases decoded : Utf8.decode line with
      | error valid => rfl
      | ok text => exact absurd (Utf8.encode_of_decode decoded) (foreign text)
  | unfinished bytes free =>
      simp only [readRequest, splits, ← bytes, Utf8.decode_encode, throughSemicolon?_eq_none free]
  | request bytes last =>
      simp only [readRequest, splits, ← bytes, Utf8.decode_encode, String.toList_ofList,
        throughSemicolon?_last last]

/-- Every line has an answer. -/
theorem exists_lineAnswer (line : List UInt8) : ∃ answer, LineAnswer line answer := by
  by_cases readable : ∃ text, Utf8.encode text = line
  · rcases readable with ⟨text, bytes⟩
    by_cases mem : ';' ∈ text.toList
    · rcases List.eq_append_cons_of_mem (List.mem_reverse.mpr mem) with ⟨rest, front, split, last⟩
      have parts : text.toList = front.reverse ++ ';' :: rest.reverse := by
        simpa using congrArg List.reverse split
      rw [← String.ofList_toList (s := text), parts] at bytes
      exact ⟨_, .request bytes (by simpa using last)⟩
    · exact ⟨_, .unfinished bytes mem⟩
  · exact ⟨_, .unreadable (by simpa using readable)⟩

theorem readRequest_eq_iff (first : FirstLine input line) :
    readRequest input = answer ↔ LineAnswer line answer := by
  constructor
  · intro read
    rcases exists_lineAnswer line with ⟨other, answered⟩
    rwa [← read, readRequest_of_lineAnswer first answered]
  · exact readRequest_of_lineAnswer first

theorem checkQuery_ne_emptyQuery {request : String} (complete : ';' ∈ request.toList) :
    checkQuery request ≠ .error .emptyQuery := by
  have visible : isBlankText request = false := by
    rw [Bool.eq_false_iff]
    intro blank
    exact absurd (List.all_eq_true.mp blank ';' complete) (by decide)
  rw [checkQuery, visible, if_neg (by decide)]
  split <;> simp

theorem readRequest_encode_request {front : List Char} (inside : '\n' ∉ front) :
    let request := String.ofList (front ++ [';'])
    readRequest (Utf8.encode request) = .ok request := by
  intro request
  have whole : '\n' ∉ front ++ [';'] := by simpa using inside
  have read := readRequest_encode whole [] (by simp)
  rwa [List.append_nil, throughSemicolon?_semicolon] at read

/-- Behind its last semicolon a line may go on with another text. -/
theorem LineAnswer.withRest {front : List UInt8} {rest otherRest request : String}
    (free : ';' ∉ rest.toList) (otherFree : ';' ∉ otherRest.toList)
    (answered : LineAnswer (front ++ 0x3B :: Utf8.encode rest) (.ok request)) :
    LineAnswer (front ++ 0x3B :: Utf8.encode otherRest) (.ok request) := by
  have ascii : ';'.toNat < 0x80 := by decide
  cases answered with
  | @request kept behind bytes last =>
      rcases Utf8.exists_of_encode_eq_append ascii bytes with ⟨before, after, parts, rfl, same⟩
      obtain rfl := Utf8.encode_inj.mp same
      rw [String.toList_ofList] at free
      -- The semicolon before the rest is the last one of the line.
      have keeps := throughSemicolon?_last last kept
      rw [parts, throughSemicolon?_last free, Option.some.injEq] at keeps
      rw [← keeps]
      refine @LineAnswer.request _ before otherRest.toList ?_ otherFree
      rw [Utf8.encode_ofList, Utf8.encode_ofList, Utf8.encode_eq, List.flatMap_append,
        List.flatMap_cons]
      rfl

/--
The first line decides what is read from an input. A request that was read is a single line up to a
semicolon, is not blank, and is read again as it is. Texts behind the last semicolon of the line
make no difference.
-/
theorem readRequest_firstLine (first : FirstLine input line) :
    (∀ other, FirstLine other line → readRequest other = readRequest input) ∧
    (∀ answer, readRequest input = answer ↔ LineAnswer line answer) ∧
    (∀ request, readRequest input = .ok request →
      '\n' ∉ request.toList ∧ request.toList.getLast? = some ';' ∧
        checkQuery request ≠ .error .emptyQuery ∧
          readRequest (Utf8.encode request) = .ok request) ∧
    ∀ (front : List UInt8) (rest otherRest : String), line = front ++ 0x3B :: Utf8.encode rest →
      ';' ∉ rest.toList → ';' ∉ otherRest.toList →
        ∀ other, FirstLine other (front ++ 0x3B :: Utf8.encode otherRest) →
          ∀ request, readRequest input = .ok request → readRequest other = .ok request := by
  refine ⟨?_, fun answer => readRequest_eq_iff first, ?_, ?_⟩
  · intro other otherFirst
    exact (readRequest_eq_iff otherFirst).mpr ((readRequest_eq_iff first).mp rfl)
  · intro request read
    have inside := not_mem_of_readRequest read
    cases (readRequest_eq_iff first).mp read with
    | @request front rest bytes last =>
        refine ⟨inside, by simp, checkQuery_ne_emptyQuery (by simp), ?_⟩
        apply readRequest_encode_request
        intro mem
        exact inside (by simp [mem])
  · rintro front rest otherRest rfl free otherFree other otherFirst request read
    have answered := (readRequest_eq_iff first).mp read
    exact (readRequest_eq_iff otherFirst).mpr (answered.withRest free otherFree)

/-- A request that holds a semicolon before its last one. -/
def textRequest : String :=
  "select a from t where b = ';';"

/-- Neither what no text holds nor another text makes a difference behind the request. -/
theorem readRequest_textRequest :
    let front := Utf8.encode (textRequest ++ " é")
    FirstLine (front ++ 0x0A :: [0xFF]) (front ++ [0x0A]) ∧
      readRequest (front ++ 0x0A :: [0xFF]) = .ok textRequest ∧
      readRequest (front ++ 0x0A :: [0x3B]) = .ok textRequest ∧
      readRequest (Utf8.encode textRequest) = .ok textRequest ∧
      readRequest (Utf8.encode (textRequest ++ "\r\n;")) = .ok textRequest := by
  have inside : 0x0A ∉ Utf8.encode (textRequest ++ " é") := by
    rw [mem_encode_lineFeed]
    decide
  rcases readRequest_firstLine (.broken inside [0xFF]) with ⟨same, answers, laws, rests⟩
  have read := (answers (.ok textRequest)).mpr
    (@LineAnswer.request _ "select a from t where b = ';'".toList " é\n".toList
      (by decide +kernel) (by decide))
  refine ⟨.broken inside _, read, ?_, (laws _ read).2.2.2, ?_⟩
  · rw [same _ (.broken inside [0x3B]), read]
  · apply rests (Utf8.encode "select a from t where b = ';'") " é\n" "\r\n" (by decide +kernel)
      (by decide) (by decide) _ _ _ read
    have early : 0x0A ∉ Utf8.encode (textRequest ++ "\r") := by
      rw [mem_encode_lineFeed]
      decide
    exact FirstLine.broken early [0x3B]

end CsvSelect
