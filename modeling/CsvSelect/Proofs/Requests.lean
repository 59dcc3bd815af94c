import CsvSelect.Proofs.Text.Lines
import CsvSelect.Request

/-!
# Requests that are read

The request in an input ends with the last semicolon of the first line, and so it holds no line
feed, which only the end of the line can be. Nothing behind the first line is read, also if the
input is a text whose last line ends with a semicolon (`readRequest_encode`).
-/

namespace CsvSelect

open Text

/-- What is kept of a line is the part up to a semicolon. -/
theorem throughSemicolon?_eq_some {line kept : List Char}
    (found : throughSemicolon? line = some kept) :
    ∃ front rest, kept = front ++ [';'] ∧ line = front ++ ';' :: rest := by
  have parts := List.takeWhile_append_dropWhile (p := (· != ';')) (l := line.reverse)
  rw [throughSemicolon?] at found
  cases reversed : line.reverse.dropWhile (· != ';') with
  | nil => simp [reversed] at found
  | cons last front =>
      simp only [reversed, Option.some.injEq] at found
      have semicolon : last = ';' := by
        have proper : line.reverse.dropWhile (· != ';') ≠ [] := by simp [reversed]
        have stopped := List.head_dropWhile_not _ proper
        simpa [reversed] using stopped
      rw [reversed, semicolon] at parts
      rw [semicolon, List.reverse_cons] at found
      refine ⟨front.reverse, (line.reverse.takeWhile (· != ';')).reverse, found.symm, ?_⟩
      simpa using congrArg List.reverse parts.symm

/-- What follows the last semicolon is not kept. -/
theorem throughSemicolon?_append {rest : List Char} (after : ';' ∉ rest) (line : List Char) :
    throughSemicolon? (line ++ rest) = throughSemicolon? line := by
  have passed : ∀ character ∈ rest.reverse, (character != ';') = true := by
    intro character mem
    rw [bne_iff_ne]
    rintro rfl
    exact after (List.mem_reverse.mp mem)
  rw [throughSemicolon?, throughSemicolon?, List.reverse_append,
    List.dropWhile_append_of_pos passed]

theorem throughSemicolon?_semicolon (front : List Char) :
    throughSemicolon? (front ++ [';']) = some (front ++ [';']) := by
  simp [throughSemicolon?]

theorem readRequest_splitLine (input : List UInt8) :
    readRequest (splitLine input).1 = readRequest input := by
  rw [readRequest, splitLine_splitLine, readRequest]

/-- The request in the bytes of a text is kept of its first line. -/
theorem readRequest_encode {front : List Char} (inside : '\n' ∉ front) (rest : List Char)
    (ends : ∀ character ∈ rest.head?, character = '\n') :
    readRequest (Utf8.encode (String.ofList (front ++ rest))) =
      match throughSemicolon? front with
      | none => .error (.input .noSemicolon)
      | some request => .ok (String.ofList request) := by
  have kept : throughSemicolon? (front ++ rest.take 1) = throughSemicolon? front := by
    apply throughSemicolon?_append
    cases rest with
    | nil => simp
    | cons character rest =>
        rcases ends character rfl with rfl
        simp
  cases found : throughSemicolon? front <;>
    simp only [readRequest, splitLine_encode inside ends, Utf8.decode_encode,
      String.toList_ofList, kept, found]

/-- A request that is read from an input holds no line feed. -/
theorem not_mem_of_readRequest {input : List UInt8} {request : String}
    (read : readRequest input = .ok request) : '\n' ∉ request.toList := by
  rw [readRequest] at read
  cases decoded : Utf8.decode (splitLine input).1 with
  | error length => simp [decoded] at read
  | ok line =>
      cases found : throughSemicolon? line.toList with
      | none => simp [decoded, found] at read
      | some kept =>
          simp only [decoded, found, Except.ok.injEq] at read
          rcases throughSemicolon?_eq_some found with ⟨front, rest, rfl, parts⟩
          have inside := not_mem_dropLast_of_decode decoded
          rw [parts, List.dropLast_append_cons] at inside
          rw [← read, String.toList_ofList]
          intro mem
          have early : '\n' ∈ front := by simpa using mem
          exact inside (List.mem_append_left _ early)

end CsvSelect
