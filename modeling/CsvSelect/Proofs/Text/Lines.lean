import Mathlib.Data.List.TakeDrop
import CsvSelect.Proofs.Text.Utf8
import CsvSelect.Text.Bytes

/-!
# Lines

Lines that are written one after the other, each with a line feed behind it, are found again by
splitting at the line feeds exactly if none of them holds a line feed. The line at the front of an
input holds none but perhaps at its end, and the bytes of the line at the front of a text are the
line at the front of its bytes.
-/

namespace CsvSelect.Text

/-- The pieces between the line feeds. -/
def pieces (bytes : List UInt8) : List (List UInt8) :=
  bytes.splitOn 0x0A

/-- The lines, each with a line feed behind it. -/
def ended (lines : List (List UInt8)) : List UInt8 :=
  lines.flatMap (· ++ [0x0A])

theorem mem_encode_lineFeed {text : String} : 0x0A ∈ Utf8.encode text ↔ '\n' ∈ text.toList := by
  have ascii : '\n'.toNat < 0x80 := by decide
  exact Utf8.mem_encode_iff ascii

theorem not_mem_of_mem_pieces {bytes piece : List UInt8} (mem : piece ∈ pieces bytes) :
    0x0A ∉ piece := by
  induction bytes generalizing piece with
  | nil =>
      rw [pieces, List.splitOn_nil, List.mem_singleton] at mem
      simp [mem]
  | cons byte bytes ih =>
      rw [pieces, List.splitOn_cons_eq_if_modifyHead, ← pieces] at mem
      split at mem
      · rcases List.mem_cons.mp mem with rfl | later
        · exact List.not_mem_nil
        · exact ih later
      · next other =>
          rcases split : pieces bytes with _ | ⟨first, others⟩
          · simp [split] at mem
          · rw [split, List.modifyHead_cons] at mem
            rw [split] at ih
            rcases List.mem_cons.mp mem with rfl | later
            · have inside := ih List.mem_cons_self
              simp only [beq_iff_eq] at other
              simp [inside, Ne.symm other]
            · exact ih (List.mem_cons_of_mem _ later)

theorem pieces_ended {lines : List (List UInt8)} (whole : ∀ line ∈ lines, 0x0A ∉ line) :
    pieces (ended lines) = lines ++ [[]] := by
  induction lines with
  | nil => rfl
  | cons line lines ih =>
      have first := whole line List.mem_cons_self
      have later := ih fun other mem => whole other (List.mem_cons_of_mem _ mem)
      rw [ended, List.flatMap_cons, ← ended, List.append_assoc, List.singleton_append, pieces,
        List.splitOn_append_cons_self_of_not_mem first, ← pieces, later, List.cons_append]

/-- The lines are found again if none of them holds a line feed, and only then. -/
theorem pieces_ended_iff {lines : List (List UInt8)} :
    pieces (ended lines) = lines ++ [[]] ↔ ∀ line ∈ lines, 0x0A ∉ line := by
  refine ⟨?_, pieces_ended⟩
  intro found line mem
  have piece : line ∈ pieces (ended lines) := found ▸ List.mem_append_left _ mem
  exact not_mem_of_mem_pieces piece

/-- A line ends where the first line feed is found, or with the bytes. -/
theorem splitLine_append {front rest : List UInt8} (inside : 0x0A ∉ front)
    (ends : ∀ byte ∈ rest.head?, byte = 0x0A) :
    splitLine (front ++ rest) = (front ++ rest.take 1, rest.drop 1) := by
  have plain : ∀ byte ∈ front, (byte != 0x0A) = true := by
    intro byte mem
    rw [bne_iff_ne]
    rintro rfl
    exact inside mem
  rw [splitLine, List.span_eq_takeWhile_dropWhile, List.takeWhile_append_of_pos plain,
    List.dropWhile_append_of_pos plain]
  cases rest with
  | nil => simp
  | cons byte rest =>
      rcases ends byte rfl with rfl
      simp

/-- Bytes consist of a part without a line feed and a rest that is empty or begins with one. -/
theorem exists_lineEnd (bytes : List UInt8) :
    ∃ front rest, bytes = front ++ rest ∧ 0x0A ∉ front ∧ ∀ byte ∈ rest.head?, byte = 0x0A := by
  by_cases mem : 0x0A ∈ bytes
  · rcases List.eq_append_cons_of_mem mem with ⟨front, rest, rfl, inside⟩
    exact ⟨front, _, rfl, inside, by simp⟩
  · exact ⟨bytes, [], by simp, mem, by simp⟩

/-- The line at the front of a line is the line itself. -/
theorem splitLine_splitLine (bytes : List UInt8) :
    (splitLine (splitLine bytes).1).1 = (splitLine bytes).1 := by
  rcases exists_lineEnd bytes with ⟨front, rest, rfl, inside, ends⟩
  have alone : ∀ byte ∈ (rest.take 1).head?, byte = 0x0A := by
    cases rest with
    | nil => simp
    | cons byte rest => simpa using ends
  rw [splitLine_append inside ends, splitLine_append inside alone, List.take_take, Nat.min_self]

/-- The bytes up to the first line feed, with it, or all bytes if there is none. -/
inductive FirstLine : List UInt8 → List UInt8 → Prop
  | broken {front : List UInt8} (inside : 0x0A ∉ front) (rest : List UInt8) :
      FirstLine (front ++ 0x0A :: rest) (front ++ [0x0A])
  | whole {bytes : List UInt8} (inside : 0x0A ∉ bytes) : FirstLine bytes bytes

theorem splitLine_of_firstLine {bytes line : List UInt8} (first : FirstLine bytes line) :
    (splitLine bytes).1 = line := by
  cases first with
  | broken inside rest =>
      rw [splitLine_append inside (by simp)]
      rfl
  | whole inside =>
      have alone := @splitLine_append bytes [] inside (by simp)
      simpa using congrArg Prod.fst alone

theorem splitLine_encode {front rest : List Char} (inside : '\n' ∉ front)
    (ends : ∀ character ∈ rest.head?, character = '\n') :
    (splitLine (Utf8.encode (String.ofList (front ++ rest)))).1 =
      Utf8.encode (String.ofList (front ++ rest.take 1)) := by
  have plain : 0x0A ∉ Utf8.encode (String.ofList front) := by
    rwa [mem_encode_lineFeed, String.toList_ofList]
  have written (others : List Char) : Utf8.encode (String.ofList (front ++ others)) =
      Utf8.encode (String.ofList front) ++ Utf8.encode (String.ofList others) := by
    rw [String.ofList_append, Utf8.encode_append]
  rw [written, written]
  cases rest with
  | nil =>
      have nothing : Utf8.encode (String.ofList []) = [] := rfl
      rw [nothing, splitLine_append plain (by simp)]
      rfl
  | cons character rest =>
      rcases ends character rfl with rfl
      have broken : Utf8.encode (String.ofList ('\n' :: rest)) =
          0x0A :: Utf8.encode (String.ofList rest) := by
        simp only [Utf8.encode_ofList, List.flatMap_cons]
        rfl
      rw [broken, splitLine_append plain (by simp)]
      rfl

theorem not_mem_dropLast_splitLine (bytes : List UInt8) :
    0x0A ∉ (splitLine bytes).1.dropLast := by
  have before : 0x0A ∉ bytes.takeWhile (· != 0x0A) := by
    intro mem
    have different := List.all_eq_true.mp List.all_takeWhile _ mem
    simp at different
  rw [splitLine, List.span_eq_takeWhile_dropWhile]
  cases bytes.dropWhile (· != 0x0A) with
  | nil =>
      intro mem
      simp only [List.take_nil, List.append_nil] at mem
      exact before (List.dropLast_subset _ mem)
  | cons byte rest => simpa using before

/-- The text of a line holds no line feed but perhaps as its last character. -/
theorem not_mem_dropLast_of_decode {bytes : List UInt8} {line : String}
    (decoded : Utf8.decode (splitLine bytes).1 = .ok line) : '\n' ∉ line.toList.dropLast := by
  have whole := Utf8.encode_of_decode decoded
  have inside := not_mem_dropLast_splitLine bytes
  rcases List.eq_nil_or_concat line.toList with none | ⟨front, last, characters⟩
  · simp [none]
  · have written : String.utf8EncodeChar last ≠ [] := by
      have size := String.length_utf8EncodeChar last
      have positive := last.utf8Size_pos
      intro none
      rw [none, List.length_nil] at size
      omega
    rw [← whole, Utf8.encode_eq, characters, List.concat_eq_append, List.flatMap_append,
      List.flatMap_singleton, List.dropLast_append_of_ne_nil written,
      ← Utf8.encode_ofList] at inside
    rw [characters, List.concat_eq_append, List.dropLast_concat]
    intro mem
    apply inside
    apply List.mem_append_left
    rwa [mem_encode_lineFeed, String.toList_ofList]

end CsvSelect.Text
