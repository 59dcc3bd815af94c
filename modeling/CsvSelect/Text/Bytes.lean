/-!
# Texts as bytes

Texts are stored in UTF-8. Writing is always possible. Reading either gives the text or says how
many bytes at the front form whole characters. A line of bytes ends with its first line feed, which
belongs to it, or with the bytes.
-/

namespace CsvSelect.Text

namespace Utf8

/-- The bytes of the text. -/
def encode (text : String) : List UInt8 :=
  text.toByteArray.data.toList

/-- The end of the run of whole characters that begins at `start`. -/
def wholeCharacters (bytes : ByteArray) (start : Nat) : Nat :=
  match _decoded : bytes.utf8DecodeChar? start with
  | some character => wholeCharacters bytes (start + character.utf8Size)
  | none => start
termination_by bytes.size - start
decreasing_by
  have bound := ByteArray.le_size_of_utf8DecodeChar?_eq_some _decoded
  have positive := character.utf8Size_pos
  omega

/-- The text of the bytes, or the number of bytes at the front that form whole characters. -/
def decode (bytes : List UInt8) : Except Nat String :=
  let array : ByteArray := ⟨bytes.toArray⟩
  match String.fromUTF8? array with
  | some text => .ok text
  | none => .error (wholeCharacters array 0)

theorem decode_encode (text : String) : decode (encode text) = .ok text := by
  simp [decode, encode, String.fromUTF8?, text.isValidUTF8, String.fromUTF8]

end Utf8

/-- The first line and what follows it. -/
def splitLine (bytes : List UInt8) : List UInt8 × List UInt8 :=
  let (text, rest) := bytes.span (· != 0x0A)
  (text ++ rest.take 1, rest.drop 1)

end CsvSelect.Text
