import CsvSelect.Text.Bytes

/-!
# The bytes of a text

A text is encoded one character after the other. The bytes of a character outside ASCII all lie
outside ASCII, so an ASCII byte stands for itself wherever it is found. The byte order mark is the
one character whose bytes are `EF BB BF`, and no other text begins with these.
-/

namespace CsvSelect.Text.Utf8

/-- The byte order mark. -/
def mark : Char :=
  Char.ofNat 0xFEFF

theorem encode_ofList (characters : List Char) :
    encode (String.ofList characters) = characters.flatMap String.utf8EncodeChar := by
  rw [encode, String.toByteArray_ofList, List.utf8Encode, List.toList_data_toByteArray]

theorem encode_eq (text : String) :
    encode text = text.toList.flatMap String.utf8EncodeChar := by
  rw [← encode_ofList, String.ofList_toList]

theorem encode_inj {text other : String} : encode text = encode other ↔ text = other := by
  constructor
  · intro same
    have decoded := decode_encode text
    rw [same, decode_encode] at decoded
    exact (Except.ok.inj decoded).symm
  · rintro rfl
    rfl

theorem encode_append (text other : String) :
    encode (text ++ other) = encode text ++ encode other := by
  simp only [encode_eq, String.toList_append, List.flatMap_append]

/-- Bytes that are read as a text are those of the text. -/
theorem encode_of_decode {bytes : List UInt8} {text : String} (decoded : decode bytes = .ok text) :
    encode text = bytes := by
  rw [decode] at decoded
  split at decoded
  · next read found =>
      rw [← Except.ok.inj decoded]
      rw [String.fromUTF8?] at found
      split at found
      · rw [← Option.some.inj found]
        rfl
      · simp at found
  · simp at decoded

theorem encode_eq_nil_iff {text : String} : encode text = [] ↔ text = "" :=
  (encode_inj : encode text = encode "" ↔ text = "")

theorem mem_utf8EncodeChar_iff {byte : UInt8} (ascii : byte.toNat < 0x80) {character : Char} :
    byte ∈ String.utf8EncodeChar character ↔ character.toNat = byte.toNat := by
  have code : character.val.toNat = character.toNat := rfl
  unfold String.utf8EncodeChar
  simp only [code]
  repeat' split
  all_goals
    simp only [List.mem_cons, List.not_mem_nil, or_false, ← UInt8.toNat_inj, UInt8.toNat_ofNat']
    omega

/-- An ASCII byte is found in the bytes of a text where its character is found in the text. -/
theorem mem_encode_iff {character : Char} (ascii : character.toNat < 0x80) {text : String} :
    UInt8.ofNat character.toNat ∈ encode text ↔ character ∈ text.toList := by
  have small : (UInt8.ofNat character.toNat).toNat = character.toNat := by
    simp
    omega
  simp only [encode_eq, List.mem_flatMap, mem_utf8EncodeChar_iff (small ▸ ascii), small]
  constructor
  · rintro ⟨other, mem, same⟩
    exact Char.toNat_inj.mp same ▸ mem
  · intro mem
    exact ⟨character, mem, rfl⟩

theorem utf8EncodeChar_of_ascii {character : Char} (ascii : character.toNat < 0x80) :
    String.utf8EncodeChar character = [UInt8.ofNat character.toNat] := by
  have code : character.val.toNat = character.toNat := rfl
  have small : character.toNat ≤ 0x7F := by omega
  simp [String.utf8EncodeChar, code, small]

/-- Where an ASCII byte is found in the bytes of a text, the text can be divided. -/
theorem exists_of_encode_eq_append {character : Char} (ascii : character.toNat < 0x80)
    {characters : List Char} {front rest : List UInt8}
    (bytes : encode (String.ofList characters) = front ++ UInt8.ofNat character.toNat :: rest) :
    ∃ before after, characters = before ++ character :: after ∧
      encode (String.ofList before) = front ∧ encode (String.ofList after) = rest := by
  simp only [encode_ofList] at bytes ⊢
  have small : (UInt8.ofNat character.toNat).toNat = character.toNat := by
    simp
    omega
  induction characters generalizing front with
  | nil => simp at bytes
  | cons first others ih =>
      rw [List.flatMap_cons] at bytes
      rcases List.append_eq_append_iff.mp bytes with ⟨more, rfl, later⟩ | ⟨more, inside, behind⟩
      · rcases ih later with ⟨before, after, rfl, rfl, sameRest⟩
        exact ⟨first :: before, after, rfl, rfl, sameRest⟩
      · cases more with
        | nil =>
            rcases @ih [] behind.symm with ⟨before, after, rfl, nothing, sameRest⟩
            refine ⟨first :: before, after, rfl, ?_, sameRest⟩
            rw [List.flatMap_cons, nothing, inside]
            simp
        | cons byte more =>
            rcases List.cons.inj behind with ⟨rfl, sameRest⟩
            have mem : UInt8.ofNat character.toNat ∈ String.utf8EncodeChar first := by
              simp [inside]
            rw [mem_utf8EncodeChar_iff (by rwa [small]), small] at mem
            obtain rfl : first = character := Char.toNat_inj.mp mem
            rw [utf8EncodeChar_of_ascii ascii] at inside
            rcases List.append_eq_singleton_iff.mp inside.symm with ⟨rfl, alone⟩ | ⟨rfl, alone⟩
            · obtain rfl : more = [] := (List.cons.inj alone).2
              exact ⟨[], others, rfl, rfl, sameRest.symm⟩
            · simp at alone

/-- Only the byte order mark begins with its bytes. -/
theorem utf8EncodeChar_append_eq_mark {character : Char} {bytes rest : List UInt8}
    (same : String.utf8EncodeChar character ++ bytes = 0xEF :: 0xBB :: 0xBF :: rest) :
    character = mark ∧ bytes = rest := by
  have code : character.val.toNat = character.toNat := rfl
  have marked : character.toNat = 0xFEFF → character = mark := fun found =>
    Char.toNat_inj.mp found
  unfold String.utf8EncodeChar at same
  simp only [code] at same
  -- The first byte tells that there are three, and then all three together tell the code.
  split at same
  · simp [← UInt8.toNat_inj] at same
    omega
  · split at same
    · simp [← UInt8.toNat_inj] at same
      omega
    · split at same
      · simp only [List.cons_append, List.nil_append, List.cons.injEq, ← UInt8.toNat_inj,
          UInt8.toNat_ofNat', UInt8.reduceToNat] at same
        exact ⟨marked (by omega), same.2.2.2⟩
      · simp [← UInt8.toNat_inj] at same
        omega

/-- A text whose bytes begin like those of the byte order mark begins with it. -/
theorem encode_eq_mark_iff {text : String} {rest : List UInt8} :
    encode text = 0xEF :: 0xBB :: 0xBF :: rest ↔
      ∃ others, text.toList = mark :: others ∧ encode (String.ofList others) = rest := by
  rw [encode_eq]
  constructor
  · intro same
    cases characters : text.toList with
    | nil => simp [characters] at same
    | cons character others =>
        rw [characters, List.flatMap_cons] at same
        rcases utf8EncodeChar_append_eq_mark same with ⟨rfl, sameRest⟩
        exact ⟨others, rfl, (encode_ofList others).trans sameRest⟩
  · rintro ⟨others, characters, rfl⟩
    rw [characters, List.flatMap_cons, encode_ofList]
    rfl

end CsvSelect.Text.Utf8
