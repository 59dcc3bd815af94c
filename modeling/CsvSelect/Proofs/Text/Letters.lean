import CsvSelect.Query.Token
import CsvSelect.Text.Lexical

/-!
# ASCII letters

The classes of ASCII characters as ranges of codes. Taking a letter in lower case adds a constant to
its code, so facts about lower case are linear arithmetic on codes.
-/

namespace CsvSelect.Text

open Query

theorem isLower_iff (character : Char) :
    character.isLower = true ↔ 97 ≤ character.toNat ∧ character.toNat ≤ 122 := by
  change (decide (character.val ≥ 97) && decide (character.val ≤ 122)) = true ↔ _
  simp [UInt32.le_iff_toNat_le]

theorem isUpper_iff (character : Char) :
    character.isUpper = true ↔ 65 ≤ character.toNat ∧ character.toNat ≤ 90 := by
  change decide (character.val ≥ 65 ∧ character.val ≤ 90) = true ↔ _
  simp [UInt32.le_iff_toNat_le]

theorem isDigit_iff (character : Char) :
    character.isDigit = true ↔ 48 ≤ character.toNat ∧ character.toNat ≤ 57 := by
  simp [Char.isDigit, UInt32.le_iff_toNat_le]

theorem isAlpha_eq (character : Char) :
    character.isAlpha = (character.isUpper || character.isLower) := rfl

theorem isAlpha_iff (character : Char) :
    character.isAlpha = true ↔
      (65 ≤ character.toNat ∧ character.toNat ≤ 90) ∨
        (97 ≤ character.toNat ∧ character.toNat ≤ 122) := by
  rw [isAlpha_eq, Bool.or_eq_true, isUpper_iff, isLower_iff]

theorem isAlpha_eq_false_of_isDigit {character : Char} (digit : character.isDigit = true) :
    character.isAlpha = false := by
  rw [isDigit_iff] at digit
  rw [Bool.eq_false_iff, Ne, isAlpha_iff]
  omega

/-- Blanks lie outside the range of visible ASCII characters. -/
theorem toNat_of_isBlank {character : Char} (blank : isBlank character = true) :
    character.toNat ≤ 32 ∨ 133 ≤ character.toNat := by
  simp only [isBlank, Bool.or_eq_true, Bool.and_eq_true, decide_eq_true_eq, beq_iff_eq] at blank
  omega

theorem toNat_toLower (character : Char) :
    character.toLower.toNat =
      if character.isUpper then character.toNat + 32 else character.toNat := by
  by_cases upper : character.isUpper = true
  · have inside : character.val ≥ 65 ∧ character.val ≤ 90 := of_decide_eq_true upper
    have bound : character.val.toNat ≤ 90 := UInt32.le_iff_toNat_le.mp inside.2
    have lowered : character.toLower.val = character.val + 32 :=
      congrArg Char.val (dif_pos inside)
    change character.toLower.val.toNat = _
    rw [if_pos upper, lowered, UInt32.toNat_add]
    change (character.val.toNat + 32) % 2 ^ 32 = character.val.toNat + 32
    omega
  · have same : character.toLower = character :=
      dif_neg fun inside => upper (decide_eq_true inside)
    rw [if_neg upper, same]

/-- In lower case no letter is a capital. -/
theorem isUpper_toLower (character : Char) : character.toLower.isUpper = false := by
  rw [Bool.eq_false_iff, Ne, isUpper_iff, toNat_toLower]
  split
  · next upper =>
      rw [isUpper_iff] at upper
      omega
  · next notUpper => rwa [isUpper_iff] at notUpper

theorem isLower_toLower (character : Char) : character.toLower.isLower = character.isAlpha := by
  rw [Bool.eq_iff_iff, isLower_iff, isAlpha_eq, Bool.or_eq_true, isLower_iff, isUpper_iff,
    toNat_toLower]
  split
  · next upper =>
      rw [isUpper_iff] at upper
      omega
  · next notUpper =>
      rw [isUpper_iff] at notUpper
      omega

/-- Only a capital letter changes, and it becomes a small one. -/
theorem eq_of_toLower_eq {character lower : Char} (same : character.toLower = lower)
    (noLetter : lower.isLower = false) : character = lower := by
  have codes := toNat_toLower character
  rw [Bool.eq_false_iff, Ne, ← same, isLower_iff] at noLetter
  rw [← same, ← Char.toNat_inj]
  split at codes
  · next upper =>
      rw [isUpper_iff] at upper
      omega
  · exact codes.symm

theorem isWordCharacter_toLower (character : Char) :
    isWordCharacter character.toLower = isWordCharacter character := by
  have dollar : '$'.toNat = 36 := rfl
  have underscore : '_'.toNat = 95 := rfl
  rw [Bool.eq_iff_iff]
  simp only [isWordCharacter, Char.isAlphanum, isAlpha_eq, Bool.or_eq_true, beq_iff_eq,
    isLower_iff, isUpper_iff, isDigit_iff, ← Char.toNat_inj, toNat_toLower]
  split <;> omega

end CsvSelect.Text
