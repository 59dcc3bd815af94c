import CsvSelect.Proofs.Text.Letters
import CsvSelect.Text.Casing

/-!
# Lower case and the case of ASCII letters

Taking a text in lower case changes its ASCII letters and the capitals outside ASCII. Comparing
texts without regard to case looks at ASCII letters only. So a text and its lower case are the same
in this sense exactly if the text has no capital outside ASCII (`sameIgnoringCase_lowercase_iff`),
and a text that has one is not the same as the lower case of any text.

The second half rests on a fact about the table of case mappings: what a run of capitals is moved to
is no capital. Runs lie apart from the characters that others are moved to, except where every
second character is a capital. This is checked once, run against run.
-/

namespace CsvSelect.Text

open Casing

/-- The character has another lower case and lies outside ASCII. -/
def isForeignCapital (character : Char) : Bool :=
  0x80 ≤ character.toNat && lowerCharacter character != [character]

/-- The text has a capital outside ASCII. -/
def hasForeignCapital (text : String) : Bool :=
  text.toList.any isForeignCapital

theorem isForeignCapital_eq_false_iff {character : Char} :
    isForeignCapital character = false ↔
      character.toNat < 0x80 ∨ lowerCharacter character = [character] := by
  rw [isForeignCapital, Bool.and_eq_false_iff, decide_eq_false_iff_not, Nat.not_le,
    bne_eq_false_iff_eq]

/-! ### The table of case mappings -/

namespace Casing

/-- The code that the run moves the code to. -/
def Run.move (run : Run) (code : Nat) : Nat :=
  (code + run.offset).toNat

/--
The run moves none of its characters into the other run: they come to lie before or behind it, or
between its characters, which are two apart.
-/
def Run.avoids (run other : Run) : Bool :=
  Nat.blt (run.move run.last) other.first || Nat.blt other.last (run.move run.first) ||
    (other.step == 2 && (run.step == 2 || run.first == run.last) &&
      (run.move run.first + other.first) % 2 == 1)

/-- The run moves its characters to characters other than U+0130. -/
def Run.Proper (run : Run) : Prop :=
  0 < run.move run.first ∧
    (run.move run.last < 0xD800 ∨ 0xDFFF < run.move run.first ∧ run.move run.last < 0x110000) ∧
    (run.move run.last < 0x130 ∨ 0x130 < run.move run.first)

instance (run : Run) : Decidable run.Proper :=
  inferInstanceAs (Decidable (_ ∧ _ ∧ _))

theorem lowerRuns_avoid : (lowerRuns.all fun run => lowerRuns.all run.avoids) = true := by
  decide +kernel

theorem lowerRuns_proper : ∀ run ∈ lowerRuns, run.Proper := by
  decide +kernel

theorem Run.contains_iff {run : Run} {code : Nat} :
    run.contains code = true ↔
      run.first ≤ code ∧ code ≤ run.last ∧ (code - run.first) % run.step = 0 := by
  simp [contains, and_assoc]

theorem Run.not_contains_move {run other : Run} (proper : run.Proper)
    (avoids : run.avoids other = true) {code : Nat} (inside : run.contains code = true) :
    other.contains (run.move code) = false := by
  rw [Bool.eq_false_iff, ne_eq, contains_iff]
  simp only [Run.avoids, Run.Proper, move, Bool.or_eq_true, Bool.and_eq_true, beq_iff_eq,
    Nat.blt_eq] at avoids proper ⊢
  rw [contains_iff] at inside
  rintro ⟨lower, upper, spaced⟩
  rcases avoids with (before | behind) | ⟨⟨otherStep, step | single⟩, parity⟩
  · omega
  · omega
  · rw [otherStep] at spaced
    rw [step] at inside
    omega
  · rw [otherStep] at spaced
    omega

/-- A code that a run moves stays where it was moved. -/
theorem moveBy_lowerRuns_move {run : Run} (mem : run ∈ lowerRuns) {code : Nat}
    (inside : run.contains code = true) : moveBy lowerRuns (run.move code) = run.move code := by
  have missed : lowerRuns.find? (·.contains (run.move code)) = none := by
    rw [List.find?_eq_none]
    intro other otherMem
    have avoids := List.all_eq_true.mp (List.all_eq_true.mp lowerRuns_avoid run mem) other otherMem
    simp [Run.not_contains_move (lowerRuns_proper run mem) avoids inside]
  rw [moveBy, missed]

theorem Run.toNat_ofNat_move {run : Run} (proper : run.Proper) {code : Nat}
    (inside : run.contains code = true) :
    (Char.ofNat (run.move code)).toNat = run.move code ∧ run.move code ≠ 0x130 := by
  rw [contains_iff] at inside
  simp only [Run.Proper, move] at proper ⊢
  have valid : ((code + run.offset).toNat).isValidChar := by
    unfold Nat.isValidChar
    omega
  constructor
  · rw [Char.ofNat, dif_pos valid]
    rfl
  · omega

end Casing

/-! ### Characters -/

theorem toLower_of_foreign {character : Char} (foreign : 0x80 ≤ character.toNat) :
    character.toLower = character := by
  have small : ¬character.isUpper = true := by
    rw [isUpper_iff]
    omega
  rw [← Char.toNat_inj, toNat_toLower, if_neg small]

theorem toNat_toLower_lt {character : Char} (ascii : character.toNat < 0x80) :
    character.toLower.toNat < 0x80 := by
  rw [toNat_toLower]
  split
  · next upper =>
      rw [isUpper_iff] at upper
      omega
  · exact ascii

/-- A lower case is no capital outside ASCII. -/
theorem isForeignCapital_of_mem_lowerCharacter {character lower : Char}
    (mem : lower ∈ lowerCharacter character) : isForeignCapital lower = false := by
  rw [lowerCharacter] at mem
  split at mem
  · next ascii =>
      rcases List.mem_singleton.mp mem with rfl
      exact isForeignCapital_eq_false_iff.mpr (Or.inl (toNat_toLower_lt ascii))
  · split at mem
    · rcases List.mem_cons.mp mem with rfl | mem
      · decide
      · rcases List.mem_singleton.mp mem with rfl
        decide
    · next foreign notDotted =>
        rw [List.mem_singleton] at mem
        cases found : lowerRuns.find? (·.contains character.toNat) with
        | none =>
            have same : lower = character := by
              rw [mem, moveBy, found, Char.ofNat_toNat]
            apply isForeignCapital_eq_false_iff.mpr
            right
            rw [same, lowerCharacter, if_neg foreign, if_neg notDotted, moveBy, found,
              Char.ofNat_toNat]
        | some run =>
            have inRuns := List.mem_of_find?_eq_some found
            have inside := List.find?_some found
            have moved : lower = Char.ofNat (run.move character.toNat) := by
              rw [mem, moveBy, found]
              rfl
            rcases Run.toNat_ofNat_move (lowerRuns_proper run inRuns) inside with ⟨code, other⟩
            rw [← moved] at code
            rw [isForeignCapital_eq_false_iff]
            by_cases ascii : lower.toNat < 0x80
            · exact Or.inl ascii
            · right
              rw [lowerCharacter, if_neg ascii, if_neg (code ▸ other), code,
                moveBy_lowerRuns_move inRuns inside, moved]

/-- Apart from capitals outside ASCII the two ways of taking a character in lower case agree. -/
theorem lowerCharacter_of_not_isForeignCapital {character : Char}
    (plain : isForeignCapital character = false) :
    lowerCharacter character = [character.toLower] := by
  by_cases ascii : character.toNat < 0x80
  · rw [lowerCharacter, if_pos ascii]
  · rw [toLower_of_foreign (Nat.not_lt.mp ascii)]
    exact (isForeignCapital_eq_false_iff.mp plain).resolve_left ascii

theorem isForeignCapital_lowerSigma (before after : List Char) :
    isForeignCapital (lowerSigma before after) = false := by
  rw [lowerSigma]
  split
  · decide
  · decide

/-! ### Texts -/

/-- Only what was there before can be a capital outside ASCII. -/
theorem isForeignCapital_of_mem_lowerFrom {before lowered characters : List Char} {lower : Char}
    (mem : lower ∈ lowerFrom before lowered characters) :
    lower ∈ lowered ∨ isForeignCapital lower = false := by
  induction characters generalizing before lowered with
  | nil => exact Or.inl (List.mem_reverse.mp mem)
  | cons character after ih =>
      rw [lowerFrom] at mem
      rcases ih mem with here | later
      · rcases List.mem_append.mp here with here | earlier
        · right
          rw [List.mem_reverse] at here
          split at here
          · rcases List.mem_singleton.mp here with rfl
            exact isForeignCapital_lowerSigma before after
          · exact isForeignCapital_of_mem_lowerCharacter here
        · exact Or.inl earlier
      · exact Or.inr later

theorem isForeignCapital_of_mem_lowercase {text : String} {lower : Char}
    (mem : lower ∈ (lowercase text).toList) : isForeignCapital lower = false := by
  rw [lowercase, String.toList_ofList] at mem
  exact (isForeignCapital_of_mem_lowerFrom mem).resolve_left List.not_mem_nil

theorem lowerFrom_of_plain {characters : List Char}
    (plain : ∀ character ∈ characters, isForeignCapital character = false)
    (before lowered : List Char) :
    lowerFrom before lowered characters = lowered.reverse ++ characters.map Char.toLower := by
  induction characters generalizing before lowered with
  | nil => simp [lowerFrom]
  | cons character after ih =>
      have here := plain character List.mem_cons_self
      have noSigma : character.toNat ≠ 0x3A3 := by
        intro sigma
        have same : character = Char.ofNat 0x3A3 := Char.toNat_inj.mp sigma
        rw [same] at here
        exact absurd here (by decide)
      rw [lowerFrom, if_neg noSigma, lowerCharacter_of_not_isForeignCapital here,
        ih fun other mem => plain other (List.mem_cons_of_mem _ mem)]
      simp

theorem hasForeignCapital_eq_false_iff {text : String} :
    hasForeignCapital text = false ↔
      ∀ character ∈ text.toList, isForeignCapital character = false := by
  simp [hasForeignCapital]

/-- Without capitals outside ASCII a text differs from its lower case in ASCII letters only. -/
theorem toList_lowercase_of_plain {text : String} (plain : hasForeignCapital text = false) :
    (lowercase text).toList = text.toList.map Char.toLower := by
  rw [lowercase, String.toList_ofList, lowerFrom_of_plain (hasForeignCapital_eq_false_iff.mp plain)]
  rfl

theorem toLower_toLower (character : Char) : character.toLower.toLower = character.toLower := by
  have small : ¬character.toLower.isUpper = true := Bool.eq_false_iff.mp (isUpper_toLower character)
  rw [← Char.toNat_inj, toNat_toLower character.toLower, if_neg small]

/-- A text with a capital outside ASCII is like no lower case. -/
theorem not_hasForeignCapital_of_sameIgnoringCase {text other : String}
    (same : sameIgnoringCase (lowercase other) text = true) : hasForeignCapital text = false := by
  rw [hasForeignCapital_eq_false_iff]
  intro character mem
  rw [sameIgnoringCase, beq_iff_eq] at same
  by_cases ascii : character.toNat < 0x80
  · exact isForeignCapital_eq_false_iff.mpr (Or.inl ascii)
  · have kept := toLower_of_foreign (Nat.not_lt.mp ascii)
    have folded : character ∈ text.toList.map Char.toLower :=
      List.mem_map.mpr ⟨character, mem, kept⟩
    rw [← same] at folded
    rcases List.mem_map.mp folded with ⟨lower, lowerMem, lowers⟩
    have unchanged : lower.toLower = lower := by
      apply toLower_of_foreign
      apply Nat.not_lt.mp
      intro small
      have stillAscii := toNat_toLower_lt small
      rw [lowers] at stillAscii
      exact ascii stillAscii
    rw [← lowers, unchanged]
    exact isForeignCapital_of_mem_lowercase lowerMem

theorem sameIgnoringCase_lowercase_iff {text : String} :
    sameIgnoringCase (lowercase text) text = true ↔ hasForeignCapital text = false := by
  constructor
  · exact not_hasForeignCapital_of_sameIgnoringCase
  · intro plain
    have twice : (Char.toLower ∘ Char.toLower) = Char.toLower := funext toLower_toLower
    rw [sameIgnoringCase, toList_lowercase_of_plain plain, List.map_map, twice, beq_self_eq_true]

end CsvSelect.Text
