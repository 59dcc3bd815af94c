import CsvSelect.Text.Lexical

/-!
# The integers that texts denote

Digits are read one after the other, and reading stops at the first number that exceeds the limit.
Since a further digit never makes a number smaller, it comes to the same to read all the digits and
to compare the number that they denote in the end (`natural?_eq_some_iff`). Leading zeros do not
matter.
-/

namespace CsvSelect.Text

theorem le_ofDigitChars (digits : List Char) (start : Nat) :
    start ≤ Nat.ofDigitChars 10 digits start := by
  rw [Nat.ofDigitChars_eq_ofDigitChars_zero]
  have scaled : start ≤ 10 ^ digits.length * start :=
    Nat.le_mul_of_pos_left start (Nat.pow_pos (by omega))
  omega

/-- The limit may as well be checked once, at the end. -/
theorem foldlM_appendDigit? {limit start : Nat} (small : start ≤ limit) (digits : List Char) :
    digits.foldlM (appendDigit? limit) start =
      if digits.all Char.isDigit ∧ Nat.ofDigitChars 10 digits start ≤ limit then
        some (Nat.ofDigitChars 10 digits start)
      else none := by
  induction digits generalizing start with
  | nil => simp [small]
  | cons digit digits ih =>
      rw [List.foldlM_cons, Nat.ofDigitChars_cons, List.all_cons]
      generalize longerEq : 10 * start + (digit.toNat - '0'.toNat) = longer
      have step : appendDigit? limit start digit =
          if digit.isDigit && longer ≤ limit then some longer else none := by
        rw [appendDigit?, longerEq]
      by_cases appended : digit.isDigit = true ∧ longer ≤ limit
      · have appends : appendDigit? limit start digit = some longer := by simp [step, appended]
        rw [appends, appended.1, Bool.true_and]
        exact ih appended.2
      · have stops : appendDigit? limit start digit = none := by simpa [step] using appended
        rw [stops, if_neg]
        · rfl
        · rintro ⟨all, bound⟩
          apply appended
          refine ⟨(Bool.and_eq_true_iff.mp all).1, ?_⟩
          exact Nat.le_trans (le_ofDigitChars digits longer) bound

theorem natural?_eq_some_iff {limit number : Nat} {digits : List Char} :
    natural? limit digits = some number ↔
      digits ≠ [] ∧ digits.all Char.isDigit ∧ Nat.ofDigitChars 10 digits 0 = number ∧
        number ≤ limit := by
  cases digits with
  | nil => simp [natural?]
  | cons digit digits =>
      rw [natural?, List.isEmpty_cons, if_neg Bool.false_ne_true,
        foldlM_appendDigit? (Nat.zero_le limit), Option.ite_none_right_eq_some, Option.some.injEq]
      constructor
      · rintro ⟨⟨all, bound⟩, rfl⟩
        exact ⟨List.cons_ne_nil _ _, all, rfl, bound⟩
      · rintro ⟨-, all, rfl, bound⟩
        exact ⟨⟨all, bound⟩, rfl⟩

/-- The integer that a text denotes is not beyond the greatest one. -/
theorem integer?_le {text : String} {value : Int} (read : integer? text = some value) :
    value ≤ integerMax := by
  have unsigned {digits : List Char} {value : Int}
      (read : (natural? integerMax.natAbs digits).map Int.ofNat = some value) :
      value ≤ integerMax := by
    rcases Option.map_eq_some_iff.mp read with ⟨number, found, rfl⟩
    have bound := (natural?_eq_some_iff.mp found).2.2.2
    simp only [integerMax, Int.ofNat_eq_natCast] at bound ⊢
    omega
  rw [integer?, integerOfChars?.eq_def] at read
  split at read
  · rcases Option.map_eq_some_iff.mp read with ⟨magnitude, found, rfl⟩
    rcases Option.bind_eq_some_iff.mp found with ⟨number, -, same⟩
    rcases Option.some.inj same with rfl
    simp only [integerMax]
    omega
  · exact unsigned read
  · exact unsigned read

/-- A text of digits denotes its number, if there is an integer that great. -/
theorem integer?_of_digits {text : String} (nonempty : text ≠ "")
    (digits : text.toList.all Char.isDigit) :
    integer? text =
      if (Nat.ofDigitChars 10 text.toList 0 : Int) ≤ integerMax then
        some (Nat.ofDigitChars 10 text.toList 0 : Int)
      else none := by
  have unsigned : integer? text = (natural? integerMax.natAbs text.toList).map Int.ofNat := by
    rw [integer?, integerOfChars?.eq_def]
    split
    · next spelled => simp [spelled] at digits
    · next spelled => simp [spelled] at digits
    · rfl
  have characters : text.toList ≠ [] := by simpa using nonempty
  rw [unsigned]
  split
  · next bound =>
      have read : natural? integerMax.natAbs text.toList =
          some (Nat.ofDigitChars 10 text.toList 0) :=
        natural?_eq_some_iff.mpr ⟨characters, digits, rfl, Int.ofNat_le.mp bound⟩
      rw [read]
      rfl
  · next beyond =>
      rw [Option.map_eq_none_iff, Option.eq_none_iff_forall_ne_some]
      intro number read
      rcases natural?_eq_some_iff.mp read with ⟨-, -, rfl, bound⟩
      exact beyond (Int.ofNat_le.mpr bound)

end CsvSelect.Text
