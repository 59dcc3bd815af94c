import CsvSelect.Proofs.Selection.Operators
import CsvSelect.Proofs.Text.Integers

/-!
# Numerals of digits

A cell that denotes an integer is compared with a numeral that consists of digits. If there is an
integer as great as the number that the digits denote, the cell and the numeral are compared as
integers. Otherwise the numeral is greater than every cell can be, and the comparison should never
put a cell anywhere but before it. But then the two are compared as texts, and the answer is that of
integers only if the cell comes before the numeral as a text, too (`Comparison.evaluate_digits`).
So `2` is not found to be less than `10000000000000000000`.
-/

namespace CsvSelect

open Text Query

namespace Query.Token

/-- The token is a numeral without a sign, a fraction or an exponent. -/
structure IsDigits (token : Token) : Prop where
  kind : token.kind = .numeric
  nonempty : token.value ≠ ""
  digits : token.value.toList.all Char.isDigit

/-- The number that the digits of the token denote. -/
def number (token : Token) : Nat :=
  Nat.ofDigitChars 10 token.value.toList 0

end Query.Token

variable {token : Token} {cell : String} {value : Int}

theorem Operand.ofToken_of_isDigits (numeral : token.IsDigits) :
    ofToken token =
      if (token.number : Int) ≤ integerMax then .integer token.number
      else .numeral token.value := by
  have read : integer? token.value =
      if (token.number : Int) ≤ integerMax then some (token.number : Int) else none :=
    integer?_of_digits numeral.nonempty numeral.digits
  rw [ofToken, if_pos numeral.kind, read]
  by_cases inside : (token.number : Int) ≤ integerMax
  · rw [if_pos inside, if_pos inside]
  · rw [if_neg inside, if_neg inside]

/-- How a cell stands to digits, as numbers if it can be and otherwise as texts. -/
theorem Operand.order?_of_isDigits (numeral : token.IsDigits) (read : integer? cell = some value) :
    (ofToken token).order? cell =
      some (if (token.number : Int) ≤ integerMax then compare value token.number
        else compare cell token.value) := by
  rw [ofToken_of_isDigits numeral]
  split <;> rw [order?, read, Option.map_some]

/-- No cell is as great as a number beyond the greatest integer. -/
theorem compare_of_beyond {number : Nat} (read : integer? cell = some value)
    (beyond : ¬(number : Int) ≤ integerMax) : compare value (number : Int) = .lt := by
  rw [compare_lt_iff_lt]
  exact (integer?_le read).trans_lt (Int.not_le.mp beyond)

namespace Comparison

variable {table : Table} {condition : Condition} {comparison : Comparison} {row : Row}

/--
The comparison of an integer with digits succeeds. It compares the numbers if the digits denote one
up to the greatest integer. Beyond that it compares the texts, which gives the same answer with
every operator exactly if the cell comes first as a text.
-/
theorem evaluate_digits (resolved : resolve table condition = .ok comparison)
    (numeral : condition.operand.IsDigits) (stored : row[comparison.index]? = some cell)
    (read : integer? cell = some value) :
    comparison.evaluate row =
        .ok (comparison.operator.holds
          (if (condition.operand.number : Int) ≤ integerMax then
            compare value condition.operand.number
          else compare cell condition.operand.value)) ∧
      ((∀ operator, { comparison with operator }.evaluate row =
          .ok (operator.holds (compare value condition.operand.number))) ↔
        (condition.operand.number : Int) ≤ integerMax ∨
          compare cell condition.operand.value = .lt) := by
  rcases resolve_eq_ok_iff.mp resolved with ⟨-, -, -, operand⟩
  have found : row.getD comparison.index "" = cell := by
    rw [List.getD_eq_getElem?_getD, stored, Option.getD_some]
  have evaluated (operator : Operator) : { comparison with operator }.evaluate row =
      .ok (operator.holds
        (if (condition.operand.number : Int) ≤ integerMax then
          compare value condition.operand.number
        else compare cell condition.operand.value)) := by
    simp only [evaluate, found, operand, Operand.order?_of_isDigits numeral read]
  refine ⟨evaluated comparison.operator, ?_⟩
  simp only [evaluated, Except.ok.injEq, Operator.holds_eq_iff]
  by_cases inside : (condition.operand.number : Int) ≤ integerMax
  · simp [inside]
  · simp [inside, compare_of_beyond read inside]

/-- The size is less than the number of these digits. -/
def lessThan (digits : String) : Condition :=
  comparing { kind := .identifier, value := "size" } { kind := .numeric, value := digits } .less

theorem resolve_lessThan (digits : String) :
    resolve (.singleColumn ["2"]) (lessThan digits) =
      .ok ⟨"size", 0, .less, .ofToken { kind := .numeric, value := digits }⟩ := by
  have found : (Table.singleColumn ["2"]).columnIndex? "size" = some 0 := by decide
  exact resolve_eq_ok_iff.mpr ⟨found, Operator.less.operator?_token, rfl, rfl⟩

/-- Nineteen digits are compared with `2` as a number, but twenty digits as a text. -/
theorem evaluate_lessThan :
    (∃ comparison, resolve (.singleColumn ["2"]) (lessThan "1000000000000000000") = .ok comparison ∧
      comparison.evaluate ["2"] = .ok true) ∧
    ∃ comparison, resolve (.singleColumn ["2"]) (lessThan "10000000000000000000") = .ok comparison ∧
      comparison.evaluate ["2"] = .ok false := by
  have stored : (["2"] : Row)[0]? = some "2" := rfl
  have two : integer? "2" = some 2 := by decide
  constructor
  · refine ⟨_, resolve_lessThan _, ?_⟩
    have evaluated := evaluate_digits (resolve_lessThan "1000000000000000000")
      ⟨rfl, by decide, by decide⟩ stored two
    exact evaluated.1
  · refine ⟨_, resolve_lessThan _, ?_⟩
    have evaluated := evaluate_digits (resolve_lessThan "10000000000000000000")
      ⟨rfl, by decide, by decide⟩ stored two
    exact evaluated.1

/-- An integer that is not found to be less than a number beyond all integers. -/
theorem evaluate_beyond :
    ¬∀ (table : Table) (condition : Condition) (comparison : Comparison) (row : Row) (cell : String)
      (value : Int), resolve table condition = .ok comparison → condition.operand.IsDigits →
        row[comparison.index]? = some cell → integer? cell = some value →
          comparison.evaluate row =
            .ok (comparison.operator.holds (compare value condition.operand.number)) := by
  intro compared
  have evaluated := compared _ _ _ ["2"] "2" 2 (resolve_lessThan "10000000000000000000")
    ⟨rfl, by decide, by decide⟩ rfl (by decide)
  revert evaluated
  decide

end Comparison

end CsvSelect
