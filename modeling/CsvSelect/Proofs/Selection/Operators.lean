import Mathlib.Data.List.FinRange
import CsvSelect.Proofs.Selection.Faults

/-!
# The six operators

A statement with a single comparison is executed with each of the six operators. This file shows
that the operator decides about nothing but the order that a cell must have to the operand. Whether
the statement fails, and how, is the same for all six: the faults that the header shows do not
depend on the operator (`Table.fault?_comparisonQuery`), and neither does the mismatch of a cell. If
none fails, every row has an order to the operand, which exactly one of `<`, `=` and `>` asks for,
and the other three operators keep what one of these drops (`Table.execute_comparisonQuery`).
-/

namespace CsvSelect

open Query

namespace Query

namespace Operator

/-- An order satisfies exactly one of the strict operators. -/
theorem existsUnique_holds (order : Ordering) :
    ∃! operator, operator ∈ [less, equal, greater] ∧ operator.holds order = true := by
  cases order with
  | lt =>
      refine ⟨less, by decide, ?_⟩
      rintro (_ | _ | _ | _ | _ | _) <;> decide
  | eq =>
      refine ⟨equal, by decide, ?_⟩
      rintro (_ | _ | _ | _ | _ | _) <;> decide
  | gt =>
      refine ⟨greater, by decide, ?_⟩
      rintro (_ | _ | _ | _ | _ | _) <;> decide

/-- Orders on which all operators agree are the same. -/
theorem holds_eq_iff {order other : Ordering} :
    (∀ operator : Operator, operator.holds order = operator.holds other) ↔ order = other := by
  constructor
  · intro same
    have equal := same .equal
    have less := same .less
    revert equal less
    cases order <;> cases other <;> decide
  · rintro rfl operator
    rfl

theorem holds_notEqual (order : Ordering) : notEqual.holds order = !equal.holds order := rfl

theorem holds_greaterOrEqual (order : Ordering) :
    greaterOrEqual.holds order = !less.holds order := rfl

theorem holds_lessOrEqual (order : Ordering) :
    lessOrEqual.holds order = !greater.holds order := rfl

def token (operator : Operator) : Token where
  kind := .operation
  value := operator.text

theorem operator?_token (operator : Operator) : operator.token.operator? = some operator := by
  cases operator <;> decide

end Operator

/-- The comparison of the column with the operand. -/
def comparing (column operand : Token) (operator : Operator) : Condition :=
  ⟨column, operator.token, operand⟩

/-- The statement for the rows on which the comparison holds. -/
def comparisonQuery (source : Option Token) (column operand : Token) (operator : Operator) :
    Statement where
  projection := .all
  table := source
  clauses := [.condition (comparing column operand operator)]

end Query

/-- The positions of the normalised rows on which the condition holds, in order. -/
def Table.positionsOf (table : Table) (condition : Condition) :
    List (Fin table.normalize.rows.length) :=
  (List.finRange table.normalize.rows.length).filter fun position =>
    condition.holdsOn table table.normalize.rows[position]

/-- A list is filtered by filtering its positions. -/
theorem filter_eq_map_filter_finRange {Item : Type} (items : List Item) (keeps : Item → Bool) :
    items.filter keeps =
      ((List.finRange items.length).filter fun position => keeps items[position]).map
        fun position => items[position] := by
  calc items.filter keeps
      = ((List.finRange items.length).map fun position => items[position]).filter keeps := by
        congr 1
        exact (List.map_getElem_finRange items).symm
    _ = _ := List.filter_map

section

variable (table : Table) (source : Option Token) (column operand : Token)

theorem Filter.exists_compile_comparing {table : Table} {column : Token}
    (known : table.hasColumn column.value) (operator : Operator) :
    ∃ filter, compile table [.condition (comparing column operand operator)] = .ok filter := by
  rcases Option.isSome_iff_exists.mp known with ⟨index, found⟩
  have resolved : Comparison.resolve table (comparing column operand operator) =
      .ok ⟨column.value, index, operator, .ofToken operand⟩ :=
    Comparison.resolve_eq_ok_iff.mpr ⟨found, operator.operator?_token, rfl, rfl⟩
  exact ⟨_, compile_condition.mpr ⟨_, resolved, rfl⟩⟩

namespace Table

/-- The faults that the header shows are the same for all operators. -/
theorem fault?_comparisonQuery (operator other : Operator) :
    table.fault? (comparisonQuery source column operand operator) =
      table.fault? (comparisonQuery source column operand other) := by
  have columns : table.unknownColumn? (comparisonQuery source column operand operator) =
      table.unknownColumn? (comparisonQuery source column operand other) := rfl
  have named : (comparisonQuery source column operand operator).checkTable table.name =
      (comparisonQuery source column operand other).checkTable table.name := rfl
  simp only [fault?, columns, named]
  cases unknown : table.unknownColumn? (comparisonQuery source column operand other) with
  | some name => rfl
  | none =>
      have known : table.hasColumn column.value :=
        (unknownColumn?_eq_none_iff.mp unknown).2 (comparing column operand other)
          (List.mem_singleton_self _)
      rcases Filter.exists_compile_comparing operand known operator with ⟨filter, compiled⟩
      rcases Filter.exists_compile_comparing operand known other with ⟨otherFilter, otherCompiled⟩
      simp only [comparisonQuery, compiled, otherCompiled]

end Table

/-- The mismatch of the row, if there is one. The operator plays no part in it. -/
theorem mismatches_comparisonQuery (operator : Operator) (row : Row) :
    (comparisonQuery source column operand operator).mismatches table row =
      if (comparing column operand .equal).mismatchesOn table row then
        [(comparing column operand .equal).mismatch table row] else [] :=
  mismatchesAmong_singleton table row _ (comparing column operand operator)

theorem keeps_comparisonQuery (operator : Operator) (row : Row) :
    (comparisonQuery source column operand operator).keeps table row =
      (comparing column operand operator).holdsOn table row :=
  Bool.and_true _

/-- A row without a mismatch satisfies the operators that ask for the order of its cell. -/
theorem exists_order_of_no_mismatch {row : Row}
    (noMismatch : ¬(comparing column operand .equal).mismatchesOn table row) :
    ∃ order, ∀ operator,
      (comparing column operand operator).holdsOn table row = operator.holds order := by
  cases ordered : (comparing column operand .equal).order? table row with
  | none => simp [Condition.mismatchesOn, ordered] at noMismatch
  | some order =>
      refine ⟨order, ?_⟩
      intro operator
      have known : (comparing column operand operator).operation.operator? = some operator :=
        operator.operator?_token
      have same : (comparing column operand operator).order? table row = some order := ordered
      simp only [Condition.holdsOn, known, same]

namespace Table

/-- An accepted statement fails for the first mismatch or keeps the rows at its positions. -/
theorem execute_comparisonQuery_of_acceptedBy {operator : Operator}
    (accepted : (comparisonQuery source column operand operator).AcceptedBy table) :
    (table.execute (comparisonQuery source column operand operator)).1 =
      verdict
        (table.normalize.rows.flatMap
          ((comparisonQuery source column operand .equal).mismatches table))
        ((table.positionsOf (comparing column operand operator)).map
          fun position => table.normalize.rows[position]) := by
  have mismatches : (comparisonQuery source column operand operator).mismatches table =
      (comparisonQuery source column operand .equal).mismatches table := by
    funext row
    rw [mismatches_comparisonQuery, mismatches_comparisonQuery]
  have keeps : (comparisonQuery source column operand operator).keeps table =
      (comparing column operand operator).holdsOn table := by
    funext row
    exact keeps_comparisonQuery table source column operand operator row
  rw [execute_of_acceptedBy accepted, mismatches, keeps, filter_eq_map_filter_finRange]
  exact congrArg (verdict _) (List.map_id _)

/--
With all six operators the statement fails alike, or it never fails. In that case every row is kept
by exactly one of `<`, `=` and `>`, and `!=`, `>=` and `<=` keep the rows that `=`, `<` and `>`
drop.
-/
theorem execute_comparisonQuery :
    (∃ error, ∀ operator,
      (table.execute (comparisonQuery source column operand operator)).1 = .error error) ∨
    ((∀ operator, (table.execute (comparisonQuery source column operand operator)).1 =
      .ok ((table.positionsOf (comparing column operand operator)).map
        fun position => table.normalize.rows[position])) ∧
      ∀ position : Fin table.normalize.rows.length,
        (∃! operator, operator ∈ [Operator.less, .equal, .greater] ∧
          position ∈ table.positionsOf (comparing column operand operator)) ∧
        (position ∈ table.positionsOf (comparing column operand .notEqual) ↔
          position ∉ table.positionsOf (comparing column operand .equal)) ∧
        (position ∈ table.positionsOf (comparing column operand .greaterOrEqual) ↔
          position ∉ table.positionsOf (comparing column operand .less)) ∧
        (position ∈ table.positionsOf (comparing column operand .lessOrEqual) ↔
          position ∉ table.positionsOf (comparing column operand .greater))) := by
  cases found : table.fault? (comparisonQuery source column operand .equal) with
  | some fault =>
      left
      refine ⟨fault, ?_⟩
      intro operator
      apply execute_of_fault?
      rw [← found]
      exact table.fault?_comparisonQuery source column operand operator .equal
  | none =>
      have accepted (operator : Operator) :
          (comparisonQuery source column operand operator).AcceptedBy table := by
        apply fault?_eq_none_iff.mp
        rw [← found]
        exact table.fault?_comparisonQuery source column operand operator .equal
      have executed (operator : Operator) :=
        table.execute_comparisonQuery_of_acceptedBy source column operand (accepted operator)
      cases mismatches : table.normalize.rows.flatMap
          ((comparisonQuery source column operand .equal).mismatches table) with
      | cons mismatch others =>
          left
          refine ⟨mismatch, ?_⟩
          intro operator
          rw [executed, mismatches, verdict_cons]
      | nil =>
          right
          constructor
          · intro operator
            rw [executed, mismatches, verdict_nil]
          · intro position
            have noMismatch := List.flatMap_eq_nil_iff.mp mismatches table.normalize.rows[position]
              (List.getElem_mem _)
            rw [mismatches_comparisonQuery, ite_eq_right_iff] at noMismatch
            rcases exists_order_of_no_mismatch table column operand
              (fun mismatch => List.cons_ne_nil _ _ (noMismatch mismatch)) with ⟨order, holds⟩
            have kept (operator : Operator) :
                position ∈ table.positionsOf (comparing column operand operator) ↔
                  operator.holds order = true := by
              rw [positionsOf, List.mem_filter, holds]
              exact and_iff_right (List.mem_finRange position)
            simp only [kept]
            refine ⟨Operator.existsUnique_holds order, ?_, ?_, ?_⟩
            · rw [Operator.holds_notEqual, Bool.not_eq_true', Bool.not_eq_true]
            · rw [Operator.holds_greaterOrEqual, Bool.not_eq_true', Bool.not_eq_true]
            · rw [Operator.holds_lessOrEqual, Bool.not_eq_true', Bool.not_eq_true]

end Table

end

end CsvSelect
