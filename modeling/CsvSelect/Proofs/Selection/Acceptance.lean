import CsvSelect.Selection

/-!
# Accepted statements

A table accepts a statement if it has every column that the statement names, has the name after
`FROM`, and if the clauses alternate: conditions at even positions, each with a comparison, and
connectives at odd positions, all of them the same. This file shows that exactly these statements
pass the checks that precede the rows (`acceptedBy_iff`), and that the filter of accepted clauses
has one step for each clause (`compile_eq_ok_iff`).
-/

namespace CsvSelect

open Query

/-- The way of joining conditions that the clause asks for. -/
def Query.Clause.connective? : Clause → Option Connective
  | .condition _ => none
  | .connective word => word.connective?

/-- The way of joining conditions that comes first among the clauses. -/
def Query.joinedBy? (clauses : List Clause) : Option Connective :=
  clauses.findSome? Clause.connective?

/--
The clause may stand at this position, counted from zero, among clauses that are joined in one way.
-/
def Query.Clause.FitsAt (table : Table) (joined : Option Connective) (position : Nat) :
    Clause → Prop
  | .condition comparison =>
      position % 2 = 0 ∧ table.hasColumn comparison.column.value ∧
        comparison.operation.operator?.isSome
  | .connective word => position % 2 = 1 ∧ word.connective?.isSome ∧ word.connective? = joined

/-- The table has the columns and the name that the statement asks for, and the clauses fit. -/
structure Query.Statement.AcceptedBy (statement : Statement) (table : Table) : Prop where
  items : ∀ item ∈ statement.projection.named, table.hasColumn item.value
  named : ∃ name, statement.table = some name ∧ name.value = table.name
  clauses : ∀ entry ∈ statement.clauses.zipIdx,
    entry.1.FitsAt table (joinedBy? statement.clauses) entry.2

@[simp]
theorem Query.joinedBy?_condition (condition : Condition) (clauses : List Clause) :
    joinedBy? (.condition condition :: clauses) = joinedBy? clauses := rfl

theorem Query.joinedBy?_connective (word : Token) (clauses : List Clause) :
    joinedBy? (.connective word :: clauses) = word.connective?.or (joinedBy? clauses) := by
  cases known : word.connective? <;> simp [joinedBy?, Clause.connective?, known]

theorem Comparison.resolve_eq_ok_iff {table : Table} {condition : Condition}
    {comparison : Comparison} :
    Comparison.resolve table condition = .ok comparison ↔
      table.columnIndex? condition.column.value = some comparison.index ∧
        condition.operation.operator? = some comparison.operator ∧
          comparison.column = condition.column.value ∧
            comparison.operand = .ofToken condition.operand := by
  rcases comparison with ⟨column, index, operator, operand⟩
  cases found : table.columnIndex? condition.column.value with
  | none => simp [resolve, found]
  | some foundIndex =>
      cases foundOperator : condition.operation.operator? with
      | none => simp [resolve, found, foundOperator]
      | some known =>
          simp only [resolve, found, foundOperator, Except.ok.injEq, Comparison.mk.injEq,
            Option.some.injEq]
          constructor
          · rintro ⟨rfl, rfl, rfl, rfl⟩
            exact ⟨rfl, rfl, rfl, rfl⟩
          · rintro ⟨rfl, rfl, rfl, rfl⟩
            exact ⟨rfl, rfl, rfl, rfl⟩

/-- The step that the clause asks for, if its column and its comparison are known. -/
def Query.Clause.step? (table : Table) : Clause → Option Step
  | .condition comparison =>
      match Comparison.resolve table comparison with
      | .ok resolved => some (.compare resolved)
      | .error _ => none
  | .connective word => word.connective?.map .join

theorem Query.Clause.step?_condition {table : Table} {condition : Condition}
    {comparison : Comparison} (resolved : Comparison.resolve table condition = .ok comparison) :
    (Clause.condition condition).step? table = some (.compare comparison) := by
  simp only [step?, resolved]

theorem Query.Clause.step?_connective {table : Table} {word : Token} {connective : Connective}
    (known : word.connective? = some connective) :
    (Clause.connective word).step? table = some (.join connective) := by
  rw [step?, known, Option.map_some]

namespace Filter

theorem compile_condition {table : Table} {condition : Condition} {clauses : List Clause}
    {joined : Option Connective} {steps filter : List Step} :
    compileCondition table joined steps (.condition condition :: clauses) = .ok filter ↔
      ∃ comparison, Comparison.resolve table condition = .ok comparison ∧
        compileConnective table joined (.compare comparison :: steps) clauses = .ok filter := by
  rw [compileCondition]
  cases Comparison.resolve table condition <;> simp

theorem compile_connective {table : Table} {word : Token} {clauses : List Clause}
    {joined : Option Connective} {steps filter : List Step} :
    compileConnective table joined steps (.connective word :: clauses) = .ok filter ↔
      ∃ connective, word.connective? = some connective ∧ joined.or (some connective) = connective ∧
        compileCondition table (some connective) (.join connective :: steps) clauses =
          .ok filter := by
  rw [compileConnective]
  cases word.connective? with
  | none => simp
  | some connective =>
      cases joined with
      | none => simp
      | some earlier =>
          by_cases same : earlier = connective
          · simp [same]
          · simp [same]

theorem fitsAt_condition_iff {table : Table} {condition : Condition} {joined : Option Connective}
    {position : Nat} (even : position % 2 = 0) :
    (Clause.condition condition).FitsAt table joined position ↔
      ∃ comparison, Comparison.resolve table condition = .ok comparison := by
  simp only [Clause.FitsAt, even, true_and, Table.hasColumn, Option.isSome_iff_exists]
  constructor
  · rintro ⟨⟨index, found⟩, operator, known⟩
    exact ⟨⟨_, index, operator, _⟩, Comparison.resolve_eq_ok_iff.mpr ⟨found, known, rfl, rfl⟩⟩
  · rintro ⟨comparison, resolved⟩
    rcases Comparison.resolve_eq_ok_iff.mp resolved with ⟨found, known, -, -⟩
    exact ⟨⟨_, found⟩, _, known⟩

/--
Clauses compile if each of them fits where it stands: the first of them at an even position if a
condition is due, and at an odd position if a connective is due.
-/
theorem compile_from (table : Table) (clauses : List Clause) (joined : Option Connective)
    (steps filter : List Step) (position : Nat) :
    (position % 2 = 0 →
      (compileCondition table joined steps clauses = .ok filter ↔
        (∀ entry ∈ clauses.zipIdx position,
          entry.1.FitsAt table (joined.or (joinedBy? clauses)) entry.2) ∧
        filter = steps.reverse ++ clauses.filterMap (Clause.step? table))) ∧
    (position % 2 = 1 →
      (compileConnective table joined steps clauses = .ok filter ↔
        (∀ entry ∈ clauses.zipIdx position,
          entry.1.FitsAt table (joined.or (joinedBy? clauses)) entry.2) ∧
        filter = steps.reverse ++ clauses.filterMap (Clause.step? table))) := by
  induction clauses generalizing joined steps position with
  | nil => simp [compileCondition, compileConnective, eq_comm]
  | cons clause clauses ih =>
      simp only [List.zipIdx_cons, List.mem_cons, forall_eq_or_imp]
      constructor
      · intro even
        cases clause with
        | connective word => simp [compileCondition, Clause.FitsAt, even]
        | condition condition =>
            have later := fun steps => (ih joined steps (position + 1)).2 (by omega)
            rw [compile_condition, fitsAt_condition_iff even, joinedBy?_condition]
            constructor
            · rintro ⟨comparison, resolved, compiled⟩
              rcases (later _).mp compiled with ⟨fits, rfl⟩
              exact ⟨⟨⟨comparison, resolved⟩, fits⟩, by simp [Clause.step?_condition resolved]⟩
            · rintro ⟨⟨⟨comparison, resolved⟩, fits⟩, rfl⟩
              exact ⟨comparison, resolved,
                (later _).mpr ⟨fits, by simp [Clause.step?_condition resolved]⟩⟩
      · intro odd
        cases clause with
        | condition condition => simp [compileConnective, Clause.FitsAt, odd]
        | connective word =>
            have later := fun joined steps => (ih joined steps (position + 1)).1 (by omega)
            rw [compile_connective, joinedBy?_connective]
            constructor
            · rintro ⟨connective, known, same, compiled⟩
              rcases (later _ _).mp compiled with ⟨fits, rfl⟩
              rw [known, ← Option.or_assoc, same]
              exact ⟨⟨⟨odd, by simp [known], by simp [known]⟩, fits⟩,
                by simp [Clause.step?_connective known]⟩
            · rintro ⟨⟨⟨-, isKnown, same⟩, fits⟩, rfl⟩
              rcases Option.isSome_iff_exists.mp isKnown with ⟨connective, known⟩
              rw [known, ← Option.or_assoc] at same fits
              have kept : joined.or (some connective) = some connective := by
                cases joined with
                | none => rfl
                | some earlier => exact same.symm
              rw [kept] at fits
              exact ⟨connective, known, kept,
                (later _ _).mpr ⟨fits, by simp [Clause.step?_connective known]⟩⟩

/-- Clauses compile exactly if each of them fits; each has one step in the filter. -/
theorem compile_eq_ok_iff {table : Table} {clauses : List Clause} {filter : Filter} :
    compile table clauses = .ok filter ↔
      (∀ entry ∈ clauses.zipIdx, entry.1.FitsAt table (joinedBy? clauses) entry.2) ∧
        filter = clauses.filterMap (Clause.step? table) := by
  simpa [compile] using (compile_from table clauses none [] filter 0).1 rfl

end Filter

theorem Table.unknownColumn?_eq_none_iff {table : Table} {statement : Statement} :
    table.unknownColumn? statement = none ↔
      (∀ item ∈ statement.projection.named, table.hasColumn item.value) ∧
        ∀ condition ∈ statement.conditions, table.hasColumn condition.column.value := by
  simp only [unknownColumn?, List.find?_eq_none, List.mem_append, List.mem_map, Bool.not_eq_true',
    Bool.not_eq_false]
  constructor
  · intro known
    exact ⟨fun item mem => known _ (Or.inl ⟨item, mem, rfl⟩),
      fun condition mem => known _ (Or.inr ⟨condition, mem, rfl⟩)⟩
  · rintro ⟨items, conditions⟩ name (⟨item, mem, rfl⟩ | ⟨condition, mem, rfl⟩)
    · exact items item mem
    · exact conditions condition mem

theorem Query.Statement.checkTable_eq_ok_iff {statement : Statement} {name : String} :
    statement.checkTable name = .ok () ↔
      ∃ token, statement.table = some token ∧ token.value = name := by
  cases found : statement.table with
  | none => simp [checkTable, found]
  | some token =>
      by_cases same : token.value = name <;> simp [checkTable, found, same]

theorem Query.Statement.mem_conditions {statement : Statement} {condition : Condition} :
    condition ∈ statement.conditions ↔ .condition condition ∈ statement.clauses := by
  simp only [conditions, List.mem_filterMap]
  constructor
  · rintro ⟨clause, mem, same⟩
    cases clause with
    | condition comparison => exact Option.some.inj same ▸ mem
    | connective word => simp [Clause.condition?] at same
  · intro mem
    exact ⟨_, mem, rfl⟩

/-- Accepted statements are those that pass all checks before the first row is seen. -/
theorem acceptedBy_iff {statement : Statement} {table : Table} :
    statement.AcceptedBy table ↔
      table.unknownColumn? statement = none ∧ statement.checkTable table.name = .ok () ∧
        ∃ filter, Filter.compile table statement.clauses = .ok filter := by
  rw [Table.unknownColumn?_eq_none_iff, Statement.checkTable_eq_ok_iff]
  constructor
  · intro accepted
    refine ⟨⟨accepted.items, ?_⟩, accepted.named, _,
      Filter.compile_eq_ok_iff.mpr ⟨accepted.clauses, rfl⟩⟩
    intro condition mem
    rcases List.mem_iff_getElem.mp (Statement.mem_conditions.mp mem) with ⟨index, bound, same⟩
    have fits := accepted.clauses (statement.clauses[index], index)
      (List.mk_mem_zipIdx_iff_getElem?.mpr (List.getElem?_eq_getElem bound))
    rw [same] at fits
    exact fits.2.1
  · rintro ⟨⟨items, -⟩, named, filter, compiled⟩
    exact ⟨items, named, (Filter.compile_eq_ok_iff.mp compiled).1⟩

end CsvSelect
