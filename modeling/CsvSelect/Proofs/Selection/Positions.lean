import CsvSelect.Proofs.Query.Rendering
import CsvSelect.Session

/-!
# Executing without positions

The positions of tokens play no part in executing a statement either. Every check and the
projection come to the same for a statement and for the statement without positions
(`Statement.bare`), and so does the whole execution (`Table.execute_bare`). A query is therefore
answered by what its text means apart from positions (`Table.query_of_parse`).
-/

namespace CsvSelect

open Query

theorem Table.unknownColumn?_bare (table : Table) (statement : Statement) :
    table.unknownColumn? statement.bare = table.unknownColumn? statement := by
  have items : statement.bare.projection.named.map Token.value =
      statement.projection.named.map Token.value := by
    cases projection : statement.projection <;>
      simp [Statement.bare, projection, Projection.bare, Projection.named, Token.bare]
  rw [unknownColumn?, items, Statement.conditions_bare, List.map_map]
  rfl

theorem Query.Statement.checkTable_bare (statement : Statement) (name : String) :
    statement.bare.checkTable name = statement.checkTable name := by
  cases found : statement.table <;> simp [checkTable, bare, found, Token.bare]

theorem Filter.compile_bare (table : Table) (clauses : List Clause) :
    compile table (clauses.map Clause.bare) = compile table clauses := by
  suffices general : ∀ joined steps,
      compileCondition table joined steps (clauses.map Clause.bare) =
          compileCondition table joined steps clauses ∧
        compileConnective table joined steps (clauses.map Clause.bare) =
          compileConnective table joined steps clauses from
    (general none []).1
  induction clauses with
  | nil =>
      intro joined steps
      exact ⟨rfl, rfl⟩
  | cons clause clauses ih =>
      intro joined steps
      cases clause with
      | condition condition =>
          have resolved : Comparison.resolve table condition.bare =
              Comparison.resolve table condition := rfl
          constructor
          · rw [List.map_cons, Clause.bare, compileCondition, compileCondition, resolved]
            cases Comparison.resolve table condition with
            | error error => rfl
            | ok comparison => exact (ih _ _).2
          · rw [List.map_cons, Clause.bare, compileConnective, compileConnective]
      | connective word =>
          have known : word.bare.connective? = word.connective? := rfl
          constructor
          · rw [List.map_cons, Clause.bare, compileCondition, compileCondition]
          · rw [List.map_cons, Clause.bare, compileConnective, compileConnective, known]
            cases word.connective? with
            | none => rfl
            | some connective => simp only [(ih _ _).1]

namespace Table

theorem project_bare (table : Table) (rows : List Row) (projection : Projection) :
    table.project rows projection.bare = table.project rows projection := by
  cases projection with
  | all => rfl
  | items items =>
      have indexes : table.indexes (items.map Token.bare) = table.indexes items := by
        rw [indexes, List.filterMap_map]
        rfl
      have values : (items.map Token.bare).map Token.value = items.map Token.value := by
        rw [List.map_map]
        rfl
      simp only [Projection.bare, project, indexes, values]

/-- A statement is executed as it is without the positions of its tokens. -/
theorem execute_bare (table : Table) (statement : Statement) :
    table.execute statement.bare = table.execute statement := by
  have clauses (table : Table) : Filter.compile table statement.bare.clauses =
      Filter.compile table statement.clauses := Filter.compile_bare table statement.clauses
  have projection (table : Table) (rows : List Row) :
      table.project rows statement.bare.projection = table.project rows statement.projection :=
    table.project_bare rows statement.projection
  simp only [execute, unknownColumn?_bare, select, Statement.checkTable_bare, clauses, projection]

/-- A query is answered as the statement that it is read as, apart from positions. -/
theorem query_of_parse {table : Table} {text : String} {statement meaning : Statement}
    (parsed : parse text = .ok statement) (same : statement.bare = meaning.bare) :
    (table.query text).1 = (table.execute meaning).1.mapError .selection := by
  rw [query, parsed, ← execute_bare table meaning, ← same, execute_bare]

end Table

end CsvSelect
