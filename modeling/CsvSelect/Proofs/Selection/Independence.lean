import CsvSelect.Proofs.Selection.Rows
import CsvSelect.Session

/-!
# Independent queries

A table is queried, has statements executed on it and is normalised, in any order and any number of
times. An execution normalises the table before most of its checks, so a failure may change the
table, too. This file shows that this is all that ever happens to a table, and that no reply to a
query or a statement depends on it.

The invariant is that the table is as it was as long as every action spared its cells, and
normalised from then on. An action spares the cells if it does not normalise and if no statement is
executed, or one that fails for a column that does not exist. That is the only failure which comes
before the normalisation, and no later check can fail in the same way
(`Table.execute_unknownColumn_iff`).
-/

namespace CsvSelect

open Query

/-! ### Unknown columns -/

/-- Among columns that exist, the clauses of a statement fail for some other reason. -/
theorem Filter.compile_ne_unknownColumn {table : Table} {clauses : List Clause}
    (known : ∀ condition, .condition condition ∈ clauses →
      table.hasColumn condition.column.value) (name : String) :
    compile table clauses ≠ .error (.unknownColumn name) := by
  suffices general : ∀ joined steps,
      compileCondition table joined steps clauses ≠ .error (.unknownColumn name) ∧
        compileConnective table joined steps clauses ≠ .error (.unknownColumn name) from
    (general none []).1
  induction clauses with
  | nil => simp [compileCondition, compileConnective]
  | cons clause clauses ih =>
      have later := ih fun condition mem => known condition (List.mem_cons_of_mem _ mem)
      intro joined steps
      cases clause with
      | condition condition =>
          refine ⟨?_, by simp [compileConnective]⟩
          rcases Option.isSome_iff_exists.mp (known condition List.mem_cons_self) with
            ⟨index, found⟩
          rw [compileCondition]
          cases compared : condition.operation.operator? with
          | none => simp [Comparison.resolve, found, compared]
          | some operator => simpa [Comparison.resolve, found, compared] using (later _ _).2
      | connective word =>
          refine ⟨by simp [compileCondition], ?_⟩
          rw [compileConnective]
          cases word.connective? with
          | none => simp
          | some connective =>
              simp only
              split
              · simp
              · exact (later _ _).1

theorem Filter.run_ne_unknownColumn (row : Row) (keep : Bool) (steps : List Step)
    (name : String) : run row keep steps ≠ .error (.unknownColumn name) := by
  induction steps generalizing keep with
  | nil => simp [run]
  | cons step steps ih =>
      cases step with
      | compare comparison =>
          rw [run, Comparison.evaluate]
          cases comparison.operand.order? (row.getD comparison.index "") with
          | none => simp
          | some order => exact ih _
      | join connective =>
          cases connective with
          | conjunction =>
              rw [run]
              split
              · exact ih keep
              · simp
          | disjunction => exact ih keep

theorem Filter.selectRows_ne_unknownColumn (filter : Filter) (passed rows : List Row)
    (name : String) : filter.selectRows passed rows ≠ .error (.unknownColumn name) := by
  induction rows generalizing passed with
  | nil => simp [selectRows]
  | cons row rows ih =>
      rw [selectRows]
      split
      · next error failed =>
          intro same
          rw [accepts] at failed
          split at failed
          · simp at failed
          · rw [Except.error.inj same] at failed
            exact run_ne_unknownColumn row false filter name failed
      · exact ih _
      · exact ih _

theorem Query.Statement.checkTable_ne_unknownColumn (statement : Statement)
    (tableName name : String) :
    statement.checkTable tableName ≠ .error (.unknownColumn name) := by
  rw [checkTable]
  cases statement.table with
  | none => simp
  | some token =>
      simp only
      split <;> simp

/-- After the check of the columns no other check finds a column that does not exist. -/
theorem Table.select_ne_unknownColumn {table : Table} {statement : Statement}
    (known : table.unknownColumn? statement = none) (name : String) :
    table.select statement ≠ .error (.unknownColumn name) := by
  have columns := (unknownColumn?_eq_none_iff.mp known).2
  have compiled := Filter.compile_ne_unknownColumn
    (fun condition mem => columns condition (Statement.mem_conditions.mpr mem)) name
  rw [select]
  split
  · next error failed =>
      intro same
      rw [Except.error.inj same] at failed
      exact statement.checkTable_ne_unknownColumn _ name failed
  · split
    · next error failed =>
        intro same
        rw [Except.error.inj same] at failed
        exact compiled failed
    · next filter _ =>
        split
        · next error failed =>
            intro same
            rw [Except.error.inj same] at failed
            exact filter.selectRows_ne_unknownColumn _ _ name failed
        · simp

theorem Table.execute_unknownColumn_iff {table : Table} {statement : Statement} {name : String} :
    (table.execute statement).1 = .error (.unknownColumn name) ↔
      table.unknownColumn? statement = some name := by
  rw [execute]
  cases known : table.unknownColumn? statement with
  | none =>
      have sameNames : table.normalize.unknownColumn? statement = none := known
      simpa using select_ne_unknownColumn sameNames name
  | some unknown => simp

/-! ### Actions on a table -/

/-- What can be done with a table. -/
inductive Table.Action where
  | query (text : String)
  | execute (statement : Statement)
  | normalize

/-- What an action brings: rows or an error, or the number of the cells that were changed. -/
inductive Table.Reply where
  | rows (answer : Except Error (List Row))
  | rewritten (cells : Nat)

/-- The reply to an action, and the table after it. -/
def Table.perform (table : Table) : Action → Reply × Table
  | .query text =>
      let (answer, table) := table.query text
      (.rows answer, table)
  | .execute statement =>
      let (answer, table) := table.execute statement
      (.rows (answer.mapError .selection), table)
  | .normalize => (.rewritten table.decimalCells, table.normalize)

def Table.afterAll (table : Table) (actions : List Action) : Table :=
  actions.foldl (fun table action => (table.perform action).2) table

/-- The statement that the action executes, if it comes to that. -/
def Table.Action.statement? : Action → Option Statement
  | .query text => (parse text).toOption
  | .execute statement => some statement
  | .normalize => none

/-- The statement fails on the table because it has no column of some name. -/
def Query.Statement.lacksColumn (statement : Statement) (table : Table) : Bool :=
  match (table.execute statement).1 with
  | .error (.unknownColumn _) => true
  | _ => false

/--
The action leaves the cells alone: it does not normalise, and it executes nothing or a statement
that lacks a column.
-/
def Table.Action.spares (table : Table) : Action → Bool
  | .normalize => false
  | action => action.statement?.all (·.lacksColumn table)

/-! ### What an action leaves behind -/

theorem Table.execute_snd (table : Table) (statement : Statement) :
    (table.execute statement).2 =
      if statement.lacksColumn table then table else table.normalize := by
  cases known : table.unknownColumn? statement with
  | some name =>
      have failed := execute_unknownColumn_iff.mpr known
      simp [execute, known, Statement.lacksColumn]
  | none =>
      have other : statement.lacksColumn table = false := by
        rw [Statement.lacksColumn]
        split
        · next name failed =>
            have unknown := execute_unknownColumn_iff.mp failed
            simp [known] at unknown
        · rfl
      simp [execute, known, other]

/-- One action leaves the table as it is or normalises it. -/
theorem Table.perform_snd (table : Table) (action : Action) :
    (table.perform action).2 = if action.spares table then table else table.normalize := by
  cases action with
  | query text =>
      cases read : parse text with
      | error error =>
          simp [perform, query, Action.spares, Action.statement?, read, Except.toOption]
      | ok statement =>
          simp only [perform, query, read, execute_snd, Action.spares, Action.statement?,
            Except.toOption, Option.all_some]
  | execute statement => exact table.execute_snd statement
  | normalize => rfl

/-- After any actions the table is as it was or normalised. -/
theorem Table.afterAll_eq (table : Table) (actions : List Action) :
    table.afterAll actions =
      if actions.all (·.spares table) then table else table.normalize := by
  induction actions generalizing table with
  | nil => rfl
  | cons action actions ih =>
      rw [afterAll, List.foldl_cons, ← afterAll, ih, perform_snd]
      cases spared : action.spares table with
      | true => simp [spared]
      | false => simp [spared]

/-! ### What an action replies -/

theorem Table.decimalCells_normalize (table : Table) : table.normalize.decimalCells = 0 := by
  simp only [decimalCells, normalize, List.countP_eq_zero, List.mem_flatten, List.mem_map]
  rintro cell ⟨_, ⟨row, -, rfl⟩, mem⟩
  rcases List.mem_map.mp mem with ⟨source, -, rfl⟩
  simp [integralPart?_normalizeCell]

/-- Apart from the number of changed cells, the replies of a normalised table are the same. -/
theorem Table.perform_normalize_fst (table : Table) (action : Action) :
    (table.normalize.perform action).1 =
      match action with
      | .normalize => .rewritten 0
      | action => (table.perform action).1 := by
  cases action with
  | query text =>
      simp only [perform, query]
      split
      · rfl
      · simp only [execute_normalize]
  | execute statement => simp only [perform, execute_normalize]
  | normalize => simp only [perform, decimalCells_normalize]

/--
After any actions, failed ones among them, a table replies to a query and to a statement as if they
were the first, and it has its name, its columns and rows of the same widths. Its cells are as they
were as long as all actions spared them, and normalised from then on; normalising them again changes
nothing.
-/
theorem Table.perform_afterAll (table : Table) (earlier : List Action) (action : Action) :
    ((table.afterAll earlier).perform action).1 =
        (match action with
        | .normalize =>
            .rewritten (if earlier.all (·.spares table) then table.decimalCells else 0)
        | action => (table.perform action).1) ∧
      (table.afterAll earlier).name = table.name ∧
      (table.afterAll earlier).columns = table.columns ∧
      (table.afterAll earlier).rows.map List.length = table.rows.map List.length ∧
      (table.afterAll earlier).rows =
        if earlier.all (·.spares table) then table.rows
        else table.rows.map (·.map normalizeCell) := by
  rw [afterAll_eq]
  split
  · refine ⟨?_, rfl, rfl, rfl, rfl⟩
    cases action <;> rfl
  · refine ⟨?_, rfl, rfl, by simp [normalize], rfl⟩
    exact perform_normalize_fst table action

end CsvSelect
