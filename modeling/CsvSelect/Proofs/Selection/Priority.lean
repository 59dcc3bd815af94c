import Mathlib.Data.List.Basic
import CsvSelect.Proofs.Selection.Faults

/-!
# Which fault counts

A statement can have several faults at once. They count in a fixed order: names that no column has,
first of the items and then of the conditions; the table; and the clauses from left to right. This
file lists them in that order by looking at each part of the statement on its own
(`Query.Statement.faults`) and proves that the first of the list is what an execution fails with
(`Table.fault?_eq_head?_faults`). In particular the columns of the conditions are not a concern of
the clauses any more: where one is missing, the names have been at fault before.

Clauses that are added at the end come last in the order. So they do not change the error of a
statement that has a fault, unless they name a column that does not exist.
-/

namespace CsvSelect

open Query

/-! ### The faults in their order -/

/--
What is wrong with a clause at this position, counted from zero. Conditions stand at even positions
and have one of the comparisons; connectives stand at odd positions and join as the first one does.
-/
def Query.Clause.fault? (joined : Option Connective) (position : Nat) :
    Clause → Option SelectionError
  | .condition comparison =>
      if position % 2 = 1 then some .malformedClauses
      else if comparison.operation.operator? = none then
        some (.unsupportedOperation comparison.operation.value)
      else none
  | .connective word =>
      if position % 2 = 0 ∨ word.connective? = none then some .malformedClauses
      else if word.connective? ≠ joined then some .mixedConnectives
      else none

/-- The faults of the clauses, of which the first stands at this position. -/
def clauseFaults (joined : Option Connective) (position : Nat) (clauses : List Clause) :
    List SelectionError :=
  (clauses.zipIdx position).filterMap fun (clause, place) => clause.fault? joined place

namespace Query.Statement

/-- The names that columns must have: of the items, then of the conditions. -/
def names (statement : Statement) : List String :=
  statement.projection.named.map Token.value ++ statement.conditions.map (·.column.value)

def tableFaults (statement : Statement) (name : String) : List SelectionError :=
  match statement.table with
  | none => [.missingTable]
  | some table => if table.value = name then [] else [.tableNotFound table.value]

/-- All faults that the name and the columns of the table show, in the order in which they count. -/
def faults (statement : Statement) (table : Table) : List SelectionError :=
  (statement.names.filter (!table.hasColumn ·)).map .unknownColumn ++
    statement.tableFaults table.name ++
      clauseFaults (joinedBy? statement.clauses) 0 statement.clauses

end Query.Statement

/-! ### The first fault is found -/

@[simp]
theorem clauseFaults_nil (joined : Option Connective) (position : Nat) :
    clauseFaults joined position [] = [] := rfl

theorem clauseFaults_cons (joined : Option Connective) (position : Nat) (clause : Clause)
    (clauses : List Clause) :
    clauseFaults joined position (clause :: clauses) =
      (clause.fault? joined position).toList ++ clauseFaults joined (position + 1) clauses := by
  rw [clauseFaults, List.zipIdx_cons, List.filterMap_cons]
  cases fault : clause.fault? joined position <;> simp [fault, clauseFaults]

/-- Of a condition with a known column only the operation is left to be checked. -/
theorem Comparison.resolve_eq_error_iff {table : Table} {condition : Condition}
    (known : table.hasColumn condition.column.value = true) {error : SelectionError} :
    resolve table condition = .error error ↔
      condition.operation.operator? = none ∧
        error = .unsupportedOperation condition.operation.value := by
  rcases Option.isSome_iff_exists.mp known with ⟨index, found⟩
  cases operator : condition.operation.operator? with
  | none => simp [resolve, found, operator, eq_comm]
  | some operator' => simp [resolve, found, operator]

namespace Filter

variable {table : Table}

/--
Clauses whose columns are known compile with the error of the first clause at fault: the first of
them stands at an even position if a condition is due, and at an odd position if a connective is
due.
-/
theorem compile_error_from (clauses : List Clause)
    (known : ∀ condition ∈ clauses.filterMap Clause.condition?,
      table.hasColumn condition.column.value = true)
    (joined : Option Connective) (steps : List Step) (position : Nat) (error : SelectionError) :
    (position % 2 = 0 →
      (compileCondition table joined steps clauses = .error error ↔
        (clauseFaults (joined.or (joinedBy? clauses)) position clauses).head? = some error)) ∧
    (position % 2 = 1 →
      (compileConnective table joined steps clauses = .error error ↔
        (clauseFaults (joined.or (joinedBy? clauses)) position clauses).head? = some error)) := by
  -- What has joined the clauses so far joins the others, too: `joined.or` stays the same value.
  induction clauses generalizing joined steps position with
  | nil =>
      constructor
      · simp [compileCondition]
      · simp [compileConnective]
  | cons clause clauses ih =>
      rw [clauseFaults_cons]
      cases clause with
      | condition condition =>
          rw [filterMap_condition?_condition] at known
          have here := known condition List.mem_cons_self
          have later := ih fun other mem => known other (List.mem_cons_of_mem _ mem)
          constructor
          · intro even
            rw [compileCondition, joinedBy?_condition]
            cases resolved : Comparison.resolve table condition with
            | error found =>
                rcases (Comparison.resolve_eq_error_iff here).mp resolved with ⟨unsupported, rfl⟩
                simp [Clause.fault?, even, unsupported]
            | ok comparison =>
                have supported := (Comparison.resolve_eq_ok_iff.mp resolved).2.1
                simpa [Clause.fault?, even, supported] using
                  (later joined (.compare comparison :: steps) (position + 1)).2 (by omega)
          · intro odd
            simp [compileConnective, Clause.fault?, odd]
      | connective word =>
          rw [filterMap_condition?_connective] at known
          have later := ih known
          constructor
          · intro even
            simp [compileCondition, Clause.fault?, even]
          · intro odd
            rw [compileConnective, joinedBy?_connective]
            cases join : word.connective? with
            | none => simp [Clause.fault?, join]
            | some connective =>
                have next := (later (some connective) (.join connective :: steps)
                  (position + 1)).1 (by omega)
                rw [Option.some_or] at next
                cases joined with
                | none => simpa [Clause.fault?, odd, join] using next
                | some earlier =>
                    by_cases same : earlier = connective
                    · simpa [Clause.fault?, odd, join, same] using next
                    · have different : connective ≠ earlier := fun eq => same eq.symm
                      simp [Clause.fault?, odd, join, same, different]

end Filter

namespace Table

variable {table : Table} {statement : Statement}

theorem unknownColumn?_eq_find? : table.unknownColumn? statement =
    (statement.names.filter (!table.hasColumn ·)).head? :=
  (List.head?_filter).symm

/-- A check that passes shows no fault, if what it shows are the errors it fails with. -/
theorem eq_none_of_eq_ok {Answer : Type} {check : Except SelectionError Answer}
    {first : Option SelectionError} (shows : ∀ error, check = .error error ↔ first = some error)
    {answer : Answer} (passed : check = .ok answer) : first = none := by
  rw [Option.eq_none_iff_forall_ne_some]
  intro error found
  rw [(shows error).mpr found] at passed
  simp at passed

theorem checkTable_eq_error_iff {error : SelectionError} :
    statement.checkTable table.name = .error error ↔
      (statement.tableFaults table.name).head? = some error := by
  rw [Statement.checkTable, Statement.tableFaults]
  cases statement.table with
  | none => simp
  | some name => by_cases same : name.value = table.name <;> simp [same]

/-- The first fault of the list is the one that is found. -/
theorem fault?_eq_head?_faults : table.fault? statement = (statement.faults table).head? := by
  rw [fault?, Statement.faults, List.head?_append, List.head?_append, List.head?_map,
    ← unknownColumn?_eq_find?]
  cases unknown : table.unknownColumn? statement with
  | some name => rfl
  | none =>
      -- From here on every condition has a column, so the clauses are compiled as their shape says.
      have known := (unknownColumn?_eq_none_iff.mp unknown).2
      simp only [Option.map_none, Option.none_or]
      cases named : statement.checkTable table.name with
      | error error => rw [checkTable_eq_error_iff.mp named, Option.some_or]
      | ok =>
          have compiled := fun error =>
            (Filter.compile_error_from statement.clauses known none [] 0 error).1 rfl
          simp only [Option.none_or] at compiled
          rw [eq_none_of_eq_ok (fun error => checkTable_eq_error_iff) named, Option.none_or]
          simp only [Filter.compile]
          cases filter : Filter.compileCondition table none [] statement.clauses with
          | error error => exact ((compiled error).mp filter).symm
          | ok steps => exact (eq_none_of_eq_ok compiled filter).symm

end Table

/-! ### Further clauses -/

/-- Where nothing joins the clauses, it does not matter how they should be joined. -/
theorem clauseFaults_of_joinedBy?_none {clauses : List Clause} (unjoined : joinedBy? clauses = none)
    (joined : Option Connective) (position : Nat) :
    clauseFaults joined position clauses = clauseFaults none position clauses := by
  apply List.filterMap_congr
  rintro ⟨clause, place⟩ mem
  have inside : clause ∈ clauses := (List.mem_zipIdx mem).2.2 ▸ List.getElem_mem _
  have none := List.findSome?_eq_none_iff.mp unjoined clause inside
  cases clause with
  | condition condition => rfl
  | connective word =>
      have unknown : word.connective? = Option.none := none
      simp [Clause.fault?, unknown]

/-- Clauses that are added behind others leave the faults of these as they are. -/
theorem clauseFaults_append (clauses others : List Clause) :
    clauseFaults (joinedBy? (clauses ++ others)) 0 (clauses ++ others) =
      clauseFaults (joinedBy? clauses) 0 clauses ++
        clauseFaults (joinedBy? (clauses ++ others)) clauses.length others := by
  have split : clauseFaults (joinedBy? (clauses ++ others)) 0 (clauses ++ others) =
      clauseFaults (joinedBy? (clauses ++ others)) 0 clauses ++
        clauseFaults (joinedBy? (clauses ++ others)) clauses.length others := by
    simp [clauseFaults, List.zipIdx_append]
  rw [split, joinedBy?_append]
  cases unjoined : joinedBy? clauses with
  | none => rw [Option.none_or, clauseFaults_of_joinedBy?_none unjoined]
  | some connective => rw [Option.some_or]

namespace Query.Statement

/-- The statement with these clauses behind its own. -/
def extend (statement : Statement) (clauses : List Clause) : Statement :=
  { statement with clauses := statement.clauses ++ clauses }

theorem names_extend (statement : Statement) (clauses : List Clause) :
    (statement.extend clauses).names =
      statement.names ++ (clauses.filterMap Clause.condition?).map (·.column.value) := by
  simp [names, extend, conditions]

/-- With names that exist, further clauses only add faults that count less. -/
theorem faults_extend {table : Table} (statement : Statement) {clauses : List Clause}
    (known : ∀ condition ∈ clauses.filterMap Clause.condition?,
      table.hasColumn condition.column.value = true) :
    statement.faults table <+: (statement.extend clauses).faults table := by
  have noName : ((clauses.filterMap Clause.condition?).map (·.column.value)).filter
      (!table.hasColumn ·) = [] := by
    rw [List.filter_eq_nil_iff]
    intro name mem
    rcases List.mem_map.mp mem with ⟨condition, inside, rfl⟩
    simp [known condition inside]
  have names : (statement.extend clauses).names.filter (!table.hasColumn ·) =
      statement.names.filter (!table.hasColumn ·) := by
    rw [names_extend, List.filter_append, noName, List.append_nil]
  have clauseFaults := clauseFaults_append statement.clauses clauses
  rw [faults, faults, names, show (statement.extend clauses).clauses =
    statement.clauses ++ clauses from rfl, clauseFaults, ← List.append_assoc]
  exact List.prefix_append _ _

end Query.Statement

namespace Table

/--
An execution fails with the first fault of the statement. Without a fault it can only fail for a
cell that mismatches a condition. Further clauses whose columns exist do not change the error of a
statement that has a fault.
-/
theorem execute_first_fault (table : Table) (statement : Statement) :
    (match statement.faults table with
      | fault :: _ => (table.execute statement).1 = .error fault
      | [] => (∃ rows, (table.execute statement).1 = .ok rows) ∨
          ∃ value column, (table.execute statement).1 = .error (.typeMismatch value column)) ∧
      ∀ clauses : List Clause,
        (∀ condition ∈ clauses.filterMap Clause.condition?,
          table.hasColumn condition.column.value = true) →
        statement.faults table ≠ [] →
          (table.execute (statement.extend clauses)).1 = (table.execute statement).1 := by
  have found : table.fault? statement = (statement.faults table).head? := fault?_eq_head?_faults
  constructor
  · cases faults : statement.faults table with
    | nil => exact execute_of_no_fault? (by rw [found, faults, List.head?_nil])
    | cons fault others => exact execute_of_fault? (by rw [found, faults, List.head?_cons])
  · intro clauses known faulty
    rcases statement.faults_extend known with ⟨more, extended⟩
    cases faults : statement.faults table with
    | nil => exact absurd faults faulty
    | cons fault others =>
        have same : table.fault? (statement.extend clauses) = some fault := by
          rw [fault?_eq_head?_faults, ← extended, faults, List.cons_append, List.head?_cons]
        rw [execute_of_fault? same,
          execute_of_fault? (by rw [found, faults, List.head?_cons])]

/-- Two conditions on the size, of which the second has no comparison, with two joints. -/
def vagueQuery : Statement where
  projection := .all
  table := some { kind := .identifier, value := "t" }
  clauses := [mixedQuery.atLeast "1", mixedQuery.joined .OR,
    .condition ⟨{ kind := .identifier, value := "size" }, { kind := .operation, value := "<>" },
      { kind := .numeric, value := "2" }⟩,
    mixedQuery.joined .AND]

/-- The operation is at fault before the joints are, whatever follows. -/
theorem execute_vagueQuery :
    vagueQuery.faults (singleColumn ["large"]) = [.unsupportedOperation "<>", .mixedConnectives] ∧
      ((singleColumn ["large"]).execute vagueQuery).1 = .error (.unsupportedOperation "<>") ∧
      ((singleColumn ["large"]).execute (vagueQuery.extend [mixedQuery.atLeast "3"])).1 =
        .error (.unsupportedOperation "<>") := by
  have faults : vagueQuery.faults (singleColumn ["large"]) =
      [.unsupportedOperation "<>", .mixedConnectives] := rfl
  have known : ∀ condition ∈ [mixedQuery.atLeast "3"].filterMap Clause.condition?,
      (singleColumn ["large"]).hasColumn condition.column.value = true := by
    decide +kernel
  have first := execute_first_fault (singleColumn ["large"]) vagueQuery
  have failed : ((singleColumn ["large"]).execute vagueQuery).1 =
      .error (.unsupportedOperation "<>") := first.1
  refine ⟨faults, failed, ?_⟩
  rw [first.2 [mixedQuery.atLeast "3"] known (by simp [faults]), failed]

end Table

end CsvSelect
