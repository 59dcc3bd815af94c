import CsvSelect.Proofs.Selection.Acceptance

/-!
# The selected rows

This file describes the answer to an accepted statement without the steps of a filter. A condition
holds of a row, or does not hold, or mismatches it. Conditions that are joined by `AND` are
evaluated up to the first one that does not hold; in all other statements every condition is
evaluated. The answer is the first mismatch of an evaluated condition, in the order of the rows and
then of the conditions. If there is none, the answer consists of the rows that are kept
(`Table.execute_of_acceptedBy`).
-/

namespace CsvSelect

open Text Query

/-- The cell of the row under the first column of this name. -/
def Table.cellUnder (table : Table) (row : Row) (name : String) : String :=
  (((table.columns.zip row).find? (sameIgnoringCase ·.1 name)).map Prod.snd).getD ""

namespace Query

/-- How the cell stands to the operand of the condition; nothing if they cannot be compared. -/
def Condition.order? (condition : Condition) (table : Table) (row : Row) : Option Ordering :=
  (Operand.ofToken condition.operand).order? (table.cellUnder row condition.column.value)

def Condition.mismatchesOn (condition : Condition) (table : Table) (row : Row) : Bool :=
  (condition.order? table row).isNone

/-- The comparison can be made and is true. -/
def Condition.holdsOn (condition : Condition) (table : Table) (row : Row) : Bool :=
  match condition.operation.operator?, condition.order? table row with
  | some operator, some order => operator.holds order
  | _, _ => false

/-- The error that names the cell and the column of the condition. -/
def Condition.mismatch (condition : Condition) (table : Table) (row : Row) : SelectionError :=
  .typeMismatch (table.cellUnder row condition.column.value) condition.column.value

/--
The conditions that are evaluated on the row: if they are joined by `AND`, those before which all
conditions hold, and otherwise all of them.
-/
def evaluatedOn (table : Table) (row : Row) (joined : Option Connective)
    (conditions : List Condition) : List Condition :=
  (conditions.zipIdx.filter fun entry =>
    joined != some .conjunction ||
      (conditions.take entry.2).all (·.holdsOn table row)).map Prod.fst

/-- The mismatches of the conditions that are evaluated on the row, in order. -/
def mismatchesAmong (table : Table) (row : Row) (joined : Option Connective)
    (conditions : List Condition) : List SelectionError :=
  ((evaluatedOn table row joined conditions).filter (·.mismatchesOn table row)).map
    (·.mismatch table row)

/-- The mismatches of the conditions of the statement that are evaluated on the row, in order. -/
def Statement.mismatches (statement : Statement) (table : Table) (row : Row) :
    List SelectionError :=
  mismatchesAmong table row (joinedBy? statement.clauses) statement.conditions

/-- If conditions are joined by `OR` the last one decides, and otherwise all must hold. -/
def Statement.keeps (statement : Statement) (table : Table) (row : Row) : Bool :=
  match joinedBy? statement.clauses with
  | some .disjunction => statement.conditions.getLast?.all (·.holdsOn table row)
  | _ => statement.conditions.all (·.holdsOn table row)

/-- The row of the items as they are written, which stands before the selected rows. -/
def Projection.header : Projection → List Row
  | .all => []
  | .items tokens => [tokens.map Token.value]

def Projection.cells (projection : Projection) (table : Table) (row : Row) : Row :=
  match projection with
  | .all => row
  | .items tokens => tokens.map fun item => table.cellUnder row item.value

end Query

/-! ### Cells -/

theorem getD_of_findIdx? {columns : List String} {row : Row} (width : row.length = columns.length)
    {named : String → Bool} {index : Nat} (found : columns.findIdx? named = some index) :
    row.getD index "" = (((columns.zip row).find? (named ·.1)).map Prod.snd).getD "" := by
  induction columns generalizing row index with
  | nil => simp at found
  | cons column columns ih =>
      cases row with
      | nil => simp at width
      | cons cell row =>
          rw [List.findIdx?_cons] at found
          by_cases here : named column = true
          · rw [if_pos here, Option.some.injEq] at found
            simp [← found, here]
          · rw [if_neg here, Option.map_eq_some_iff] at found
            rcases found with ⟨later, found, rfl⟩
            have rest := ih (by simpa using width) found
            simpa [here] using rest

theorem Table.getD_eq_cellUnder {table : Table} {row : Row}
    (width : row.length = table.columns.length) {name : String} {index : Nat}
    (found : table.columnIndex? name = some index) :
    row.getD index "" = table.cellUnder row name :=
  getD_of_findIdx? width found

theorem Comparison.evaluate_eq {table : Table} {row : Row}
    (width : row.length = table.columns.length) {condition : Condition} {comparison : Comparison}
    (resolved : Comparison.resolve table condition = .ok comparison) :
    comparison.evaluate row =
      if condition.mismatchesOn table row then .error (condition.mismatch table row)
      else .ok (condition.holdsOn table row) := by
  rcases Comparison.resolve_eq_ok_iff.mp resolved with ⟨found, known, column, operand⟩
  simp only [evaluate, Table.getD_eq_cellUnder width found, operand, column,
    Condition.mismatchesOn, Condition.holdsOn, Condition.order?, known, Condition.mismatch]
  cases (Operand.ofToken condition.operand).order?
    (table.cellUnder row condition.column.value) <;> rfl

/-! ### Evaluated conditions -/

section

variable (table : Table) (row : Row)

theorem evaluatedOn_cons (joined : Option Connective) (condition : Condition)
    (conditions : List Condition) :
    evaluatedOn table row joined (condition :: conditions) =
      condition :: if joined = some .conjunction ∧ ¬condition.holdsOn table row then []
        else evaluatedOn table row joined conditions := by
  simp only [evaluatedOn, List.zipIdx_cons, Nat.zero_add, List.zipIdx_succ, List.filter_cons,
    List.filter_map, List.take_zero, List.all_nil, Bool.or_true, if_true, List.map_cons,
    List.map_map]
  congr 1
  split
  · next stops =>
      rw [List.map_eq_nil_iff, List.filter_eq_nil_iff]
      intro entry mem
      simp [stops.1, stops.2]
  · next goesOn =>
      have same : ∀ entry ∈ conditions.zipIdx,
          ((fun entry : Condition × Nat => joined != some .conjunction ||
            ((condition :: conditions).take entry.2).all (·.holdsOn table row)) ∘
              fun entry => (entry.1, entry.2 + 1)) entry =
            (joined != some .conjunction ||
              (conditions.take entry.2).all (·.holdsOn table row)) := by
        intro entry mem
        by_cases conjunction : joined = some .conjunction
        · have holds : condition.holdsOn table row = true :=
            Decidable.of_not_not fun failed => goesOn ⟨conjunction, failed⟩
          simp [holds]
        · have other : (joined != some .conjunction) = true := bne_iff_ne.mpr conjunction
          simp [other]
      rw [List.filter_congr same]
      rfl

theorem mismatchesAmong_cons (joined : Option Connective) (condition : Condition)
    (conditions : List Condition) :
    mismatchesAmong table row joined (condition :: conditions) =
      (if condition.mismatchesOn table row then [condition.mismatch table row] else []) ++
        if joined = some .conjunction ∧ ¬condition.holdsOn table row then []
        else mismatchesAmong table row joined conditions := by
  simp only [mismatchesAmong, evaluatedOn_cons, List.filter_cons]
  split <;> split <;> simp

theorem mismatchesAmong_singleton (joined : Option Connective) (condition : Condition) :
    mismatchesAmong table row joined [condition] =
      if condition.mismatchesOn table row then [condition.mismatch table row] else [] := by
  have none : mismatchesAmong table row joined [] = [] := rfl
  rw [mismatchesAmong_cons, none, ite_self, List.append_nil]

end

/-! ### One row -/

/-- The first fault, or the answer if there is no fault. -/
def verdict {Answer : Type} (faults : List SelectionError) (answer : Answer) :
    Except SelectionError Answer :=
  match faults.head? with
  | some fault => .error fault
  | none => .ok answer

@[simp]
theorem verdict_nil {Answer : Type} (answer : Answer) : verdict [] answer = .ok answer := rfl

@[simp]
theorem verdict_cons {Answer : Type} (fault : SelectionError) (faults : List SelectionError)
    (answer : Answer) : verdict (fault :: faults) answer = .error fault := rfl

@[simp]
theorem filterMap_condition?_condition (condition : Condition) (clauses : List Clause) :
    (Clause.condition condition :: clauses).filterMap Clause.condition? =
      condition :: clauses.filterMap Clause.condition? := rfl

@[simp]
theorem filterMap_condition?_connective (word : Token) (clauses : List Clause) :
    (Clause.connective word :: clauses).filterMap Clause.condition? =
      clauses.filterMap Clause.condition? := rfl

namespace Filter

variable {table : Table} {row : Row}

theorem run_condition (width : row.length = table.columns.length) {condition : Condition}
    {comparison : Comparison} (resolved : Comparison.resolve table condition = .ok comparison)
    (keep : Bool) (steps : List Step) :
    run row keep (.compare comparison :: steps) =
      if condition.mismatchesOn table row then .error (condition.mismatch table row)
      else run row (condition.holdsOn table row) steps := by
  rw [run, Comparison.evaluate_eq width resolved]
  by_cases mismatch : condition.mismatchesOn table row = true <;> simp [mismatch]

/-- Joined by `AND`, the steps of the clauses stop at the first condition that does not hold. -/
theorem run_conjunction (width : row.length = table.columns.length) {clauses : List Clause}
    {position : Nat} (fits : ∀ entry ∈ clauses.zipIdx position,
      entry.1.FitsAt table (some .conjunction) entry.2) (keep : Bool)
    (due : position % 2 = 0 → keep = true) :
    run row keep (clauses.filterMap (Clause.step? table)) =
      if keep then
        verdict (mismatchesAmong table row (some .conjunction)
            (clauses.filterMap Clause.condition?))
          ((clauses.filterMap Clause.condition?).all (·.holdsOn table row))
      else .ok false := by
  induction clauses generalizing position keep with
  | nil => cases keep <;> rfl
  | cons clause clauses ih =>
      simp only [List.zipIdx_cons, List.mem_cons, forall_eq_or_imp] at fits
      rcases fits with ⟨here, later⟩
      cases clause with
      | condition condition =>
          have even : position % 2 = 0 := here.1
          rcases (fitsAt_condition_iff even).mp here with ⟨comparison, resolved⟩
          rw [due even, List.filterMap_cons_some (Clause.step?_condition resolved),
            run_condition width resolved, ih later _ (by omega), filterMap_condition?_condition,
            mismatchesAmong_cons]
          by_cases mismatch : condition.mismatchesOn table row = true
          · simp [mismatch]
          · by_cases holds : condition.holdsOn table row = true
            · simp [mismatch, holds]
            · simp [mismatch, holds]
      | connective word =>
          rw [List.filterMap_cons_some (Clause.step?_connective here.2.2),
            filterMap_condition?_connective, run]
          cases keep with
          | false => rfl
          | true => exact ih later true (fun _ => rfl)

/-- Joined by `OR`, every condition is evaluated and replaces the answer. -/
theorem run_disjunction (width : row.length = table.columns.length) {clauses : List Clause}
    {position : Nat} (fits : ∀ entry ∈ clauses.zipIdx position,
      entry.1.FitsAt table (some .disjunction) entry.2) (keep : Bool) :
    run row keep (clauses.filterMap (Clause.step? table)) =
      verdict (mismatchesAmong table row (some .disjunction)
          (clauses.filterMap Clause.condition?))
        (((clauses.filterMap Clause.condition?).map (·.holdsOn table row)).getLastD keep) := by
  induction clauses generalizing position keep with
  | nil => rfl
  | cons clause clauses ih =>
      simp only [List.zipIdx_cons, List.mem_cons, forall_eq_or_imp] at fits
      rcases fits with ⟨here, later⟩
      cases clause with
      | condition condition =>
          rcases (fitsAt_condition_iff here.1).mp here with ⟨comparison, resolved⟩
          rw [List.filterMap_cons_some (Clause.step?_condition resolved),
            run_condition width resolved, ih later, filterMap_condition?_condition,
            mismatchesAmong_cons, List.map_cons, List.getLastD_cons]
          by_cases mismatch : condition.mismatchesOn table row = true <;> simp [mismatch]
      | connective word =>
          rw [List.filterMap_cons_some (Clause.step?_connective here.2.2),
            filterMap_condition?_connective, run]
          exact ih later keep

/-- Clauses that are joined in no way are at most one condition. -/
theorem eq_of_fitsAt_none {clauses : List Clause}
    (fits : ∀ entry ∈ clauses.zipIdx, entry.1.FitsAt table none entry.2) :
    clauses = [] ∨ ∃ condition, clauses = [.condition condition] := by
  match clauses with
  | [] => exact Or.inl rfl
  | .connective word :: clauses =>
      have here := fits (.connective word, 0) (by simp)
      simp [Clause.FitsAt] at here
  | [.condition condition] => exact Or.inr ⟨condition, rfl⟩
  | .condition condition :: .condition other :: clauses =>
      have here := fits (.condition other, 1) (by simp)
      simp [Clause.FitsAt] at here
  | .condition condition :: .connective word :: clauses =>
      rcases fits (.connective word, 1) (by simp) with ⟨-, known, none⟩
      rw [none] at known
      exact absurd known Bool.false_ne_true

theorem accepts_eq_run {clauses : List Clause} {joined : Option Connective}
    (fits : ∀ entry ∈ clauses.zipIdx, entry.1.FitsAt table joined entry.2) :
    accepts (clauses.filterMap (Clause.step? table)) row =
      run row true (clauses.filterMap (Clause.step? table)) := by
  cases clauses with
  | nil => rfl
  | cons clause clauses =>
      have here := fits (clause, 0) (by simp)
      cases clause with
      | connective word => simp [Clause.FitsAt] at here
      | condition condition =>
          rcases (fitsAt_condition_iff rfl).mp here with ⟨comparison, resolved⟩
          rw [List.filterMap_cons_some (Clause.step?_condition resolved)]
          rfl

end Filter

/-- The filter of an accepted statement finds the first mismatch of a row or decides about it. -/
theorem accepts_of_acceptedBy {table : Table} {row : Row}
    (width : row.length = table.columns.length) {statement : Statement}
    (accepted : statement.AcceptedBy table) :
    Filter.accepts (statement.clauses.filterMap (Clause.step? table)) row =
      verdict (statement.mismatches table row) (statement.keeps table row) := by
  have fits := accepted.clauses
  rw [Filter.accepts_eq_run fits]
  cases joined : joinedBy? statement.clauses with
  | none =>
      rw [joined] at fits
      rcases Filter.eq_of_fitsAt_none fits with none | ⟨condition, one⟩
      · simp [Statement.mismatches, Statement.keeps, Statement.conditions, none, joinedBy?,
          Filter.run, mismatchesAmong, evaluatedOn]
      · have single : ∀ entry ∈ [Clause.condition condition].zipIdx,
            entry.1.FitsAt table (some .conjunction) entry.2 := by
          intro entry mem
          rw [one] at fits
          have here := fits entry mem
          rcases List.mem_singleton.mp mem with rfl
          exact here
        rw [one, Filter.run_conjunction width single true (fun _ => rfl)]
        simp [Statement.mismatches, Statement.keeps, Statement.conditions, one, joinedBy?,
          Clause.connective?, mismatchesAmong_singleton]
  | some connective =>
      rw [joined] at fits
      cases connective with
      | conjunction =>
          rw [Filter.run_conjunction width fits true (fun _ => rfl)]
          simp only [Statement.mismatches, Statement.keeps, joined]
          rfl
      | disjunction =>
          rw [Filter.run_disjunction width fits true]
          simp only [Statement.mismatches, Statement.keeps, joined, Statement.conditions]
          cases last : (statement.clauses.filterMap Clause.condition?).getLast? <;>
            simp [List.getLastD_eq_getLast?, List.getLast?_map, last]

/-! ### All rows -/

/-- The first fault of the rows ends the selection; without faults the rows that are kept remain. -/
theorem selectRows_of_accepts {filter : Filter} {rows : List Row}
    {faults : Row → List SelectionError} {keeps : Row → Bool}
    (accepts : ∀ row ∈ rows, filter.accepts row = verdict (faults row) (keeps row))
    (passed : List Row) :
    filter.selectRows passed rows =
      verdict (rows.flatMap faults) (passed.reverse ++ rows.filter keeps) := by
  induction rows generalizing passed with
  | nil => simp [Filter.selectRows]
  | cons row rows ih =>
      have later := ih fun other mem => accepts other (List.mem_cons_of_mem _ mem)
      rw [Filter.selectRows, accepts row List.mem_cons_self, List.flatMap_cons]
      cases found : faults row with
      | cons fault others => simp
      | nil =>
          cases kept : keeps row with
          | true => simp [later, kept]
          | false => simp [later, kept]

theorem Table.map_getD_indexes {table : Table} {row : Row}
    (width : row.length = table.columns.length) {items : List Token}
    (known : ∀ item ∈ items, table.hasColumn item.value) :
    (table.indexes items).map (row.getD · "") =
      items.map fun item => table.cellUnder row item.value := by
  induction items with
  | nil => rfl
  | cons item items ih =>
      rcases Option.isSome_iff_exists.mp (known item List.mem_cons_self) with ⟨index, found⟩
      have later := ih fun other mem => known other (List.mem_cons_of_mem _ mem)
      simp only [indexes] at later
      simp only [indexes, List.filterMap_cons, found, List.map_cons, later,
        getD_eq_cellUnder width found]

theorem Table.project_eq {table : Table} {projection : Projection}
    (known : ∀ item ∈ projection.named, table.hasColumn item.value) {rows : List Row}
    (width : ∀ row ∈ rows, row.length = table.columns.length) :
    table.project rows projection =
      projection.header ++ rows.map (projection.cells table) := by
  cases projection with
  | all => exact (List.map_id rows).symm
  | items tokens =>
      simp only [project, Projection.header, List.singleton_append]
      congr 1
      apply List.map_congr_left
      intro row mem
      exact map_getD_indexes (width row mem) known

/-! ### Earlier executions -/

/-- The table after statements have been executed on it. -/
def Table.after (table : Table) (statements : List Statement) : Table :=
  statements.foldl (fun table statement => (table.execute statement).2) table

theorem Table.execute_table (table : Table) (statement : Statement) :
    (table.execute statement).2 = table ∨ (table.execute statement).2 = table.normalize := by
  simp only [execute]
  split
  · exact Or.inl rfl
  · exact Or.inr rfl

theorem Table.after_cases (table : Table) (statements : List Statement) :
    table.after statements = table ∨ table.after statements = table.normalize := by
  induction statements generalizing table with
  | nil => exact Or.inl rfl
  | cons statement statements ih =>
      have later := ih (table.execute statement).2
      rw [after, List.foldl_cons]
      rcases table.execute_table statement with same | same
      · rw [same] at later ⊢
        exact later
      · rw [same, normalize_normalize, or_self] at later
        rw [same]
        exact Or.inr later

/-- Whether the table has been normalised before makes no difference to an answer. -/
theorem Table.execute_normalize (table : Table) (statement : Statement) :
    (table.normalize.execute statement).1 = (table.execute statement).1 := by
  have names : table.normalize.unknownColumn? statement = table.unknownColumn? statement := rfl
  simp only [execute, names]
  split
  · rfl
  · rw [normalize_normalize]

theorem Table.execute_after (table : Table) (statements : List Statement)
    (statement : Statement) :
    ((table.after statements).execute statement).1 = (table.execute statement).1 := by
  rcases table.after_cases statements with same | same
  · rw [same]
  · rw [same, execute_normalize]

/-! ### The answer -/

theorem Query.Statement.AcceptedBy.normalize {statement : Statement} {table : Table}
    (accepted : statement.AcceptedBy table) : statement.AcceptedBy table.normalize :=
  ⟨accepted.items, accepted.named, accepted.clauses⟩

theorem Table.execute_of_acceptedBy {table : Table} {statement : Statement}
    (accepted : statement.AcceptedBy table) :
    (table.execute statement).1 =
      verdict (table.normalize.rows.flatMap (statement.mismatches table))
        (statement.projection.header ++
          (table.normalize.rows.filter (statement.keeps table)).map
            (statement.projection.cells table)) := by
  have normal := accepted.normalize
  have width := table.normalize.rectangular
  have known : table.unknownColumn? statement = none := (acceptedBy_iff.mp accepted).1
  have named : statement.checkTable table.normalize.name = .ok () := (acceptedBy_iff.mp normal).2.1
  have compiled : Filter.compile table.normalize statement.clauses =
      .ok (statement.clauses.filterMap (Clause.step? table.normalize)) :=
    Filter.compile_eq_ok_iff.mpr ⟨normal.clauses, rfl⟩
  have selected := selectRows_of_accepts
    (fun row mem => accepts_of_acceptedBy (width row mem) normal) []
  have kept : ∀ row ∈ table.normalize.rows.filter (statement.keeps table.normalize),
      row.length = table.normalize.columns.length :=
    fun row mem => width row (List.mem_filter.mp mem).1
  have projected := project_eq normal.items kept
  have sameFaults : statement.mismatches table = statement.mismatches table.normalize := rfl
  have sameKeeps : statement.keeps table = statement.keeps table.normalize := rfl
  have sameCells : statement.projection.cells table = statement.projection.cells table.normalize :=
    rfl
  rw [sameFaults, sameKeeps, sameCells, ← projected]
  simp only [execute, known, select, named, compiled, selected, List.reverse_nil, List.nil_append]
  cases table.normalize.rows.flatMap (statement.mismatches table.normalize) <;> rfl

/-! ### A connective at the end -/

theorem Query.joinedBy?_append (clauses others : List Clause) :
    joinedBy? (clauses ++ others) = (joinedBy? clauses).or (joinedBy? others) :=
  List.findSome?_append

theorem Query.joinedBy?_isSome_of_mem {clauses : List Clause} {word : Token}
    (mem : .connective word ∈ clauses) (known : word.connective?.isSome) :
    (joinedBy? clauses).isSome :=
  List.findSome?_isSome_iff.mpr ⟨.connective word, mem, known⟩

/-- A statement stays accepted without the connective at its end. -/
theorem Query.Statement.AcceptedBy.of_trailing {statement : Statement} {table : Table}
    (accepted : statement.AcceptedBy table) {clauses : List Clause} {word : Token}
    (trailing : statement.clauses = clauses ++ [.connective word]) :
    { statement with clauses }.AcceptedBy table := by
  refine ⟨accepted.items, accepted.named, ?_⟩
  intro entry mem
  have fits := accepted.clauses entry (by rw [trailing, List.zipIdx_append]; simp [mem])
  rcases entry with ⟨clause | other, position⟩
  · exact fits
  · have inside : Clause.connective other ∈ clauses := (List.mem_zipIdx' mem).2 ▸ List.getElem_mem _
    have joined := joinedBy?_isSome_of_mem inside fits.2.1
    rw [trailing, joinedBy?_append, Option.or_of_isSome joined] at fits
    exact fits

/-- Without the connective at the end the conditions are joined as before, or there is only one. -/
theorem Query.Statement.AcceptedBy.joinedBy?_of_trailing {statement : Statement} {table : Table}
    (accepted : statement.AcceptedBy table) {clauses : List Clause} {word : Token}
    (trailing : statement.clauses = clauses ++ [.connective word]) :
    joinedBy? clauses = joinedBy? statement.clauses ∨
      ∃ condition, clauses = [.condition condition] := by
  cases joined : joinedBy? clauses with
  | some connective =>
      left
      rw [trailing, joinedBy?_append, joined, Option.some_or]
  | none =>
      right
      have fits := (accepted.of_trailing trailing).clauses
      simp only [joined] at fits
      rcases Filter.eq_of_fitsAt_none fits with rfl | one
      · have first := accepted.clauses (.connective word, 0) (by simp [trailing])
        simp [Clause.FitsAt] at first
      · exact one

theorem Table.execute_of_trailing {table : Table} {statement : Statement}
    (accepted : statement.AcceptedBy table) {clauses : List Clause} {word : Token}
    (trailing : statement.clauses = clauses ++ [.connective word]) :
    (table.execute { statement with clauses }).1 = (table.execute statement).1 := by
  have conditions : { statement with clauses }.conditions = statement.conditions := by
    simp [Statement.conditions, trailing]
  rw [execute_of_acceptedBy accepted, execute_of_acceptedBy (accepted.of_trailing trailing)]
  have same : { statement with clauses }.mismatches table = statement.mismatches table ∧
      { statement with clauses }.keeps table = statement.keeps table := by
    rcases accepted.joinedBy?_of_trailing trailing with joined | ⟨condition, one⟩
    · constructor
      · funext row
        simp only [Statement.mismatches, joined, conditions]
      · funext row
        simp only [Statement.keeps, joined, conditions]
    · -- The connective was the only one, but a single condition is joined to nothing.
      have single : statement.conditions = [condition] := by
        rw [← conditions]
        simp [Statement.conditions, one, Clause.condition?]
      constructor
      · funext row
        simp only [Statement.mismatches, conditions, single, mismatchesAmong_singleton]
      · funext row
        simp only [Statement.keeps, conditions, single]
        split <;> split <;> simp
  rw [same.1, same.2]

/-- The answer to an accepted statement, whatever has been executed on the table before. -/
theorem execute_after_of_acceptedBy {table : Table} {statement : Statement}
    (accepted : statement.AcceptedBy table) (earlier : List Statement) :
    ((table.after earlier).execute statement).1 =
      verdict (table.normalize.rows.flatMap (statement.mismatches table))
        (statement.projection.header ++
          (table.normalize.rows.filter (statement.keeps table)).map
            (statement.projection.cells table)) ∧
    ∀ clauses word, statement.clauses = clauses ++ [.connective word] →
      ((table.after earlier).execute { statement with clauses }).1 =
        ((table.after earlier).execute statement).1 := by
  constructor
  · rw [Table.execute_after, Table.execute_of_acceptedBy accepted]
  · intro clauses word trailing
    rw [Table.execute_after, Table.execute_after, Table.execute_of_trailing accepted trailing]

/-- Three items, of which the count of the last one is no number. -/
def stock : Table where
  name := "stock"
  columns := ["item", "count"]
  rows := [["bolt", "12.0"], ["nut", "3"], ["screw", "none"]]
  rectangular := by decide

/-- The items of the stock before `p` of which there are more than five, joined by this word. -/
def stockQuery (word : Keyword) : Statement where
  projection := .items [{ kind := .identifier, value := "Item" }]
  table := some { kind := .identifier, value := "stock" }
  clauses := [
    .condition ⟨{ kind := .identifier, value := "item" }, { kind := .operation, value := "<" },
      { kind := .string, value := "p" }⟩,
    .connective { kind := .keyword, value := word.text },
    .condition ⟨{ kind := .identifier, value := "count" }, { kind := .operation, value := ">" },
      { kind := .numeric, value := "5" }⟩]

/-- `AND` passes over the count that is no number, and `OR` stumbles over it. -/
theorem execute_stock :
    ((stock.after [stockQuery .OR]).execute (stockQuery .AND)).1 = .ok [["Item"], ["bolt"]] ∧
      ((stock.after [stockQuery .AND]).execute (stockQuery .OR)).1 =
        .error (.typeMismatch "none" "count") := by
  have conjunction : (stockQuery .AND).AcceptedBy stock :=
    acceptedBy_iff.mpr ⟨by decide, rfl, _, rfl⟩
  have disjunction : (stockQuery .OR).AcceptedBy stock :=
    acceptedBy_iff.mpr ⟨by decide, rfl, _, rfl⟩
  rw [(execute_after_of_acceptedBy conjunction [stockQuery .OR]).1,
    (execute_after_of_acceptedBy disjunction [stockQuery .AND]).1]
  exact ⟨rfl, rfl⟩

end CsvSelect
