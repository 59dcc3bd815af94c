import Mathlib.Data.List.Find
import CsvSelect.Proofs.Query.Quoting
import CsvSelect.Proofs.Selection.Independence
import CsvSelect.Proofs.Selection.Positions
import CsvSelect.Proofs.Tables
import CsvSelect.Proofs.Text.Casing

/-!
# Columns under the names of the header

A table keeps the lower case of its header, and a column is looked up without regard to the case of
ASCII letters. So an entry of the header finds a column by its own spelling, itself or one before
it, as long as it has no capital outside ASCII. If it has one, it finds no column at all: the table
has the small letter, which the lookup takes for another one.

The same decides about queries. If all names in a query are spelled as in the header, the query
fails for a column that does not exist exactly if one of the names has such a capital, and the first
that has is in the error (`Table.query_header`).
-/

namespace CsvSelect

open Text Query

namespace Query.QuotedQuery

/-- The columns that the query names, in this order. -/
def names (query : QuotedQuery) : List String :=
  query.columns ++ query.conditions.map TextCondition.column

theorem conditions_statement (query : QuotedQuery) :
    query.statement.conditions = query.conditions.map TextCondition.condition := by
  rw [Statement.conditions, statement, clauses]
  induction query.conditions with
  | nil => rfl
  | cons condition others ih =>
      cases others with
      | nil => rfl
      | cons other others =>
          simp only [List.map_cons] at ih ⊢
          rw [List.intersperse_cons_cons, List.filterMap_cons, List.filterMap_cons, ih]
          rfl

theorem names_statement (query : QuotedQuery) :
    query.statement.projection.named.map Token.value ++
      query.statement.conditions.map (·.column.value) = query.names := by
  have columns : (query.columns.map Token.ofName).map Token.value = query.columns := by
    rw [List.map_map]
    exact List.map_id _
  rw [conditions_statement, List.map_map, names]
  exact congrArg (· ++ _) columns

end Query.QuotedQuery

namespace Table

variable {name entry : String} {header : List String} {rows : List Row} {table : Table}

theorem columnIndex?_of_foreign (built : ofRows name header rows = .ok table)
    (foreign : hasForeignCapital entry = true) : table.columnIndex? entry = none := by
  rcases ofRows_eq_ok_iff.mp built with ⟨-, -, columns, -⟩
  rw [columnIndex?, columns, List.findIdx?_eq_none_iff]
  intro column mem
  rcases List.mem_map.mp mem with ⟨other, -, rfl⟩
  rw [Bool.eq_false_iff]
  intro same
  simp [not_hasForeignCapital_of_sameIgnoringCase same] at foreign

theorem columnIndex?_of_plain (built : ofRows name header rows = .ok table) {index : Nat}
    (found : header[index]? = some entry) (plain : hasForeignCapital entry = false) :
    ∃ first ≤ index, table.columnIndex? entry = some first := by
  rcases ofRows_eq_ok_iff.mp built with ⟨-, -, columns, -⟩
  rcases List.getElem?_eq_some_iff.mp found with ⟨bound, rfl⟩
  have inside : index < table.columns.length := by simpa [columns] using bound
  have same : sameIgnoringCase table.columns[index] header[index] = true := by
    simpa [columns] using sameIgnoringCase_lowercase_iff.mpr plain
  have early : table.columns.findIdx (sameIgnoringCase · header[index]) ≤ index := by
    apply Nat.not_lt.mp
    intro later
    have skipped := List.not_of_lt_findIdx later
    simp [same] at skipped
  exact ⟨_, early, List.findIdx?_eq_some_iff_findIdx_eq.mpr ⟨by omega, rfl⟩⟩

theorem hasColumn_eq (built : ofRows name header rows = .ok table) (mem : entry ∈ header) :
    table.hasColumn entry = !hasForeignCapital entry := by
  rw [hasColumn]
  cases foreign : hasForeignCapital entry with
  | true =>
      rw [columnIndex?_of_foreign built foreign]
      rfl
  | false =>
      rcases List.mem_iff_getElem?.mp mem with ⟨index, found⟩
      rcases columnIndex?_of_plain built found foreign with ⟨first, -, same⟩
      simp [same]

/--
An entry of the header that has no capital outside ASCII finds a column, which is the entry or
stands before it. Any other entry finds none. A query all of whose columns are entries of the header
fails for the first one that finds none.
-/
theorem query_header (built : ofRows name header rows = .ok table) :
    (∀ (index : Nat) (entry : String), header[index]? = some entry →
      if hasForeignCapital entry then table.columnIndex? entry = none
      else ∃ first ≤ index, table.columnIndex? entry = some first) ∧
    ∀ (query : QuotedQuery) (blanks : Nat), (∀ column ∈ query.names, column ∈ header) →
      ∀ column, (table.query (query.text blanks)).1 = .error (.selection (.unknownColumn column)) ↔
        query.names.find? hasForeignCapital = some column := by
  constructor
  · intro index entry found
    split
    · next foreign => exact columnIndex?_of_foreign built foreign
    · next plain => exact columnIndex?_of_plain built found (Bool.eq_false_iff.mpr plain)
  · intro query blanks spelled column
    rcases parse_of_scans (query.scans_text blanks) with ⟨statement, parsed, same⟩
    rw [query.statement_sentence, query.bare_statement] at same
    have missing : table.unknownColumn? statement = query.names.find? hasForeignCapital := by
      rw [← unknownColumn?_bare, same, unknownColumn?, query.names_statement]
      apply List.find?_congr
      intro entry mem
      rw [hasColumn_eq built (spelled entry mem), Bool.not_not]
    rw [← missing, ← execute_unknownColumn_iff, Table.query, parsed]
    cases executed : (table.execute statement).1 <;> simp [executed, Except.mapError]

/-- A table of two measures, of which only the second begins with a capital outside ASCII. -/
def measures : Table where
  name := "t"
  columns := ["größe", "ä"]
  rows := [["5", "1"]]
  rectangular := by decide

theorem ofRows_measures : ofRows "t" ["Größe", "Ä"] [["5", "1"]] = .ok measures :=
  ofRows_eq_ok_iff.mpr ⟨by decide, rfl, by decide, rfl⟩

/-- The query for one column of a table. -/
def columnQuery (table column : String) : QuotedQuery where
  column := column
  otherColumns := []
  table := table
  conditions := []
  connective := .conjunction

theorem query_measures :
    (∃ first ≤ 0, measures.columnIndex? "Größe" = some first) ∧
      measures.columnIndex? "Ä" = none ∧
      (∀ column, (measures.query ((columnQuery "t" "Größe").text 0)).1 ≠
        .error (.selection (.unknownColumn column))) ∧
      (measures.query ((columnQuery "t" "Ä").text 0)).1 =
        .error (.selection (.unknownColumn "Ä")) := by
  rcases query_header ofRows_measures with ⟨lookup, query⟩
  have named : ∀ column ∈ ["Größe", "Ä"],
      ∀ name ∈ (columnQuery "t" column).names, name ∈ ["Größe", "Ä"] := by decide
  refine ⟨lookup 0 "Größe" rfl, lookup 1 "Ä" rfl, ?_, ?_⟩
  · intro column failed
    rw [query (columnQuery "t" "Größe") 0 (named _ (by decide))] at failed
    have noForeign : (columnQuery "t" "Größe").names.find? hasForeignCapital = none := by decide
    simp [noForeign] at failed
  · rw [query (columnQuery "t" "Ä") 0 (named _ (by decide))]
    decide

/-- A column that its own name in the header does not find. -/
theorem query_missed :
    ¬∀ (name : String) (header : List String) (rows : List Row) (table : Table),
      ofRows name header rows = .ok table →
        ∀ (index : Nat) (entry : String), header[index]? = some entry →
          (∃ first ≤ index, table.columnIndex? entry = some first) ∧
            (table.query ((columnQuery name entry).text 0)).1 ≠
              .error (.selection (.unknownColumn entry)) := by
  intro found
  rcases found _ _ _ _ ofRows_measures 1 "Ä" rfl with ⟨-, answered⟩
  revert answered
  decide +kernel

end Table

end CsvSelect
