import Mathlib.Data.List.Basic
import CsvSelect.Proofs.Query.Grammar

/-!
# The tokens of clauses

The clauses of a body keep its operands: put back in order, the tokens of the conditions are the
operands of the body, and no connective is one (`operands_clausesAfter`). In the other direction
clauses can be written out as a body again, and a body that is written out stands for the clauses
that it was made of (`clausesAfter_flatMap_tokens`).
-/

namespace CsvSelect.Query

def Condition.tokens (condition : Condition) : List Token :=
  [condition.column, condition.operation, condition.operand]

def Clause.tokens : Clause → List Token
  | .condition comparison => comparison.tokens
  | .connective word => [word]

/-- The clause can be read: its parts are operands, or it is a reserved word other than `WHERE`. -/
def Clause.Readable : Clause → Prop
  | .condition comparison => ∀ token ∈ comparison.tokens, token.kind ≠ .keyword
  | .connective word => word.kind = .keyword ∧ ¬word.isKeyword .WHERE

/-- The tokens of the statement that are no reserved words or punctuation, in order. -/
def Statement.operands (statement : Statement) : List Token :=
  statement.projection.named ++ statement.table.toList ++
    statement.conditions.flatMap Condition.tokens

theorem mem_of_mem_openOperands {tokens : List Token} {token : Token}
    (mem : token ∈ openOperands tokens) : token ∈ tokens ∧ token.kind ≠ .keyword := by
  have kept := List.mem_filter.mp (List.mem_of_mem_drop mem)
  rwa [Token.isOperand_eq_true] at kept

/-- A token adds to the open operands, or completes a condition with them, or leaves them. -/
theorem clauseAt?_cases (before : List Token) (token : Token) :
    (token.kind = .keyword ∧ openOperands (before ++ [token]) = openOperands before ∧
      clauseAt? before token = if token.isKeyword .WHERE then none else some (.connective token)) ∨
    (token.kind ≠ .keyword ∧ openOperands (before ++ [token]) = openOperands before ++ [token] ∧
      clauseAt? before token = none) ∨
    (token.kind ≠ .keyword ∧ openOperands (before ++ [token]) = [] ∧
      ∃ column operation, openOperands before = [column, operation] ∧
        clauseAt? before token = some (.condition ⟨column, operation, token⟩)) := by
  by_cases keyword : token.kind = .keyword
  · left
    refine ⟨keyword, openOperands_append_of_keyword before keyword, ?_⟩
    simp [clauseAt?, Token.isOperand_eq_false.mpr keyword]
  · right
    have operand : token.isOperand = true := Token.isOperand_eq_true.mpr keyword
    rw [openOperands_append_of_operand before keyword]
    by_cases complete : (openOperands before).length = 2
    · right
      rcases List.length_eq_two.mp complete with ⟨column, operation, waiting⟩
      refine ⟨keyword, by simp [complete], column, operation, waiting, ?_⟩
      simp [clauseAt?, operand, waiting]
    · left
      refine ⟨keyword, by simp [complete], ?_⟩
      simp only [clauseAt?, operand, if_true]
      split
      · next column operation waiting => simp [waiting] at complete
      · rfl

theorem mem_of_clauseAt? {before : List Token} {token : Token} {clause : Clause}
    (found : clauseAt? before token = some clause) :
    clause.Readable ∧ ∀ part ∈ clause.tokens, part ∈ before ++ [token] := by
  rcases clauseAt?_cases before token with
    ⟨keyword, -, same⟩ | ⟨-, -, same⟩ | ⟨operand, -, column, operation, waiting, same⟩
  · rw [same, Option.ite_none_left_eq_some] at found
    rcases found with ⟨notWhere, same⟩
    rcases Option.some.inj same with rfl
    exact ⟨⟨keyword, notWhere⟩, by simp [Clause.tokens]⟩
  · simp [same] at found
  · rw [same] at found
    rcases Option.some.inj found with rfl
    have first : column ∈ before ∧ column.kind ≠ .keyword :=
      mem_of_mem_openOperands (by simp [waiting])
    have second : operation ∈ before ∧ operation.kind ≠ .keyword :=
      mem_of_mem_openOperands (by simp [waiting])
    constructor
    · simp [Clause.Readable, Condition.tokens, first.2, second.2, operand]
    · simp [Clause.tokens, Condition.tokens, first.1, second.1]

/-- Every clause of a body is readable and made of tokens of the body. -/
theorem mem_of_mem_clausesAfter {before body : List Token} {clause : Clause}
    (mem : clause ∈ clausesAfter before body) :
    clause.Readable ∧ ∀ part ∈ clause.tokens, part ∈ before ++ body := by
  induction body generalizing before with
  | nil => simp [clausesAfter] at mem
  | cons token body ih =>
      rw [clausesAfter, List.mem_append, Option.mem_toList] at mem
      rcases mem with here | later
      · rcases mem_of_clauseAt? here with ⟨readable, parts⟩
        refine ⟨readable, ?_⟩
        intro part partMem
        have found := parts part partMem
        rw [List.mem_append, List.mem_singleton] at found
        rw [List.mem_append, List.mem_cons]
        rcases found with earlier | same
        · exact Or.inl earlier
        · exact Or.inr (Or.inl same)
      · rcases ih later with ⟨readable, parts⟩
        refine ⟨readable, ?_⟩
        intro part partMem
        simpa using parts part partMem

/-- The operands of a body are those of its conditions, apart from those that are left open. -/
theorem operands_clausesAfter (before body : List Token) :
    openOperands before ++ body.filter Token.isOperand =
      ((clausesAfter before body).filterMap Clause.condition?).flatMap Condition.tokens ++
        openOperands (before ++ body) := by
  induction body generalizing before with
  | nil => simp [clausesAfter]
  | cons token body ih =>
      have later := ih (before ++ [token])
      rw [List.append_assoc, List.singleton_append] at later
      rcases clauseAt?_cases before token with
        ⟨keyword, waiting, found⟩ | ⟨operand, waiting, found⟩ |
          ⟨operand, waiting, column, operation, pending, found⟩
      · have none : (clauseAt? before token).toList.filterMap Clause.condition? = [] := by
          rw [found]
          split <;> rfl
        rw [List.filter_cons_of_neg (by simp [keyword]), clausesAfter, List.filterMap_append, none,
          List.nil_append, ← later, waiting]
      · rw [List.filter_cons_of_pos (by simp [operand]), clausesAfter, found, Option.toList_none,
          List.nil_append, ← later, waiting, List.append_assoc, List.singleton_append]
      · rw [waiting, List.nil_append] at later
        rw [List.filter_cons_of_pos (by simp [operand]), clausesAfter, found, pending, later]
        simp [Clause.condition?, Condition.tokens]

/-- Readable clauses that are written out one after the other are read as they are. -/
theorem clausesAfter_flatMap_tokens {before : List Token} (closed : openOperands before = [])
    {clauses : List Clause} (readable : ∀ clause ∈ clauses, clause.Readable) :
    clausesAfter before (clauses.flatMap Clause.tokens) = clauses ∧
      openOperands (before ++ clauses.flatMap Clause.tokens) = [] := by
  induction clauses generalizing before with
  | nil => simpa [clausesAfter] using closed
  | cons clause clauses ih =>
      have here := readable clause List.mem_cons_self
      have others (clause : Clause) (mem : clause ∈ clauses) :=
        readable clause (List.mem_cons_of_mem _ mem)
      cases clause with
      | connective word =>
          rcases here with ⟨keyword, notWhere⟩
          have stillClosed : openOperands (before ++ [word]) = [] := by
            rw [openOperands_append_of_keyword before keyword, closed]
          rcases ih stillClosed others with ⟨same, ends⟩
          constructor
          · simp [Clause.tokens, clausesAfter, clauseAt?, Token.isOperand_eq_false.mpr keyword,
              notWhere, same]
          · simpa [Clause.tokens] using ends
      | condition comparison =>
          rcases comparison with ⟨column, operation, operand⟩
          simp only [Clause.Readable, Condition.tokens, List.mem_cons, List.not_mem_nil, or_false,
            forall_eq_or_imp, forall_eq] at here
          rcases here with ⟨isColumn, isOperation, isOperand⟩
          -- The operands open a condition one after the other, and the third one completes it.
          have one : openOperands (before ++ [column]) = [column] := by
            rw [openOperands_append_of_operand before isColumn, closed]
            rfl
          have two : openOperands (before ++ [column] ++ [operation]) = [column, operation] := by
            rw [openOperands_append_of_operand _ isOperation, one]
            rfl
          have three : openOperands (before ++ [column] ++ [operation] ++ [operand]) = [] := by
            rw [openOperands_append_of_operand _ isOperand, two]
            rfl
          rcases ih three others with ⟨same, ends⟩
          simp only [List.append_assoc, List.cons_append, List.nil_append] at two same
          constructor
          · simp [Clause.tokens, Condition.tokens, clausesAfter, clauseAt?, isColumn, isOperation,
              isOperand, closed, one, two, same]
          · simpa [Clause.tokens, Condition.tokens] using ends

end CsvSelect.Query
