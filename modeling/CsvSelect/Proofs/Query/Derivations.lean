import CsvSelect.Proofs.Query.Clauses

/-!
# Derivations

The language of queries also has a grammar in which conditions and connectives alternate:

    statement  ::= SELECT projection (FROM name)? search? ;?
    projection ::= * | expression (, expression)*
    search     ::= WHERE comparison ((AND | OR) comparison)*
    comparison ::= name operation expression
    expression ::= name | number | text

A `Derivation` in this grammar has tokens and a statement. This file compares the statement with the
one that is read from the tokens (`parseTokens_derivation`). They are the same, except that a search
cannot follow items: only `FROM` or a semicolon ends a list of items, so `WHERE` is taken for an
item without its comma. Behind an asterisk, which is a whole projection, a search needs no `FROM`.
-/

namespace CsvSelect.Query

/-! ### The grammar -/

/-- The tokens of a comparison: a name, an operation, and a name, a number or a text. -/
structure SimpleComparison where
  condition : Condition
  isName : condition.column.kind = .identifier
  isOperation : condition.operation.kind = .operation
  isExpression : condition.operand.isExpression

/-- A comparison that is not the first, with the connective before it. -/
structure FurtherComparison where
  word : Token
  comparison : SimpleComparison
  isConnective : word.isKeyword .AND ∨ word.isKeyword .OR

/-- The reserved word `WHERE` and at least one comparison. -/
structure Search where
  word : Token
  first : SimpleComparison
  others : List FurtherComparison
  isWhere : word.isKeyword .WHERE

namespace FurtherComparison

def clauses (further : FurtherComparison) : List Clause :=
  [.connective further.word, .condition further.comparison.condition]

def tokens (further : FurtherComparison) : List Token :=
  further.word :: further.comparison.condition.tokens

end FurtherComparison

namespace Search

/-- The conditions and connectives in turn. -/
def clauses (search : Search) : List Clause :=
  .condition search.first.condition :: search.others.flatMap FurtherComparison.clauses

def tokens (search : Search) : List Token :=
  search.word :: (search.first.condition.tokens ++
    search.others.flatMap FurtherComparison.tokens)

end Search

/-- The tokens of a statement in this grammar, part by part. -/
structure Derivation where
  select : Token
  columns : Columns
  origin : Option Origin
  search : Option Search
  finish : Option Token
  isSelect : select.isKeyword .SELECT
  isFinish : ∀ token ∈ finish, token.isSymbol .semicolon

namespace Derivation

/-- The tokens of the search, if there is one. -/
def body (derivation : Derivation) : List Token :=
  (derivation.search.map Search.tokens).getD []

def tokens (derivation : Derivation) : List Token :=
  derivation.select :: (derivation.columns.tokens ++ Origin.tokens derivation.origin ++
    derivation.body ++ derivation.finish.toList)

/-- The statement that is derived. -/
def statement (derivation : Derivation) : Statement where
  projection := derivation.columns.projection
  table := derivation.origin.map Origin.name
  clauses := (derivation.search.map Search.clauses).getD []

/-- The word `WHERE` if it follows items. -/
def strayWord? (derivation : Derivation) : Option Token :=
  match derivation.columns, derivation.origin with
  | .items _ _ _, none => derivation.search.map Search.word
  | _, _ => none

end Derivation

/-! ### Searches in the body of a statement -/

theorem SimpleComparison.readable (comparison : SimpleComparison) :
    (Clause.condition comparison.condition).Readable := by
  have operand : comparison.condition.operand.kind ≠ .keyword := by
    intro keyword
    simpa [Token.isExpression, keyword] using comparison.isExpression
  simp [Clause.Readable, Condition.tokens, comparison.isName, comparison.isOperation, operand]

theorem FurtherComparison.readable (further : FurtherComparison) :
    ∀ clause ∈ further.clauses, clause.Readable := by
  have connective : (Clause.connective further.word).Readable := by
    simp only [Clause.Readable, Token.isKeyword_iff]
    rcases further.isConnective with word | word <;>
      simp [Token.isKeyword_iff.mp word, Keyword.text]
  simp [clauses, connective, further.comparison.readable]

theorem SimpleComparison.kind_ne_symbol (comparison : SimpleComparison) :
    ∀ token ∈ comparison.condition.tokens, token.kind ≠ .symbol := by
  have operand : comparison.condition.operand.kind ≠ .symbol := by
    intro symbol
    simpa [Token.isExpression, symbol] using comparison.isExpression
  simp [Condition.tokens, comparison.isName, comparison.isOperation, operand]

namespace Search

theorem readable (search : Search) : ∀ clause ∈ search.clauses, clause.Readable := by
  intro clause mem
  rcases List.mem_cons.mp mem with rfl | later
  · exact search.first.readable
  · rcases List.mem_flatMap.mp later with ⟨further, -, mem⟩
    exact further.readable clause mem

theorem tokens_eq (search : Search) :
    search.tokens = search.word :: search.clauses.flatMap Clause.tokens := by
  have written : search.others.flatMap FurtherComparison.tokens =
      (search.others.flatMap FurtherComparison.clauses).flatMap Clause.tokens := by
    rw [List.flatMap_assoc]
    rfl
  rw [tokens, written]
  rfl

theorem kind_ne_symbol (search : Search) : ∀ token ∈ search.tokens, token.kind ≠ .symbol := by
  have noSymbol {word : Token} {keyword : Keyword} (isKeyword : word.isKeyword keyword) :
      word.kind ≠ .symbol := by
    simp [Token.isKeyword_iff.mp isKeyword]
  intro token mem
  rcases List.mem_cons.mp mem with rfl | mem
  · exact noSymbol search.isWhere
  · rcases List.mem_append.mp mem with first | others
    · exact search.first.kind_ne_symbol token first
    · rcases List.mem_flatMap.mp others with ⟨further, -, mem⟩
      rcases List.mem_cons.mp mem with rfl | mem
      · exact further.isConnective.elim noSymbol noSymbol
      · exact further.comparison.kind_ne_symbol token mem

/-- A search stands for its clauses, and no operand is left over. -/
theorem clausesAfter_tokens (search : Search) :
    clausesAfter [] search.tokens = search.clauses ∧ openOperands search.tokens = [] := by
  have word := Token.isKeyword_iff.mp search.isWhere
  have closed : openOperands [search.word] = [] :=
    (openOperands_append_of_keyword [] word.1).trans openOperands_nil
  have silent : clauseAt? [] search.word = none := by
    simp [clauseAt?, Token.isOperand_eq_false.mpr word.1, search.isWhere]
  rcases clausesAfter_flatMap_tokens closed search.readable with ⟨same, ends⟩
  rw [tokens_eq]
  refine ⟨?_, ends⟩
  simpa [clausesAfter, silent] using same

end Search

/-! ### Reading derivations -/

namespace Derivation

theorem kind_ne_symbol (derivation : Derivation) :
    ∀ token ∈ derivation.body, token.kind ≠ .symbol := by
  cases found : derivation.search with
  | none => simp [body, found]
  | some search => simpa [body, found] using search.kind_ne_symbol

theorem clausesAfter_body (derivation : Derivation) :
    clausesAfter [] derivation.body = derivation.statement.clauses ∧
      openOperands derivation.body = [] := by
  cases found : derivation.search with
  | none => simp [body, statement, found, clausesAfter]
  | some search => simpa [body, statement, found] using search.clausesAfter_tokens

/-- The body begins with `WHERE`. -/
theorem noFrom_body (derivation : Derivation) :
    ∀ token ∈ derivation.body.head?, ¬token.isKeyword .FROM := by
  intro token mem
  cases found : derivation.search with
  | none => simp [body, found] at mem
  | some search =>
      have same : search.word = token := by simpa [body, found, Search.tokens] using mem
      rw [← same, Token.isKeyword_iff]
      simp [Token.isKeyword_iff.mp search.isWhere, Keyword.text]

/-- A derivation in which no search follows items is a sentence. -/
def sentence (derivation : Derivation) (inPlace : derivation.strayWord? = none) : Sentence where
  select := derivation.select
  columns := derivation.columns
  origin := derivation.origin
  body := derivation.body
  finish := derivation.finish
  isSelect := derivation.isSelect
  noSymbol := derivation.kind_ne_symbol
  inThrees := openOperands_eq_nil_iff.mp derivation.clausesAfter_body.2
  isFinish := derivation.isFinish
  noFrom _ := derivation.noFrom_body
  noBody noTable named := by
    cases columns : derivation.columns with
    | all asterisk isAsterisk => simp [columns, Columns.projection] at named
    | items first isExpression others =>
        have noSearch : derivation.search = none := by
          simpa [strayWord?, columns, noTable] using inPlace
        simp [body, noSearch]

theorem statement_sentence (derivation : Derivation) (inPlace : derivation.strayWord? = none) :
    (derivation.sentence inPlace).statement = derivation.statement := by
  have clauses : clausesAfter [] (derivation.sentence inPlace).body =
      derivation.statement.clauses := derivation.clausesAfter_body.1
  rw [Sentence.statement, clauses]
  rfl

end Derivation

/-- Behind any number of items the reader stands where it stood before them. -/
theorem parseMoreItems_append (others : List FurtherItem) (items rest : List Token) :
    parseMoreItems items (others.flatMap FurtherItem.tokens ++ rest) =
      parseMoreItems ((others.map FurtherItem.item).reverse ++ items) rest := by
  induction others generalizing items with
  | nil => rfl
  | cons further others ih =>
      rw [List.flatMap_cons, List.append_assoc, parseMoreItems_furtherItem, ih]
      simp

/-- A search behind items is refused at its first word. -/
theorem parseProjection_search {first : Token} (isExpression : first.isExpression)
    (others : List FurtherItem) (search : Search) (rest : List Token) :
    parseProjection (first :: others.flatMap FurtherItem.tokens ++ (search.tokens ++ rest)) =
      (.error (.unexpectedToken .comma search.word), search.tokens ++ rest) := by
  have word := Token.isKeyword_iff.mp search.isWhere
  have notFrom : ¬search.word.isKeyword .FROM := by simp [Token.isKeyword_iff, word, Keyword.text]
  have noSymbol (symbol : Symbol) : ¬search.word.isSymbol symbol := by
    simp [Token.isSymbol_iff, word]
  have notAsterisk : ¬first.isSymbol .asterisk := by
    rw [Token.isSymbol_iff]
    rintro ⟨kind, -⟩
    simp [Token.isExpression, kind] at isExpression
  have stuck (items : List Token) : parseMoreItems items (search.tokens ++ rest) =
      (.error (.unexpectedToken .comma search.word), search.tokens ++ rest) := by
    simp [Search.tokens, Condition.tokens, parseMoreItems, notFrom, noSymbol, unexpected]
  simp [parseProjection, notAsterisk, isExpression, parseMoreItems_append, stuck]

/--
The tokens of a derivation are read as the statement that is derived, unless a search follows items;
then the word `WHERE` is refused, since a comma is expected in its place.
-/
theorem parseTokens_derivation (derivation : Derivation) :
    (parseTokens derivation.tokens).1 =
      match derivation.strayWord? with
      | none => .ok derivation.statement
      | some word => .error (.unexpectedToken .comma word) := by
  cases stray : derivation.strayWord? with
  | none =>
      have read := (derivation.sentence stray).parseTokens_tokens
      rw [derivation.statement_sentence stray] at read
      exact congrArg Prod.fst read
  | some word =>
      rw [Derivation.strayWord?] at stray
      split at stray
      · next first isExpression others columns origin =>
          rcases Option.map_eq_some_iff.mp stray with ⟨search, found, rfl⟩
          have refused := parseProjection_search isExpression others search
            derivation.finish.toList
          simp only [List.cons_append] at refused
          simp [Derivation.tokens, Derivation.body, columns, origin, found, Columns.tokens,
            Origin.tokens, parseTokens, derivation.isSelect, parseSelection, refused]
      · simp at stray

/-- The derivation of `select a where b = 1;`. -/
def searchWithoutTable : Derivation where
  select := { kind := .keyword, value := "select" }
  columns := .items { kind := .identifier, value := "a" } rfl []
  origin := none
  search := some {
    word := { kind := .keyword, value := "where" }
    first := {
      condition := {
        column := { kind := .identifier, value := "b" }
        operation := { kind := .operation, value := "=" }
        operand := { kind := .numeric, value := "1" } }
      isName := rfl
      isOperation := rfl
      isExpression := rfl }
    others := []
    isWhere := by decide }
  finish := some { kind := .symbol, value := ";" }
  isSelect := by decide
  isFinish := by
    rintro _ ⟨⟩
    decide

/-- Not every derivation is read. -/
theorem derivation_refused :
    ¬∀ derivation : Derivation, (parseTokens derivation.tokens).1 = .ok derivation.statement := by
  intro readAll
  have read := readAll searchWithoutTable
  revert read
  decide

end CsvSelect.Query
