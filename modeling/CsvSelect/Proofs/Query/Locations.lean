import CsvSelect.Query.Statement.Parser

/-!
# Reading without positions

The positions of tokens play no part in reading a statement. A token without its position is `bare`,
and so is whatever is made of such tokens. Every reading function commutes with leaving out the
positions, in its answer, in its failure and in the tokens that it returns. Two lists of tokens
that differ only in positions are therefore read as statements that differ only in positions.
-/

namespace CsvSelect.Query

/-- The token without its position. -/
def Token.bare (token : Token) : Token :=
  { token with location := {} }

namespace Token

@[simp]
theorem kind_bare (token : Token) : token.bare.kind = token.kind := rfl

@[simp]
theorem isKeyword_bare (token : Token) (keyword : Keyword) :
    token.bare.isKeyword keyword = token.isKeyword keyword := rfl

@[simp]
theorem isSymbol_bare (token : Token) (symbol : Symbol) :
    token.bare.isSymbol symbol = token.isSymbol symbol := rfl

@[simp]
theorem isExpression_bare (token : Token) : token.bare.isExpression = token.isExpression := rfl

end Token

def Projection.bare : Projection → Projection
  | .all => .all
  | .items tokens => .items (tokens.map Token.bare)

def Condition.bare (condition : Condition) : Condition :=
  ⟨condition.column.bare, condition.operation.bare, condition.operand.bare⟩

def Clause.bare : Clause → Clause
  | .condition comparison => .condition comparison.bare
  | .connective word => .connective word.bare

def Statement.bare (statement : Statement) : Statement where
  projection := statement.projection.bare
  table := statement.table.map Token.bare
  clauses := statement.clauses.map Clause.bare

/-- The error without the position of the offending token. -/
def ParseError.bare : ParseError → ParseError
  | .unexpectedToken expected found => .unexpectedToken expected found.bare
  | error => error

/-- What was read and what is left, without positions. -/
def Parsed.bare {Answer : Type} (erase : Answer → Answer) (parsed : Parsed Answer) :
    Parsed Answer :=
  ((parsed.1.map erase).mapError ParseError.bare, parsed.2.map Token.bare)

def Slots.bare : Slots → Slots
  | .empty => .empty
  | .column first => .column first.bare
  | .operation first second => .operation first.bare second.bare

section

variable {Answer : Type} (erase : Answer → Answer)

@[simp]
theorem Parsed.bare_ok (answer : Answer) (rest : List Token) :
    Parsed.bare erase (.ok answer, rest) = (.ok (erase answer), rest.map Token.bare) := rfl

@[simp]
theorem unexpected_bare (expected : Expected) (tokens : List Token) :
    (unexpected expected tokens).bare erase = unexpected expected (tokens.map Token.bare) := by
  cases tokens <;> rfl

end

theorem parseMoreItems_bare (items tokens : List Token) :
    parseMoreItems (items.map Token.bare) (tokens.map Token.bare) =
      (parseMoreItems items tokens).bare (List.map Token.bare) := by
  fun_induction parseMoreItems items tokens with
  | case1 items => simp [parseMoreItems]
  | case2 items token rest stop =>
      cases rest <;> simp [parseMoreItems, stop]
  | case3 items token stop comma => simp [parseMoreItems, stop, comma]
  | case4 items token stop comma item rest isExpression ih =>
      simpa [parseMoreItems, stop, comma, isExpression] using ih
  | case5 items token stop comma item rest noExpression =>
      simp [parseMoreItems, stop, comma, noExpression]
  | case6 items token rest stop noComma =>
      cases rest <;> simp [parseMoreItems, stop, noComma]

theorem parseProjection_bare (tokens : List Token) :
    parseProjection (tokens.map Token.bare) = (parseProjection tokens).bare Projection.bare := by
  cases tokens with
  | nil => simp [parseProjection]
  | cons token rest =>
      have more := parseMoreItems_bare [token] rest
      by_cases asterisk : token.isSymbol .asterisk
      · simp [parseProjection, asterisk, Projection.bare]
      · by_cases isExpression : token.isExpression
        · simp only [List.map_cons, List.map_nil] at more
          simp only [List.map_cons, parseProjection, Token.isSymbol_bare, asterisk,
            Token.isExpression_bare, isExpression, more]
          rcases parseMoreItems [token] rest with ⟨error | items, left⟩ <;> rfl
        · simp [parseProjection, asterisk, isExpression]

theorem parseTable_bare (tokens : List Token) :
    parseTable (tokens.map Token.bare) = (parseTable tokens).bare (Option.map Token.bare) := by
  cases tokens with
  | nil => rfl
  | cons token rest =>
      by_cases fromWord : token.isKeyword .FROM
      · cases rest with
        | nil => simp [parseTable, fromWord]
        | cons name rest =>
            by_cases identifier : name.kind = .identifier <;>
              simp [parseTable, fromWord, identifier]
      · simp [parseTable, fromWord]

theorem parseClauses_bare (clauses : List Clause) (slots : Slots) (tokens : List Token) :
    parseClauses (clauses.map Clause.bare) slots.bare (tokens.map Token.bare) =
      (parseClauses clauses slots tokens).bare (List.map Clause.bare) := by
  induction tokens generalizing clauses slots with
  | nil => cases slots <;> simp [parseClauses, Slots.bare]
  | cons token rest ih =>
      cases kind : token.kind with
      | keyword =>
          by_cases whereWord : token.isKeyword .WHERE
          · simpa [parseClauses, kind, whereWord] using ih clauses slots
          · simp only [List.map_cons, parseClauses, Token.kind_bare, kind, Token.isKeyword_bare,
              whereWord]
            exact ih (.connective token :: clauses) slots
      | symbol =>
          by_cases semicolon : token.isSymbol .semicolon
          · cases slots <;> simp [parseClauses, kind, semicolon, Slots.bare]
          · simp [parseClauses, kind, semicolon]
      | _ =>
          simp only [List.map_cons, parseClauses, Token.kind_bare, kind]
          cases slots with
          | empty => exact ih clauses (.column token)
          | column first => exact ih clauses (.operation first token)
          | operation first second =>
              exact ih (.condition ⟨first, second, token⟩ :: clauses) .empty

theorem parseFinish_bare (tokens : List Token) :
    parseFinish (tokens.map Token.bare) = (parseFinish tokens).bare id := by
  cases tokens with
  | nil => rfl
  | cons token rest =>
      by_cases semicolon : token.isSymbol .semicolon
      · cases rest <;> simp [parseFinish, semicolon]
      · simp [parseFinish, semicolon]

theorem parseSelection_bare (tokens : List Token) :
    parseSelection (tokens.map Token.bare) = (parseSelection tokens).bare Statement.bare := by
  have clausesBare (tokens : List Token) := parseClauses_bare [] .empty tokens
  simp only [List.map_nil, Slots.bare] at clausesBare
  simp only [parseSelection, parseProjection_bare]
  rcases parseProjection tokens with ⟨error | projection, afterColumns⟩
  · rfl
  · simp only [Parsed.bare_ok, parseTable_bare]
    rcases parseTable afterColumns with ⟨error | table, afterTable⟩
    · rfl
    · simp only [Parsed.bare_ok, clausesBare]
      rcases parseClauses [] .empty afterTable with ⟨error | clauses, afterBody⟩
      · rfl
      · simp only [Parsed.bare_ok, parseFinish_bare]
        rcases parseFinish afterBody with ⟨error | finish, rest⟩ <;> rfl

/-- Reading commutes with leaving out positions. -/
theorem parseTokens_bare (tokens : List Token) :
    parseTokens (tokens.map Token.bare) = (parseTokens tokens).bare Statement.bare := by
  cases tokens with
  | nil => rfl
  | cons token rest =>
      by_cases select : token.isKeyword .SELECT
      · simpa [parseTokens, select] using parseSelection_bare rest
      · simp [parseTokens, select]

/-- What is read from tokens determines what is read from the same tokens at other positions. -/
theorem parseTokens_of_bare {tokens others : List Token}
    (same : tokens.map Token.bare = others.map Token.bare) {statement : Statement}
    (read : (parseTokens tokens).1 = .ok statement) :
    ∃ again, (parseTokens others).1 = .ok again ∧ again.bare = statement.bare := by
  have both := congrArg Prod.fst (congrArg parseTokens same)
  rw [parseTokens_bare, parseTokens_bare, Parsed.bare, Parsed.bare, read] at both
  cases found : (parseTokens others).1 with
  | error error =>
      rw [found] at both
      exact absurd both (by rintro ⟨⟩)
  | ok again =>
      rw [found] at both
      exact ⟨again, rfl, (Except.ok.inj both).symm⟩

end CsvSelect.Query
