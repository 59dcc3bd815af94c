import CsvSelect.Query.Statement
import CsvSelect.Query.Token.Lexer

/-!
# Reading statements

The grammar is `SELECT` and `*` or items between commas, then perhaps `FROM` and a name, then a
sequence of clauses, then perhaps `;`, and nothing more. The sequence of clauses is read flat:
reserved words other than `WHERE` stand for themselves, and the other tokens are taken three at a
time as column, operation and operand, wherever reserved words stand between them.

Every function returns the tokens that it did not read, also when it fails. A failure leaves the
offending token as the first of them.
-/

namespace CsvSelect.Query

/-- What a statement needs where it cannot go on. -/
inductive Expected where
  | statement
  | expression
  | comma
  | tableName
  | clause
  | operation
  | operand
  | finish
deriving DecidableEq

/-- The words for what is needed. -/
def Expected.text : Expected → String
  | .statement => "SELECT statement"
  | .expression => "expression"
  | .comma => "comma"
  | .tableName => "table name after FROM"
  | .clause => "condition or AND/OR"
  | .operation => "condition operator"
  | .operand => "condition value"
  | .finish => "end of statement"

/-- Why a query is no statement. -/
inductive ParseError where
  | lexical (error : LexError)
  | unexpectedToken (expected : Expected) (found : Token)
  | unexpectedEnd (expected : Expected)
deriving DecidableEq

/-- The words for an error. -/
def ParseError.message : ParseError → String
  | .lexical error => error.message
  | .unexpectedToken expected found => s!"Expected {expected.text}, got: {found.value}"
  | .unexpectedEnd expected => s!"Expected {expected.text}, got: end of input"

/-- An answer and the tokens after it, or a failure and the tokens from the offending one on. -/
abbrev Parsed (Answer : Type) := Except ParseError Answer × List Token

/-- The failure where something else than these tokens is needed. -/
def unexpected {Answer : Type} (expected : Expected) : List Token → Parsed Answer
  | [] => (.error (.unexpectedEnd expected), [])
  | token :: rest => (.error (.unexpectedToken expected token), token :: rest)

/-- The items behind the first, each after a comma, up to `FROM`, `;` or the end. -/
def parseMoreItems (items : List Token) : List Token → Parsed (List Token)
  | [] => (.ok items.reverse, [])
  | token :: rest =>
      if token.isKeyword .FROM || token.isSymbol .semicolon then (.ok items.reverse, token :: rest)
      else if token.isSymbol .comma then
        match rest with
        | [] => unexpected .expression []
        | item :: rest =>
            if item.isExpression then parseMoreItems (item :: items) rest
            else unexpected .expression (item :: rest)
      else unexpected .comma (token :: rest)

/-- `*`, or items between commas. -/
def parseProjection : List Token → Parsed Projection
  | [] => unexpected .expression []
  | token :: rest =>
      if token.isSymbol .asterisk then (.ok .all, rest)
      else if token.isExpression then
        match parseMoreItems [token] rest with
        | (.ok items, rest) => (.ok (.items items), rest)
        | (.error error, rest) => (.error error, rest)
      else unexpected .expression (token :: rest)

/-- The name after `FROM`, or nothing without `FROM`. -/
def parseTable : List Token → Parsed (Option Token)
  | [] => (.ok none, [])
  | token :: rest =>
      if token.isKeyword .FROM then
        match rest with
        | [] => unexpected .tableName []
        | name :: rest =>
            if name.kind = .identifier then (.ok (some name), rest)
            else unexpected .tableName (name :: rest)
      else (.ok none, token :: rest)

/-- The tokens of a comparison that is not complete. -/
inductive Slots where
  | empty
  | column (column : Token)
  | operation (column operation : Token)
deriving DecidableEq

/-- The clauses up to `;` or the end, put behind those already read, which are in reverse. -/
def parseClauses (clauses : List Clause) (slots : Slots) : List Token → Parsed (List Clause)
  | [] =>
      match slots with
      | .empty => (.ok clauses.reverse, [])
      | .column _ => unexpected .operation []
      | .operation _ _ => unexpected .operand []
  | token :: rest =>
      match token.kind with
      | .keyword =>
          if token.isKeyword .WHERE then parseClauses clauses slots rest
          else parseClauses (.connective token :: clauses) slots rest
      | .symbol =>
          if token.isSymbol .semicolon then
            match slots with
            | .empty => (.ok clauses.reverse, token :: rest)
            | .column _ => unexpected .operation (token :: rest)
            | .operation _ _ => unexpected .operand (token :: rest)
          else unexpected .clause (token :: rest)
      | _ =>
          match slots with
          | .empty => parseClauses clauses (.column token) rest
          | .column column => parseClauses clauses (.operation column token) rest
          | .operation column operation =>
              parseClauses (.condition ⟨column, operation, token⟩ :: clauses) .empty rest

/-- Perhaps `;`, then the end. -/
def parseFinish : List Token → Parsed Unit
  | [] => (.ok (), [])
  | token :: rest =>
      if token.isSymbol .semicolon then
        match rest with
        | [] => (.ok (), [])
        | extra :: rest => unexpected .finish (extra :: rest)
      else unexpected .finish (token :: rest)

/-- The statement behind `SELECT`. -/
def parseSelection (tokens : List Token) : Parsed Statement :=
  match parseProjection tokens with
  | (.error error, rest) => (.error error, rest)
  | (.ok projection, rest) =>
      match parseTable rest with
      | (.error error, rest) => (.error error, rest)
      | (.ok table, rest) =>
          match parseClauses [] .empty rest with
          | (.error error, rest) => (.error error, rest)
          | (.ok clauses, rest) =>
              match parseFinish rest with
              | (.error error, rest) => (.error error, rest)
              | (.ok (), rest) => (.ok { projection, table, clauses }, rest)

/-- A statement that takes up all the tokens. -/
def parseTokens : List Token → Parsed Statement
  | [] => unexpected .statement []
  | token :: rest =>
      if token.isKeyword .SELECT then parseSelection rest
      else unexpected .statement (token :: rest)

/-- The statement that a query is. -/
def parse (source : String) : Except ParseError Statement :=
  match lex source with
  | .error error => .error (.lexical error)
  | .ok tokens => (parseTokens tokens).1

end CsvSelect.Query
