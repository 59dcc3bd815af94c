import CsvSelect.Proofs.Query.Rendering

/-!
# Queries of quoted data

A query can be put together from names and texts that come from elsewhere. Each name stands between
double quotes and each text between single quotes, and inside them the delimiter is doubled. This
file shows that such a query is read as the statement of exactly these names and texts, whatever
characters they hold (`QuotedQuery.parse_text`): none of them ends its literal early, becomes a
reserved word or runs into what follows.

As with rendered statements, the text is scanned from the back. Behind every literal stands a
character that continues no lexeme, a blank, a comma or the semicolon, so each literal may be put in
front of what was scanned before. What is scanned are the tokens of a sentence, and its meaning is
the statement (`parse_of_scans`). A query for whole rows is scanned in the same way
(`RowQuery.scans_text`).
-/

namespace CsvSelect.Query

open Text

/-! ### Quoted data -/

def quotedName (name : String) : String :=
  String.ofList (Quoted.enclose '"' name.toList)

def quotedText (text : String) : String :=
  String.ofList (Quoted.enclose '\'' text.toList)

/-- The comparison of a column with a text. -/
structure TextCondition where
  column : String
  operator : Operator
  value : String

/-- The names and texts of a query. The connective stands between any two of the conditions. -/
structure QuotedQuery where
  column : String
  otherColumns : List String
  table : String
  conditions : List TextCondition
  connective : Connective

def Connective.keyword : Connective → Keyword
  | .conjunction => .AND
  | .disjunction => .OR

def TextCondition.text (condition : TextCondition) : String :=
  " ".intercalate
    [quotedName condition.column, condition.operator.text, quotedText condition.value]

namespace QuotedQuery

def columns (query : QuotedQuery) : List String :=
  query.column :: query.otherColumns

/-- The part of the text behind the table, which is left out if there are no conditions. -/
def conditionsText (query : QuotedQuery) : String :=
  if query.conditions.isEmpty then ""
  else " where " ++ (" " ++ query.connective.keyword.text ++ " ").intercalate
    (query.conditions.map TextCondition.text)

/-- The query as it is written, with so many blanks before the semicolon. -/
def text (query : QuotedQuery) (blanks : Nat) : String :=
  "select " ++ ", ".intercalate (query.columns.map quotedName) ++ " from " ++
    quotedName query.table ++ query.conditionsText ++
      String.ofList (List.replicate blanks ' ') ++ ";"

end QuotedQuery

/-! ### The statement of the data -/

namespace Token

def ofKeyword (keyword : Keyword) : Token where
  kind := .keyword
  value := keyword.text

def ofSymbol (symbol : Symbol) : Token where
  kind := .symbol
  value := symbol.text

def ofName (name : String) : Token where
  kind := .identifier
  value := name

end Token

def TextCondition.condition (condition : TextCondition) : Condition where
  column := .ofName condition.column
  operation := { kind := .operation, value := condition.operator.text }
  operand := { kind := .string, value := condition.value }

namespace QuotedQuery

/-- The conditions with the connective between them. -/
def clauses (query : QuotedQuery) : List Clause :=
  (query.conditions.map fun condition => .condition condition.condition).intersperse
    (.connective (.ofKeyword query.connective.keyword))

/-- What the query asks for, without positions. -/
def statement (query : QuotedQuery) : Statement where
  projection := .items (query.columns.map Token.ofName)
  table := some (.ofName query.table)
  clauses := query.clauses

theorem mem_clauses {query : QuotedQuery} {clause : Clause} (mem : clause ∈ query.clauses) :
    clause = .connective (.ofKeyword query.connective.keyword) ∨
      ∃ condition : TextCondition, clause = .condition condition.condition := by
  rcases List.mem_iff_getElem.mp mem with ⟨index, bound, rfl⟩
  simp only [clauses, List.getElem_intersperse, List.getElem_map]
  split
  · exact Or.inr ⟨_, rfl⟩
  · exact Or.inl rfl

theorem readable_clauses (query : QuotedQuery) :
    ∀ clause ∈ query.clauses, clause.Readable := by
  intro clause mem
  rcases mem_clauses mem with rfl | ⟨condition, rfl⟩
  · cases query.connective <;> simp [Clause.Readable, Token.ofKeyword] <;> decide
  · simp [Clause.Readable, Condition.tokens, TextCondition.condition, Token.ofName]

theorem noSymbol_bodyOf (query : QuotedQuery) :
    ∀ token ∈ bodyOf query.clauses, token.kind ≠ .symbol := by
  intro token mem
  simp only [bodyOf] at mem
  split at mem
  · simp at mem
  · rcases List.mem_cons.mp mem with rfl | part
    · decide
    · rcases List.mem_flatMap.mp part with ⟨clause, clauseMem, part⟩
      rcases mem_clauses clauseMem with rfl | ⟨condition, rfl⟩
      · rcases List.mem_singleton.mp part with rfl
        simp [Token.ofKeyword]
      · simp only [Clause.tokens, Condition.tokens, TextCondition.condition, Token.ofName,
          List.mem_cons, List.not_mem_nil, or_false] at part
        rcases part with rfl | rfl | rfl <;> simp

/-- A column behind the first one, with the comma before it. -/
def furtherItem (name : String) : FurtherItem where
  comma := .ofSymbol .comma
  item := .ofName name
  isComma := by decide
  isExpression := rfl

/-- The tokens that the query consists of. -/
def sentence (query : QuotedQuery) : Sentence where
  select := .ofKeyword .SELECT
  columns := .items (.ofName query.column) rfl (query.otherColumns.map furtherItem)
  origin := some ⟨.ofKeyword .FROM, .ofName query.table, by decide, rfl⟩
  body := bodyOf query.clauses
  finish := some (.ofSymbol .semicolon)
  isSelect := by decide
  noSymbol := query.noSymbol_bodyOf
  inThrees := openOperands_eq_nil_iff.mp (clausesAfter_bodyOf query.readable_clauses).2
  isFinish := by
    intro token mem
    rcases Option.some.inj mem with rfl
    decide
  noFrom := by simp
  noBody := by simp

theorem statement_sentence (query : QuotedQuery) : query.sentence.statement = query.statement := by
  have clauses : clausesAfter [] query.sentence.body = query.clauses :=
    (clausesAfter_bodyOf query.readable_clauses).1
  have items : (query.otherColumns.map furtherItem).map FurtherItem.item =
      query.otherColumns.map Token.ofName := by
    rw [List.map_map]
    rfl
  rw [Sentence.statement, clauses, statement, columns, List.map_cons, ← items]
  rfl

theorem bare_statement (query : QuotedQuery) : query.statement.bare = query.statement := by
  have clauses : query.clauses.map Clause.bare = query.clauses.map id := by
    apply List.map_congr_left
    intro clause mem
    rcases mem_clauses mem with rfl | ⟨condition, rfl⟩ <;> rfl
  have items : (query.columns.map Token.ofName).map Token.bare =
      query.columns.map Token.ofName := by
    rw [List.map_map]
    rfl
  rw [List.map_id] at clauses
  simp only [statement, Statement.bare, Projection.bare, clauses, items]
  rfl

end QuotedQuery

/-! ### The text of a query is scanned as its tokens -/

section

variable {rest : List Char} {tokens : List Token}

theorem Scans.quotedName (name : String) (apart : Lexeme.Apart rest) (scans : Scans rest tokens) :
    Scans ((quotedName name).toList ++ rest) (.ofName name :: tokens) := by
  rw [Query.quotedName, String.toList_ofList]
  exact Scans.form .quotedName apart scans

theorem Scans.quotedText (value : String) (apart : Lexeme.Apart rest) (scans : Scans rest tokens) :
    Scans ((quotedText value).toList ++ rest) ({ kind := .string, value } :: tokens) := by
  rw [Query.quotedText, String.toList_ofList]
  exact Scans.form .string apart scans

theorem scans_columns (apart : Lexeme.Apart rest) (scans : Scans rest tokens) (column : String)
    (others : List String) :
    Scans ((", ".intercalate ((column :: others).map quotedName)).toList ++ rest)
      (.ofName column ::
        (others.map QuotedQuery.furtherItem).flatMap FurtherItem.tokens ++ tokens) := by
  have written : ", ".toList = [',', ' '] := rfl
  simp only [String.toList_intercalate, written]
  induction others generalizing column with
  | nil => simpa using Scans.quotedName column apart scans
  | cons other others ih =>
      have later := ih other
      have spelled : Symbol.comma.text.toList = [','] := rfl
      have comma := Scans.symbol .comma (Lexeme.apart_cons (by decide) _) later.space
      rw [spelled] at comma
      have first := Scans.quotedName column (Lexeme.apart_cons (by decide) _) comma
      simp only [List.map_cons] at first ⊢
      rw [List.intercalate_cons_cons]
      simpa [QuotedQuery.furtherItem, FurtherItem.tokens, Token.ofSymbol] using first

/-- The parts of a condition stand apart, so none of them runs into the next. -/
theorem scans_textCondition (apart : Lexeme.Apart rest) (scans : Scans rest tokens)
    (condition : TextCondition) :
    Scans (condition.text.toList ++ rest) (condition.condition.tokens ++ tokens) := by
  have third := (Scans.quotedText condition.value apart scans).space
  have second := Scans.form (@Lexeme.Form.operation condition.operator _)
    (Lexeme.apart_cons (by decide) _) third
  have first := Scans.quotedName condition.column (Lexeme.apart_cons (by decide) _) second.space
  have written : " ".toList = [' '] := rfl
  simpa [TextCondition.text, TextCondition.condition, Condition.tokens,
    String.toList_intercalate, written, List.intercalate_cons_cons] using first

theorem scans_textConditions (apart : Lexeme.Apart rest) (scans : Scans rest tokens)
    (word : Keyword) (condition : TextCondition) (others : List TextCondition) :
    Scans (((" " ++ word.text ++ " ").intercalate
        ((condition :: others).map TextCondition.text)).toList ++ rest)
      ((((condition :: others).map fun condition =>
        Clause.condition condition.condition).intersperse
          (.connective (.ofKeyword word))).flatMap Clause.tokens ++ tokens) := by
  have written : " ".toList = [' '] := rfl
  simp only [String.toList_intercalate, String.toList_append, written]
  induction others generalizing condition with
  | nil => simpa [Clause.tokens] using scans_textCondition apart scans condition
  | cons other others ih =>
      have later := ih other
      have spelled := map_toLower_keyword word
      have between := Scans.keyword spelled (Lexeme.apart_cons (by decide) _) later.space
      have first := scans_textCondition (Lexeme.apart_cons (by decide) _) between.space condition
      simp only [List.map_cons] at first ⊢
      rw [List.intercalate_cons_cons, List.intersperse_cons_cons]
      simpa [Clause.tokens, Token.ofKeyword] using first

theorem scans_conditionsText (apart : Lexeme.Apart rest) (scans : Scans rest tokens)
    (query : QuotedQuery) :
    Lexeme.Apart (query.conditionsText.toList ++ rest) ∧
      Scans (query.conditionsText.toList ++ rest) (bodyOf query.clauses ++ tokens) := by
  cases conditions : query.conditions with
  | nil =>
      simp only [QuotedQuery.conditionsText, QuotedQuery.clauses, conditions]
      exact ⟨apart, scans⟩
  | cons condition others =>
      have spelled : Keyword.WHERE.text.toList.map Char.toLower = Keyword.WHERE.text.toList :=
        map_toLower_keyword .WHERE
      have written : " where ".toList = ' ' :: (Keyword.WHERE.text.toList ++ [' ']) := rfl
      have joined := scans_textConditions apart scans query.connective.keyword condition others
      have word := Scans.keyword spelled (Lexeme.apart_cons (by decide) _) joined.space
      have notEmpty : query.clauses.isEmpty = false := by
        rw [QuotedQuery.clauses, conditions]
        cases others <;> rfl
      have tokens : bodyOf query.clauses = whereWord :: query.clauses.flatMap Clause.tokens := by
        simp [bodyOf, notEmpty]
      rw [tokens, QuotedQuery.clauses, QuotedQuery.conditionsText, conditions]
      simp only [List.isEmpty_cons, Bool.false_eq_true, if_false, String.toList_append, written]
      constructor
      · exact Lexeme.apart_cons (by decide) _
      · simpa [whereWord] using word.space

theorem scans_finish (blanks : Nat) :
    Lexeme.Apart (List.replicate blanks ' ' ++ [';']) ∧
      Scans (List.replicate blanks ' ' ++ [';']) [.ofSymbol .semicolon] := by
  induction blanks with
  | zero =>
      have semicolon := Scans.symbol .semicolon Lexeme.apart_nil .nil
      exact ⟨Lexeme.apart_cons (by decide) _, semicolon⟩
  | succ blanks ih => exact ⟨Lexeme.apart_cons (by decide) _, ih.2.space⟩

end

/-- A text that is scanned as the tokens of a sentence is read as the statement that they mean. -/
theorem parse_of_scans {source : String} {sentence : Sentence}
    (scans : Scans source.toList sentence.tokens) :
    ∃ statement, parse source = .ok statement ∧ statement.bare = sentence.statement.bare := by
  rcases lex_of_scans scans with ⟨read, lexed, same⟩
  have meaning : (parseTokens sentence.tokens).1 = .ok sentence.statement := by
    rw [sentence.parseTokens_tokens]
  have bareTokens : sentence.tokens.map Token.bare = read.map Token.bare := by
    rw [← same, List.map_map]
    rfl
  rcases parseTokens_of_bare bareTokens meaning with ⟨statement, parsed, sameStatement⟩
  refine ⟨statement, ?_, sameStatement⟩
  simp only [parse, lexed, parsed]

namespace QuotedQuery

theorem scans_text (query : QuotedQuery) (blanks : Nat) :
    Scans (query.text blanks).toList query.sentence.tokens := by
  rcases scans_finish blanks with ⟨finishApart, finish⟩
  rcases scans_conditionsText finishApart finish query with ⟨conditionsApart, conditions⟩
  have table := (Scans.quotedName query.table conditionsApart conditions).space
  have fromWord := Scans.keyword (map_toLower_keyword .FROM) (Lexeme.apart_cons (by decide) _) table
  have columns := scans_columns (Lexeme.apart_cons (by decide) _) fromWord.space query.column
    query.otherColumns
  have select := Scans.keyword (map_toLower_keyword .SELECT) (Lexeme.apart_cons (by decide) _)
    columns.space
  have selectWritten : "select ".toList = Keyword.SELECT.text.toList ++ [' '] := rfl
  have fromWritten : " from ".toList = ' ' :: (Keyword.FROM.text.toList ++ [' ']) := rfl
  simpa [text, QuotedQuery.columns, sentence, Sentence.tokens, Columns.tokens, Origin.tokens,
    Token.ofKeyword, selectWritten, fromWritten] using select

/-- Whatever names and texts a query is made of, it is read as the statement of just these. -/
theorem parse_text (query : QuotedQuery) (blanks : Nat) :
    ∃ statement, parse (query.text blanks) = .ok statement ∧
      statement.bare = query.statement := by
  rcases parse_of_scans (query.scans_text blanks) with ⟨statement, parsed, same⟩
  rw [query.statement_sentence, query.bare_statement] at same
  exact ⟨statement, parsed, same⟩

end QuotedQuery

/-! ### Queries for whole rows -/

/-- A query for the rows of a table on which one comparison with a text holds. -/
structure RowQuery where
  table : String
  condition : TextCondition

namespace RowQuery

/-- The query as it is written, without a semicolon. -/
def text (query : RowQuery) : String :=
  "select * from " ++ quotedName query.table ++ " where " ++ query.condition.text

def statement (query : RowQuery) : Statement where
  projection := .all
  table := some (.ofName query.table)
  clauses := [.condition query.condition.condition]

theorem readable_clauses (query : RowQuery) :
    ∀ clause ∈ query.statement.clauses, clause.Readable := by
  simp [statement, Clause.Readable, Condition.tokens, TextCondition.condition, Token.ofName]

theorem noSymbol_bodyOf (query : RowQuery) :
    ∀ token ∈ bodyOf query.statement.clauses, token.kind ≠ .symbol := by
  simp [statement, bodyOf, whereWord, Clause.tokens, Condition.tokens, TextCondition.condition,
    Token.ofName]

/-- The tokens that the query consists of. -/
def sentence (query : RowQuery) : Sentence where
  select := .ofKeyword .SELECT
  columns := .all (.ofSymbol .asterisk) (by decide)
  origin := some ⟨.ofKeyword .FROM, .ofName query.table, by decide, rfl⟩
  body := bodyOf query.statement.clauses
  finish := none
  isSelect := by decide
  noSymbol := query.noSymbol_bodyOf
  inThrees := openOperands_eq_nil_iff.mp (clausesAfter_bodyOf query.readable_clauses).2
  isFinish := Sentence.isFinish_none
  noFrom := by simp
  noBody := by simp

theorem statement_sentence (query : RowQuery) : query.sentence.statement = query.statement := by
  have clauses : clausesAfter [] query.sentence.body = query.statement.clauses :=
    (clausesAfter_bodyOf query.readable_clauses).1
  rw [Sentence.statement, clauses]
  rfl

theorem scans_text (query : RowQuery) : Scans query.text.toList query.sentence.tokens := by
  have condition := scans_textCondition Lexeme.apart_nil .nil query.condition
  have whereScans := Scans.keyword (map_toLower_keyword .WHERE)
    (Lexeme.apart_cons (by decide) _) condition.space
  have table := Scans.quotedName query.table (Lexeme.apart_cons (by decide) _) whereScans.space
  have fromScans := Scans.keyword (map_toLower_keyword .FROM) (Lexeme.apart_cons (by decide) _)
    table.space
  have asterisk := Scans.symbol .asterisk (Lexeme.apart_cons (by decide) _) fromScans.space
  have select := Scans.keyword (map_toLower_keyword .SELECT) (Lexeme.apart_cons (by decide) _)
    asterisk.space
  have opened : "select * from ".toList = Keyword.SELECT.text.toList ++
      (' ' :: (Symbol.asterisk.text.toList ++ (' ' :: (Keyword.FROM.text.toList ++ [' '])))) := rfl
  have whereWritten : " where ".toList = ' ' :: (Keyword.WHERE.text.toList ++ [' ']) := rfl
  have written : query.text = "select * from " ++ quotedName query.table ++ " where " ++
      query.condition.text := rfl
  rw [written, String.toList_append, String.toList_append, String.toList_append, opened,
    whereWritten]
  simpa [sentence, statement, Sentence.tokens, Columns.tokens, Origin.tokens, Token.ofKeyword,
    Token.ofSymbol, bodyOf, Clause.tokens, whereWord] using select

end RowQuery

end CsvSelect.Query
