import CsvSelect.Proofs.Query.Clauses
import CsvSelect.Proofs.Query.Scanning

/-!
# Rendering and reading again

A statement that was read can be rendered and read again. The rendering of a sentence is scanned as
the tokens of a sentence with the same meaning (`Sentence.rendered`), except that a name that is
spelled like a reserved word loses its quotes and comes back as that word. So the same statement is
read again exactly if there is no such name. If there is one, reading fails or the result has fewer
names, because every statement has as many names as its tokens (`Sentence.filter_isName`).
-/

namespace CsvSelect.Query

open Text

/-- The token is a name. -/
def Token.isName (token : Token) : Bool :=
  token.kind == .identifier

theorem Token.isName_eq_true {token : Token} : token.isName = true ↔ token.kind = .identifier := by
  simp [isName]

/-- The reserved word before the clauses of a rendered statement. -/
def whereWord : Token where
  kind := .keyword
  value := Keyword.WHERE.text

/-- The body of a rendered statement. -/
def bodyOf (clauses : List Clause) : List Token :=
  if clauses.isEmpty then [] else whereWord :: clauses.flatMap Clause.tokens

theorem clausesAfter_bodyOf {clauses : List Clause}
    (readable : ∀ clause ∈ clauses, clause.Readable) :
    clausesAfter [] (bodyOf clauses) = clauses ∧ openOperands (bodyOf clauses) = [] := by
  have closed : openOperands [whereWord] = [] := rfl
  have written := clausesAfter_flatMap_tokens closed readable
  cases clauses with
  | nil => exact ⟨rfl, rfl⟩
  | cons clause clauses => exact written

/-! ### Names -/

theorem FurtherItem.filter_isName (others : List FurtherItem) :
    (others.flatMap FurtherItem.tokens).filter Token.isName =
      (others.map FurtherItem.item).filter Token.isName := by
  induction others with
  | nil => rfl
  | cons further others ih =>
      have comma : further.comma.isName = false := by
        simp [Token.isName, (Token.isSymbol_iff.mp further.isComma).1]
      simp [FurtherItem.tokens, List.filter_cons, comma, ih]

theorem Columns.filter_isName (columns : Columns) :
    columns.tokens.filter Token.isName = columns.projection.named.filter Token.isName := by
  cases columns with
  | all asterisk isAsterisk =>
      simp [Columns.tokens, Columns.projection, Projection.named, Token.isName,
        (Token.isSymbol_iff.mp isAsterisk).1]
  | items first isExpression others =>
      simp only [Columns.tokens, Columns.projection, Projection.named, List.filter_cons,
        FurtherItem.filter_isName]

theorem Origin.filter_isName (origin : Option Origin) :
    (Origin.tokens origin).filter Token.isName =
      (origin.map Origin.name).toList.filter Token.isName := by
  cases origin with
  | none => rfl
  | some origin =>
      have word : origin.word.isName = false := by
        simp [Token.isName, (Token.isKeyword_iff.mp origin.isFrom).1]
      simp [Origin.tokens, List.filter_cons, word]

/-- The tokens of the conditions are the operands of the body. -/
theorem Sentence.flatMap_conditions (sentence : Sentence) :
    sentence.statement.conditions.flatMap Condition.tokens =
      sentence.body.filter Token.isOperand := by
  have operands := operands_clausesAfter [] sentence.body
  have closed := openOperands_eq_nil_iff.mpr sentence.inThrees
  rw [openOperands_nil, List.nil_append, List.nil_append, closed, List.append_nil] at operands
  exact operands.symm

/-- A statement that is read has the names of its tokens, in the same order. -/
theorem Sentence.filter_isName (sentence : Sentence) :
    sentence.tokens.filter Token.isName = sentence.statement.operands.filter Token.isName := by
  have select : sentence.select.isName = false := by
    simp [Token.isName, (Token.isKeyword_iff.mp sentence.isSelect).1]
  have body : (sentence.body.filter Token.isOperand).filter Token.isName =
      sentence.body.filter Token.isName := by
    rw [List.filter_filter]
    apply List.filter_congr
    intro token mem
    cases kind : token.kind <;> simp [Token.isName, Token.isOperand, kind]
  have finish : sentence.finish.toList.filter Token.isName = [] := by
    rw [List.filter_eq_nil_iff]
    intro token mem
    have semicolon := Token.isSymbol_iff.mp (sentence.isFinish token (Option.mem_toList.mp mem))
    simp [Token.isName, semicolon]
  simp only [Sentence.tokens, List.filter_cons, select, List.filter_append, Columns.filter_isName,
    Origin.filter_isName, finish, List.append_nil, Statement.operands,
    Sentence.flatMap_conditions, body]
  rfl

theorem Statement.conditions_bare (statement : Statement) :
    statement.bare.conditions = statement.conditions.map Condition.bare := by
  simp only [conditions, bare, List.filterMap_map, List.map_filterMap]
  apply List.filterMap_congr
  intro clause mem
  cases clause <;> rfl

theorem Statement.operands_bare (statement : Statement) :
    statement.bare.operands = statement.operands.map Token.bare := by
  have named : statement.bare.projection.named = statement.projection.named.map Token.bare := by
    cases projection : statement.projection <;>
      simp [bare, projection, Projection.bare, Projection.named]
  have table : statement.bare.table.toList = statement.table.toList.map Token.bare := by
    cases table : statement.table <;> simp [bare, table]
  have conditions : statement.bare.conditions.flatMap Condition.tokens =
      (statement.conditions.flatMap Condition.tokens).map Token.bare := by
    rw [conditions_bare, List.flatMap_map, List.map_flatMap]
    rfl
  simp only [operands, named, table, conditions, List.map_append]

/-! ### The rendered sentence -/

namespace Sentence

theorem projection_statement (sentence : Sentence) :
    sentence.statement.projection = sentence.columns.projection := rfl

theorem table_statement (sentence : Sentence) :
    sentence.statement.table = sentence.origin.map Origin.name := rfl

theorem readable_clauses (sentence : Sentence) :
    ∀ clause ∈ sentence.statement.clauses, clause.Readable :=
  fun _ mem => (mem_of_mem_clausesAfter mem).1

theorem mem_body_of_mem_clauses {sentence : Sentence} {clause : Clause}
    (mem : clause ∈ sentence.statement.clauses) : ∀ part ∈ clause.tokens, part ∈ sentence.body :=
  (mem_of_mem_clausesAfter mem).2

theorem mem_bodyOf {sentence : Sentence} {token : Token}
    (mem : token ∈ bodyOf sentence.statement.clauses) :
    token = whereWord ∨ token ∈ sentence.body := by
  simp only [bodyOf] at mem
  split at mem
  · simp at mem
  · rcases List.mem_cons.mp mem with same | part
    · exact Or.inl same
    · rcases List.mem_flatMap.mp part with ⟨clause, clauseMem, part⟩
      exact Or.inr (mem_body_of_mem_clauses clauseMem token part)

/-- The sentence with its clauses written out after `WHERE`, and without a semicolon. -/
def rendered (sentence : Sentence) : Sentence where
  select := sentence.select
  columns := sentence.columns
  origin := sentence.origin
  body := bodyOf sentence.statement.clauses
  finish := none
  isSelect := sentence.isSelect
  noSymbol := by
    intro token mem
    rcases mem_bodyOf mem with rfl | inBody
    · decide
    · exact sentence.noSymbol token inBody
  inThrees := openOperands_eq_nil_iff.mp (clausesAfter_bodyOf sentence.readable_clauses).2
  isFinish := isFinish_none
  noFrom := by
    intro _ token mem
    cases found : sentence.statement.clauses with
    | nil => simp [bodyOf, found] at mem
    | cons clause clauses =>
        rw [found] at mem
        rcases Option.some.inj mem with rfl
        decide
  noBody := by
    intro noTable named
    simp [statement, sentence.noBody noTable named, clausesAfter, bodyOf]

theorem statement_rendered (sentence : Sentence) :
    sentence.rendered.statement = sentence.statement := by
  have clauses : clausesAfter [] sentence.rendered.body = sentence.statement.clauses :=
    (clausesAfter_bodyOf sentence.readable_clauses).1
  rw [statement, clauses]
  rfl

end Sentence

/-! ### The rendering is scanned as the tokens of the rendered sentence -/

theorem Token.reread_of_isKeyword {token : Token} {keyword : Keyword}
    (isKeyword : token.isKeyword keyword) :
    token.reread = { kind := .keyword, value := keyword.text } := by
  rcases Token.isKeyword_iff.mp isKeyword with ⟨kind, value⟩
  simp [reread, isReservedName, kind, value]

theorem Token.reread_of_isSymbol {token : Token} {symbol : Symbol}
    (isSymbol : token.isSymbol symbol) :
    token.reread = { kind := .symbol, value := symbol.text } := by
  rcases Token.isSymbol_iff.mp isSymbol with ⟨kind, value⟩
  simp [reread, isReservedName, kind, value]

theorem map_toLower_uppercase (keyword : Keyword) :
    (uppercase keyword.text).toList.map Char.toLower = keyword.text.toList := by
  cases keyword <;> decide

theorem Token.exists_keyword_of_lexical {token : Token} (lexical : token.Lexical)
    (kind : token.kind = .keyword) : ∃ keyword, token.isKeyword keyword := by
  rcases token with ⟨_, value, location⟩
  rcases lexical with ⟨text, form⟩
  cases form with
  | keyword => exact ⟨_, isKeyword_iff.mpr ⟨rfl, rfl⟩⟩
  | _ => simp at kind

/-- The items behind the first as they are rendered. -/
def renderedItems (others : List FurtherItem) : List Char :=
  others.flatMap fun further => ',' :: ' ' :: further.item.render.toList

theorem toList_render_items (first : Token) (others : List FurtherItem) :
    (Projection.render (.items (first :: others.map FurtherItem.item))).toList =
      first.render.toList ++ renderedItems others := by
  have written : ", ".toList = [',', ' '] := rfl
  simp only [Projection.render, String.toList_intercalate, written]
  induction others generalizing first with
  | nil => simp [renderedItems]
  | cons further others ih =>
      have later := ih further.item
      simp only [List.map_cons] at later ⊢
      rw [List.intercalate_cons_cons, later]
      simp [renderedItems]

section

variable {rest : List Char} {tokens : List Token}

theorem scans_renderedItems (apart : Lexeme.Apart rest) (scans : Scans rest tokens)
    (others : List FurtherItem) (lexical : ∀ further ∈ others, further.item.Lexical) :
    Lexeme.Apart (renderedItems others ++ rest) ∧
      Scans (renderedItems others ++ rest)
        ((others.flatMap FurtherItem.tokens).map Token.reread ++ tokens) := by
  induction others with
  | nil => exact ⟨apart, scans⟩
  | cons further others ih =>
      rcases ih (fun other mem => lexical other (List.mem_cons_of_mem _ mem)) with
        ⟨laterApart, later⟩
      constructor
      · exact Lexeme.apart_cons (by decide) _
      · have item := Scans.token (lexical further List.mem_cons_self) laterApart later
        have comma := Scans.symbol .comma (Lexeme.apart_cons (by decide) _) item.space
        simpa [renderedItems, FurtherItem.tokens, Token.reread_of_isSymbol further.isComma,
          Symbol.text] using comma

theorem scans_projection (apart : Lexeme.Apart rest) (scans : Scans rest tokens)
    {columns : Columns} (lexical : ∀ token ∈ columns.tokens, token.Lexical) :
    Scans (columns.projection.render.toList ++ rest)
      (columns.tokens.map Token.reread ++ tokens) := by
  cases columns with
  | all asterisk isAsterisk =>
      have written := Scans.symbol .asterisk apart scans
      rw [Columns.tokens, List.map_singleton, Token.reread_of_isSymbol isAsterisk]
      exact written
  | items first isExpression others =>
      have lexicalItems : ∀ further ∈ others, further.item.Lexical := by
        intro further mem
        apply lexical
        apply List.mem_cons_of_mem
        exact List.mem_flatMap.mpr ⟨further, mem, by simp [FurtherItem.tokens]⟩
      rcases scans_renderedItems apart scans others lexicalItems with ⟨laterApart, later⟩
      rw [Columns.projection, toList_render_items, List.append_assoc, Columns.tokens,
        List.map_cons, List.cons_append]
      exact Scans.token (lexical first List.mem_cons_self) laterApart later

/-- The part of the rendering between the projection and the clauses. -/
def renderedTable (table : Option Token) : List Char :=
  table.elim [] fun name => " FROM ".toList ++ name.render.toList

theorem scans_renderedTable (apart : Lexeme.Apart rest) (scans : Scans rest tokens)
    {origin : Option Origin} (lexical : ∀ token ∈ Origin.tokens origin, token.Lexical) :
    Lexeme.Apart (renderedTable (origin.map Origin.name) ++ rest) ∧
      Scans (renderedTable (origin.map Origin.name) ++ rest)
        ((Origin.tokens origin).map Token.reread ++ tokens) := by
  cases origin with
  | none => exact ⟨apart, scans⟩
  | some origin =>
      constructor
      · exact Lexeme.apart_cons (by decide) _
      · have name := Scans.token (lexical origin.name (by simp [Origin.tokens])) apart scans
        have spelled : "FROM".toList.map Char.toLower = Keyword.FROM.text.toList := by decide
        have word := Scans.keyword spelled (Lexeme.apart_cons (by decide) _) name.space
        simpa [renderedTable, Origin.tokens, Token.reread_of_isKeyword origin.isFrom] using
          word.space

theorem scans_clause (apart : Lexeme.Apart rest) (scans : Scans rest tokens) {clause : Clause}
    (readable : clause.Readable) (lexical : ∀ token ∈ clause.tokens, token.Lexical) :
    Scans (clause.render.toList ++ rest) (clause.tokens.map Token.reread ++ tokens) := by
  cases clause with
  | connective word =>
      rcases word.exists_keyword_of_lexical (lexical word (by simp [Clause.tokens])) readable.1 with
        ⟨keyword, isKeyword⟩
      have written := Scans.keyword (map_toLower_uppercase keyword) apart scans
      simpa [Clause.tokens, Clause.render, Token.reread_of_isKeyword isKeyword,
        (Token.isKeyword_iff.mp isKeyword).2] using written
  | condition comparison =>
      rcases comparison with ⟨column, operation, operand⟩
      simp only [Clause.tokens, Condition.tokens, List.mem_cons, List.not_mem_nil, or_false,
        forall_eq_or_imp, forall_eq] at lexical
      rcases lexical with ⟨isColumn, isOperation, isOperand⟩
      have third := (Scans.token isOperand apart scans).space
      have second := (Scans.token isOperation (Lexeme.apart_cons (by decide) _) third).space
      have first := Scans.token isColumn (Lexeme.apart_cons (by decide) _) second
      have written : " ".toList = [' '] := rfl
      simpa [Clause.tokens, Clause.render, Condition.tokens, String.toList_intercalate, written,
        List.intercalate_cons_cons] using first

end

/-- The part of the rendering behind the table. -/
def renderedBody (clauses : List Clause) : List Char :=
  if clauses.isEmpty then []
  else " WHERE".toList ++ clauses.flatMap fun clause => ' ' :: clause.render.toList

theorem scans_clauses {clauses : List Clause} (readable : ∀ clause ∈ clauses, clause.Readable)
    (lexical : ∀ clause ∈ clauses, ∀ token ∈ clause.tokens, token.Lexical) :
    Lexeme.Apart (clauses.flatMap fun clause => ' ' :: clause.render.toList) ∧
      Scans (clauses.flatMap fun clause => ' ' :: clause.render.toList)
        ((clauses.flatMap Clause.tokens).map Token.reread) := by
  induction clauses with
  | nil => exact ⟨Lexeme.apart_nil, .nil⟩
  | cons clause clauses ih =>
      rcases ih (fun other mem => readable other (List.mem_cons_of_mem _ mem))
        (fun other mem => lexical other (List.mem_cons_of_mem _ mem)) with ⟨apart, scans⟩
      constructor
      · exact Lexeme.apart_cons (by decide) _
      · have first := scans_clause apart scans (readable clause List.mem_cons_self)
          (lexical clause List.mem_cons_self)
        simpa using first.space

theorem scans_renderedBody {clauses : List Clause} (readable : ∀ clause ∈ clauses, clause.Readable)
    (lexical : ∀ clause ∈ clauses, ∀ token ∈ clause.tokens, token.Lexical) :
    Lexeme.Apart (renderedBody clauses) ∧
      Scans (renderedBody clauses) ((bodyOf clauses).map Token.reread) := by
  rcases scans_clauses readable lexical with ⟨apart, scans⟩
  by_cases empty : clauses.isEmpty
  · simp only [renderedBody, bodyOf, empty, if_true]
    exact ⟨Lexeme.apart_nil, .nil⟩
  · simp only [renderedBody, bodyOf, empty]
    constructor
    · exact Lexeme.apart_cons (by decide) _
    · have spelled : "WHERE".toList.map Char.toLower = Keyword.WHERE.text.toList := by decide
      exact (Scans.keyword spelled apart scans).space

theorem Statement.toList_render (statement : Statement) :
    statement.render.toList = "SELECT ".toList ++ (statement.projection.render.toList ++
      (renderedTable statement.table ++ renderedBody statement.clauses)) := by
  rcases statement with ⟨projection, table, clauses⟩
  have written : " ".toList = [' '] := rfl
  cases table <;> cases clauses <;>
    simp [render, renderedTable, renderedBody, String.toList_join, List.flatMap_map, written]

theorem Sentence.scans_render {sentence : Sentence}
    (lexical : ∀ token ∈ sentence.tokens, token.Lexical) :
    Scans sentence.statement.render.toList (sentence.rendered.tokens.map Token.reread) := by
  have lexicalColumns : ∀ token ∈ sentence.columns.tokens, token.Lexical :=
    fun token mem => lexical token (by simp [tokens, mem])
  have lexicalOrigin : ∀ token ∈ Origin.tokens sentence.origin, token.Lexical :=
    fun token mem => lexical token (by simp [tokens, mem])
  have lexicalClauses : ∀ clause ∈ sentence.statement.clauses, ∀ token ∈ clause.tokens,
      token.Lexical := by
    intro clause clauseMem token mem
    have inBody := mem_body_of_mem_clauses clauseMem token mem
    exact lexical token (by simp [tokens, inBody])
  rcases scans_renderedBody sentence.readable_clauses lexicalClauses with ⟨bodyApart, body⟩
  rcases scans_renderedTable bodyApart body lexicalOrigin with ⟨tableApart, table⟩
  have projection := scans_projection tableApart table lexicalColumns
  have spelled : "SELECT".toList.map Char.toLower = Keyword.SELECT.text.toList := by decide
  have select := Scans.keyword spelled (Lexeme.apart_cons (by decide) _) projection.space
  rw [Statement.toList_render, projection_statement, table_statement]
  simpa [tokens, rendered, Token.reread_of_isKeyword sentence.isSelect] using select

/-! ### Reading again -/

theorem Token.reread_of_not_isReservedName {token : Token} (free : ¬token.isReservedName) :
    token.reread = token.bare := by
  simp [reread, bare, free]

theorem Token.isName_of_isName_reread {token : Token} (name : token.reread.isName = true) :
    token.isName = true ∧ ¬token.isReservedName := by
  by_cases reserved : token.isReservedName = true
  · simp [isName, reread, reserved] at name
  · exact ⟨by simpa [isName, reread, reserved] using name, reserved⟩

theorem Sentence.map_reread_rendered {sentence : Sentence}
    (free : ∀ token ∈ sentence.statement.operands, ¬token.isReservedName) :
    sentence.rendered.tokens.map Token.reread = sentence.rendered.tokens.map Token.bare := by
  apply List.map_congr_left
  intro token mem
  apply Token.reread_of_not_isReservedName
  intro reserved
  have name := Token.isName_eq_true.mpr (Token.isReservedName_iff.mp reserved).1
  have inTokens := List.mem_filter.mpr ⟨mem, name⟩
  rw [sentence.rendered.filter_isName, sentence.statement_rendered] at inTokens
  exact free token (List.mem_filter.mp inTokens).1 reserved

theorem length_filter_isName_bare (tokens : List Token) :
    ((tokens.map Token.bare).filter Token.isName).length =
      (tokens.filter Token.isName).length := by
  rw [List.filter_map, List.length_map]
  rfl

theorem length_filter_isName_reread (tokens : List Token) :
    ((tokens.map Token.reread).filter Token.isName).length =
      ((tokens.filter Token.isName).filter fun token => token.reread.isName).length := by
  rw [List.filter_map, List.length_map, List.filter_filter]
  congr 1
  apply List.filter_congr
  intro token mem
  rw [Bool.eq_iff_iff, Bool.and_eq_true]
  exact ⟨fun name => ⟨name, (Token.isName_of_isName_reread name).1⟩, And.left⟩

/-- If the same statement comes back, as many names come back as there were. -/
theorem Sentence.free_of_reread {sentence other : Sentence}
    (read : other.tokens.map Token.bare = sentence.rendered.tokens.map Token.reread)
    (same : other.statement.bare = sentence.statement.bare) :
    ∀ token ∈ sentence.statement.operands, ¬token.isReservedName := by
  have names := sentence.rendered.filter_isName
  rw [sentence.statement_rendered] at names
  have count : ((sentence.statement.operands.filter Token.isName).filter
      fun token => token.reread.isName).length =
        (sentence.statement.operands.filter Token.isName).length := by
    calc ((sentence.statement.operands.filter Token.isName).filter
          fun token => token.reread.isName).length
        = ((sentence.rendered.tokens.map Token.reread).filter Token.isName).length := by
          rw [length_filter_isName_reread, names]
      _ = (other.tokens.filter Token.isName).length := by
          rw [← read, length_filter_isName_bare]
      _ = (other.statement.bare.operands.filter Token.isName).length := by
          rw [other.filter_isName, Statement.operands_bare, length_filter_isName_bare]
      _ = (sentence.statement.operands.filter Token.isName).length := by
          rw [same, Statement.operands_bare, length_filter_isName_bare]
  rw [List.length_filter_eq_length_iff] at count
  intro token mem reserved
  have name := Token.isName_eq_true.mpr (Token.isReservedName_iff.mp reserved).1
  have kept := count token (List.mem_filter.mpr ⟨mem, name⟩)
  exact (Token.isName_of_isName_reread kept).2 reserved

theorem parse_eq_ok_iff {source : String} {statement : Statement} :
    parse source = .ok statement ↔
      ∃ sentence : Sentence, lex source = .ok sentence.tokens ∧
        sentence.statement = statement := by
  simp only [parse]
  split
  · next error failed => simp [failed]
  · next tokens read =>
      rw [read]
      constructor
      · intro parsed
        rcases sentence_of_parseTokens (Prod.ext parsed rfl) with ⟨-, sentence, same, means⟩
        exact ⟨sentence, congrArg Except.ok same.symm, means⟩
      · rintro ⟨sentence, same, rfl⟩
        rw [Except.ok.inj same, sentence.parseTokens_tokens]

/-- A statement that was read is read from its rendering exactly if no name in it is reserved. -/
theorem parse_render_iff {source : String} {statement : Statement}
    (parsed : parse source = .ok statement) :
    (∃ again, parse statement.render = .ok again ∧ again.bare = statement.bare) ↔
      ∀ token ∈ statement.operands, ¬token.isReservedName := by
  rcases parse_eq_ok_iff.mp parsed with ⟨sentence, lexed, rfl⟩
  rcases lex_of_scans (Sentence.scans_render (lexical_of_lex lexed)) with ⟨read, relexed, same⟩
  constructor
  · rintro ⟨again, reparsed, sameStatement⟩
    rcases parse_eq_ok_iff.mp reparsed with ⟨other, otherLexed, rfl⟩
    rw [relexed, Except.ok.injEq] at otherLexed
    exact Sentence.free_of_reread (otherLexed ▸ same) sameStatement
  · intro free
    rw [Sentence.map_reread_rendered free] at same
    have meaning : (parseTokens sentence.rendered.tokens).1 = .ok sentence.statement := by
      rw [sentence.rendered.parseTokens_tokens, sentence.statement_rendered]
    rcases parseTokens_of_bare same.symm meaning with ⟨again, reparsed, sameStatement⟩
    refine ⟨again, ?_, sameStatement⟩
    simp only [parse, relexed, reparsed]

/-- All rows of the table of this name, written with quotes at the end of the first line. -/
def allRowsOf (name : String) : Statement where
  projection := .all
  table := some ⟨.identifier, name, ⟨1, 15⟩⟩

/-- Quotes that only keep a blank come back, quotes that keep a reserved word do not. -/
theorem parse_render_quotes :
    (parse "select * from \"two words\"" = .ok (allRowsOf "two words") ∧
      ∃ again, parse (allRowsOf "two words").render = .ok again ∧
        again.bare = (allRowsOf "two words").bare) ∧
    (parse "select * from \"where\"" = .ok (allRowsOf "where") ∧
      ¬∃ again, parse (allRowsOf "where").render = .ok again ∧
        again.bare = (allRowsOf "where").bare) := by
  have words : parse "select * from \"two words\"" = .ok (allRowsOf "two words") := by
    decide +kernel
  have reserved : parse "select * from \"where\"" = .ok (allRowsOf "where") := by
    decide +kernel
  refine ⟨⟨words, (parse_render_iff words).mpr ?_⟩, reserved, ?_⟩
  · decide
  · rw [parse_render_iff reserved]
    decide

end CsvSelect.Query
