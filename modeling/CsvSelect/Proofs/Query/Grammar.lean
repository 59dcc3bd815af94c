import CsvSelect.Query.Statement.Parser

/-!
# The grammar of statements

This file describes the token sequences that are statements without mentioning how they are read. A
`Sentence` consists of the reserved word `SELECT`, the columns, perhaps `FROM` and a name, a body,
and perhaps a semicolon; it determines its tokens and the statement that it means.

The body is any sequence of tokens without punctuation in which the operands, that is, all tokens
but the reserved words, come in threes. Its clauses are described position by position: what a token
stands for depends only on the tokens before it (`clauseAt?`). Reading keeps the same information in
its slots, which hold the operands that are not yet part of a condition. This is the invariant of
the scan, both for the proof that every statement read is the meaning of a sentence and for the
proof that every sentence is read.
-/

namespace CsvSelect.Query

namespace Token

theorem isKeyword_iff {token : Token} {keyword : Keyword} :
    token.isKeyword keyword ↔ token.kind = .keyword ∧ token.value = keyword.text := by
  simp only [isKeyword, keyword?, beq_iff_eq, Option.ite_none_right_eq_some, Keyword.all]
  constructor
  · rintro ⟨kind, found⟩
    have same := List.find?_some found
    exact ⟨kind, (beq_iff_eq.mp same).symm⟩
  · rintro ⟨kind, spelled⟩
    refine ⟨kind, ?_⟩
    rw [spelled]
    cases keyword <;> decide

theorem isSymbol_iff {token : Token} {symbol : Symbol} :
    token.isSymbol symbol ↔ token.kind = .symbol ∧ token.value = symbol.text := by
  simp only [isSymbol, symbol?, beq_iff_eq, Option.ite_none_right_eq_some, Symbol.all]
  constructor
  · rintro ⟨kind, found⟩
    have same := List.find?_some found
    exact ⟨kind, (beq_iff_eq.mp same).symm⟩
  · rintro ⟨kind, spelled⟩
    refine ⟨kind, ?_⟩
    rw [spelled]
    cases symbol <;> decide

/-- The token fills a slot of a condition when it stands in the body of a statement. -/
def isOperand (token : Token) : Bool :=
  token.kind != .keyword

@[simp]
theorem isOperand_eq_true {token : Token} : token.isOperand = true ↔ token.kind ≠ .keyword := by
  simp [isOperand]

@[simp]
theorem isOperand_eq_false {token : Token} : token.isOperand = false ↔ token.kind = .keyword := by
  simp [isOperand]

end Token

/-- The operands among the tokens that are left over when they are taken three at a time. -/
def openOperands (tokens : List Token) : List Token :=
  let operands := tokens.filter Token.isOperand
  operands.drop (3 * (operands.length / 3))

/--
What a token in the body of a statement stands for after the tokens before it: a reserved word other
than `WHERE` for itself, and the third of three operands for the condition that they make up.
-/
def clauseAt? (before : List Token) (token : Token) : Option Clause :=
  if token.isOperand then
    match openOperands before with
    | [column, operation] => some (.condition ⟨column, operation, token⟩)
    | _ => none
  else if token.isKeyword .WHERE then none
  else some (.connective token)

/-- The clauses that tokens stand for after the tokens before them. -/
def clausesAfter (before : List Token) : List Token → List Clause
  | [] => []
  | token :: rest => (clauseAt? before token).toList ++ clausesAfter (before ++ [token]) rest

/-- An item that is not the first, with the comma before it. -/
structure FurtherItem where
  comma : Token
  item : Token
  isComma : comma.isSymbol .comma
  isExpression : item.isExpression

/-- The tokens of an item that is not the first. -/
def FurtherItem.tokens (further : FurtherItem) : List Token :=
  [further.comma, further.item]

/-- The tokens of a projection: an asterisk, or at least one item. -/
inductive Columns where
  | all (asterisk : Token) (isAsterisk : asterisk.isSymbol .asterisk)
  | items (first : Token) (isExpression : first.isExpression) (others : List FurtherItem)

namespace Columns

def tokens : Columns → List Token
  | all asterisk _ => [asterisk]
  | items first _ others => first :: others.flatMap FurtherItem.tokens

/-- The projection that the tokens mean. -/
def projection : Columns → Projection
  | all _ _ => .all
  | items first _ others => .items (first :: others.map FurtherItem.item)

end Columns

/-- The reserved word `FROM` and the name of a table. -/
structure Origin where
  word : Token
  name : Token
  isFrom : word.isKeyword .FROM
  isName : name.kind = .identifier

/-- The tokens of the part after the projection, if there is one. -/
def Origin.tokens : Option Origin → List Token
  | none => []
  | some origin => [origin.word, origin.name]

/-- The tokens of a statement, part by part. -/
structure Sentence where
  select : Token
  columns : Columns
  origin : Option Origin
  body : List Token
  finish : Option Token
  isSelect : select.isKeyword .SELECT
  /-- No punctuation stands in the body. -/
  noSymbol : ∀ token ∈ body, token.kind ≠ .symbol
  /-- Every operand in the body belongs to a condition. -/
  inThrees : 3 ∣ (body.filter Token.isOperand).length
  isFinish : ∀ token ∈ finish, token.isSymbol .semicolon
  /-- The name of a table can only be left out if the body does not seem to begin with it. -/
  noFrom : origin = none → ∀ token ∈ body.head?, ¬token.isKeyword .FROM
  /-- Items without a table have no body. -/
  noBody : origin = none → columns.projection ≠ .all → body = []

namespace Sentence

theorem isFinish_none : ∀ token ∈ (none : Option Token), token.isSymbol .semicolon := nofun

def tokens (sentence : Sentence) : List Token :=
  sentence.select :: (sentence.columns.tokens ++ Origin.tokens sentence.origin ++
    sentence.body ++ sentence.finish.toList)

/-- The statement that the tokens mean. -/
def statement (sentence : Sentence) : Statement where
  projection := sentence.columns.projection
  table := sentence.origin.map Origin.name
  clauses := clausesAfter [] sentence.body

end Sentence

/-! ### Operands that wait for the rest of their condition -/

@[simp]
theorem openOperands_nil : openOperands [] = [] := rfl

theorem length_openOperands (tokens : List Token) :
    (openOperands tokens).length = (tokens.filter Token.isOperand).length % 3 := by
  simp only [openOperands, List.length_drop]
  omega

theorem openOperands_append_of_keyword (tokens : List Token) {token : Token}
    (keyword : token.kind = .keyword) : openOperands (tokens ++ [token]) = openOperands tokens := by
  simp [openOperands, List.filter_append, Token.isOperand_eq_false.mpr keyword]

theorem openOperands_append_of_operand (tokens : List Token) {token : Token}
    (operand : token.kind ≠ .keyword) :
    openOperands (tokens ++ [token]) =
      if (openOperands tokens).length = 2 then [] else openOperands tokens ++ [token] := by
  rw [length_openOperands]
  simp only [openOperands, List.filter_append,
    List.filter_cons_of_pos (Token.isOperand_eq_true.mpr operand), List.filter_nil,
    List.length_append, List.length_singleton]
  generalize tokens.filter Token.isOperand = operands
  split
  · apply List.drop_eq_nil_of_le
    simp only [List.length_append, List.length_singleton]
    omega
  · have sameCount : (operands.length + 1) / 3 = operands.length / 3 := by omega
    rw [sameCount, List.drop_append_of_le_length (by omega)]

theorem openOperands_eq_nil_iff {tokens : List Token} :
    openOperands tokens = [] ↔ 3 ∣ (tokens.filter Token.isOperand).length := by
  rw [← List.length_eq_zero_iff, length_openOperands, Nat.dvd_iff_mod_eq_zero]

def Slots.tokens : Slots → List Token
  | .empty => []
  | .column first => [first]
  | .operation first second => [first, second]

theorem noneOpen : Slots.empty.tokens = openOperands [] := rfl

/-! ### The scan of the body -/

/-- The body of a statement ends here. -/
def EndsBody (tokens : List Token) : Prop :=
  ∀ token ∈ tokens.head?, token.isSymbol .semicolon

theorem parseClauses_operand {token : Token} (operand : token.kind ≠ .keyword)
    (notSymbol : token.kind ≠ .symbol) (clauses : List Clause) (slots : Slots)
    (rest : List Token) :
    parseClauses clauses slots (token :: rest) =
      match slots with
      | .empty => parseClauses clauses (.column token) rest
      | .column column => parseClauses clauses (.operation column token) rest
      | .operation column operation =>
          parseClauses (.condition ⟨column, operation, token⟩ :: clauses) .empty rest := by
  cases slots <;> cases kind : token.kind <;> simp_all [parseClauses]

/--
One token of the body is read: the clause that it stands for is put behind the others, and the slots
hold the open operands again.
-/
theorem parseClauses_cons {before : List Token} {slots : Slots}
    (waiting : slots.tokens = openOperands before) {token : Token}
    (notSymbol : token.kind ≠ .symbol) :
    ∃ following : Slots, following.tokens = openOperands (before ++ [token]) ∧
      ∀ clauses rest, parseClauses clauses slots (token :: rest) =
        parseClauses ((clauseAt? before token).toList ++ clauses) following rest := by
  by_cases keyword : token.kind = .keyword
  · refine ⟨slots, ?_, ?_⟩
    · rw [openOperands_append_of_keyword before keyword, waiting]
    · intro clauses rest
      simp only [parseClauses, keyword, clauseAt?, Token.isOperand_eq_false.mpr keyword]
      split <;> simp_all
  · have operand : token.isOperand = true := Token.isOperand_eq_true.mpr keyword
    simp only [openOperands_append_of_operand before keyword, clauseAt?, operand, if_true,
      ← waiting, parseClauses_operand keyword notSymbol]
    cases slots with
    | empty => exact ⟨.column token, rfl, fun _ _ => rfl⟩
    | column first => exact ⟨.operation first token, rfl, fun _ _ => rfl⟩
    | operation first second => exact ⟨.empty, rfl, fun _ _ => rfl⟩

theorem parseClauses_of_endsBody {rest : List Token} (ends : EndsBody rest)
    (clauses : List Clause) (slots : Slots) :
    parseClauses clauses slots rest =
      match slots with
      | .empty => (.ok clauses.reverse, rest)
      | .column _ => unexpected .operation rest
      | .operation _ _ => unexpected .operand rest := by
  cases rest with
  | nil => cases slots <;> rfl
  | cons token rest =>
      have semicolon : token.isSymbol .semicolon := ends token rfl
      have symbol : token.kind = .symbol := (Token.isSymbol_iff.mp semicolon).1
      cases slots <;> simp [parseClauses, symbol, semicolon]

theorem parseClauses_body {before body rest : List Token} {slots : Slots} (clauses : List Clause)
    (waiting : slots.tokens = openOperands before)
    (noSymbol : ∀ token ∈ body, token.kind ≠ .symbol) (ends : EndsBody rest)
    (closed : openOperands (before ++ body) = []) :
    parseClauses clauses slots (body ++ rest) =
      (.ok (clauses.reverse ++ clausesAfter before body), rest) := by
  induction body generalizing before clauses slots with
  | nil =>
      have empty : slots = .empty := by
        cases slots <;> simp_all [Slots.tokens]
      rw [List.nil_append, parseClauses_of_endsBody ends, empty]
      simp [clausesAfter]
  | cons token body ih =>
      rcases parseClauses_cons waiting (noSymbol token List.mem_cons_self) with
        ⟨following, followingWaits, step⟩
      rw [List.cons_append, step, ih _ followingWaits
        (fun other mem => noSymbol other (List.mem_cons_of_mem _ mem)) (by simpa using closed)]
      cases found : clauseAt? before token <;> simp [clausesAfter, found]

theorem body_of_parseClauses {before tokens rest : List Token} {clauses result : List Clause}
    {slots : Slots} (waiting : slots.tokens = openOperands before)
    (read : parseClauses clauses slots tokens = (.ok result, rest)) :
    ∃ body, tokens = body ++ rest ∧ (∀ token ∈ body, token.kind ≠ .symbol) ∧ EndsBody rest ∧
      openOperands (before ++ body) = [] ∧
      result = clauses.reverse ++ clausesAfter before body := by
  induction tokens generalizing before clauses slots with
  | nil =>
      rw [parseClauses_of_endsBody (by simp [EndsBody])] at read
      cases slots with
      | empty =>
          rcases Prod.mk.inj read with ⟨answer, rfl⟩
          refine ⟨[], rfl, by simp, by simp [EndsBody], ?_, ?_⟩
          · rw [List.append_nil, ← waiting, Slots.tokens]
          · rw [← Except.ok.inj answer, clausesAfter, List.append_nil]
      | column first => simp [unexpected] at read
      | operation first second => simp [unexpected] at read
  | cons token tokens ih =>
      by_cases symbol : token.kind = .symbol
      · by_cases semicolon : token.isSymbol .semicolon
        · have ends : EndsBody (token :: tokens) := by simpa [EndsBody] using semicolon
          rw [parseClauses_of_endsBody ends] at read
          cases slots with
          | empty =>
              rcases Prod.mk.inj read with ⟨answer, rfl⟩
              refine ⟨[], rfl, by simp, ends, ?_, ?_⟩
              · rw [List.append_nil, ← waiting, Slots.tokens]
              · rw [← Except.ok.inj answer, clausesAfter, List.append_nil]
          | column first => simp [unexpected] at read
          | operation first second => simp [unexpected] at read
        · simp [parseClauses, symbol, semicolon, unexpected] at read
      · rcases parseClauses_cons waiting symbol with ⟨following, followingWaits, step⟩
        rw [step] at read
        rcases ih followingWaits read with ⟨body, rfl, noSymbol, ends, closed, rfl⟩
        refine ⟨token :: body, rfl, ?_, ends, by simpa using closed, ?_⟩
        · intro other mem
          rcases List.mem_cons.mp mem with rfl | mem
          · exact symbol
          · exact noSymbol other mem
        · cases found : clauseAt? before token <;> simp [clausesAfter, found]

/-! ### The projection -/

/-- No further item can follow: the tokens are at an end or begin with `FROM` or a semicolon. -/
def EndsItems (tokens : List Token) : Prop :=
  ∀ token ∈ tokens.head?, token.isKeyword .FROM ∨ token.isSymbol .semicolon

theorem parseMoreItems_of_endsItems {rest : List Token} (ends : EndsItems rest)
    (items : List Token) : parseMoreItems items rest = (.ok items.reverse, rest) := by
  cases rest with
  | nil => rfl
  | cons token rest =>
      have stop := ends token rfl
      cases rest <;> simp [parseMoreItems, stop]

theorem parseMoreItems_furtherItem (further : FurtherItem) (items rest : List Token) :
    parseMoreItems items (further.tokens ++ rest) =
      parseMoreItems (further.item :: items) rest := by
  have comma := Token.isSymbol_iff.mp further.isComma
  have notFrom : ¬further.comma.isKeyword .FROM := by simp [Token.isKeyword_iff, comma]
  have notFinish : ¬further.comma.isSymbol .semicolon := by
    simp [Token.isSymbol_iff, comma, Symbol.text]
  simp [FurtherItem.tokens, parseMoreItems, notFrom, notFinish, further.isComma,
    further.isExpression]

theorem parseMoreItems_furtherItems {rest : List Token} (ends : EndsItems rest)
    (others : List FurtherItem) (items : List Token) :
    parseMoreItems items (others.flatMap FurtherItem.tokens ++ rest) =
      (.ok (items.reverse ++ others.map FurtherItem.item), rest) := by
  induction others generalizing items with
  | nil => simpa using parseMoreItems_of_endsItems ends items
  | cons further others ih =>
      rw [List.flatMap_cons, List.append_assoc, parseMoreItems_furtherItem, ih]
      simp

theorem furtherItems_of_parseMoreItems {items tokens result rest : List Token}
    (read : parseMoreItems items tokens = (.ok result, rest)) :
    ∃ others : List FurtherItem, tokens = others.flatMap FurtherItem.tokens ++ rest ∧
      EndsItems rest ∧ result = items.reverse ++ others.map FurtherItem.item := by
  fun_induction parseMoreItems items tokens with
  | case1 items =>
      rcases Prod.mk.inj read with ⟨answer, rfl⟩
      exact ⟨[], rfl, by simp [EndsItems], by simpa using (Except.ok.inj answer).symm⟩
  | case2 items token tokens stop =>
      rcases Prod.mk.inj read with ⟨answer, rfl⟩
      refine ⟨[], rfl, ?_, by simpa using (Except.ok.inj answer).symm⟩
      simpa [EndsItems] using stop
  | case3 => simp [unexpected] at read
  | case4 items comma _ isComma item tokens isExpression ih =>
      rcases ih read with ⟨others, rfl, ends, rfl⟩
      exact ⟨⟨comma, item, isComma, isExpression⟩ :: others, rfl, ends, by simp⟩
  | case5 => simp [unexpected] at read
  | case6 => simp [unexpected] at read

theorem parseProjection_columns (columns : Columns) {rest : List Token}
    (ends : columns.projection ≠ .all → EndsItems rest) :
    parseProjection (columns.tokens ++ rest) = (.ok columns.projection, rest) := by
  cases columns with
  | all asterisk isAsterisk =>
      simp [Columns.tokens, Columns.projection, parseProjection, isAsterisk]
  | items first isExpression others =>
      have notAsterisk : ¬first.isSymbol .asterisk := by
        rw [Token.isSymbol_iff]
        rintro ⟨kind, -⟩
        simp [Token.isExpression, kind] at isExpression
      have read := parseMoreItems_furtherItems (ends (by simp [Columns.projection])) others [first]
      simp only [Columns.tokens, List.cons_append, parseProjection, notAsterisk, isExpression,
        read, if_true]
      rfl

theorem columns_of_parseProjection {tokens rest : List Token} {projection : Projection}
    (read : parseProjection tokens = (.ok projection, rest)) :
    ∃ columns : Columns, tokens = columns.tokens ++ rest ∧ columns.projection = projection ∧
      (columns.projection ≠ .all → EndsItems rest) := by
  cases tokens with
  | nil => simp [parseProjection, unexpected] at read
  | cons token tokens =>
      simp only [parseProjection] at read
      split at read
      · next isAsterisk =>
          rcases Prod.mk.inj read with ⟨answer, rfl⟩
          exact ⟨.all token isAsterisk, rfl, Except.ok.inj answer, fun named => absurd rfl named⟩
      · split at read
        · next isExpression =>
            split at read
            · next items rest' more =>
                rcases Prod.mk.inj read with ⟨answer, rfl⟩
                rcases furtherItems_of_parseMoreItems more with ⟨others, rfl, ends, rfl⟩
                exact ⟨.items token isExpression others, rfl, Except.ok.inj answer, fun _ => ends⟩
            · simp at read
        · simp [unexpected] at read

/-! ### The name of the table -/

theorem parseTable_origin (origin : Option Origin) {rest : List Token}
    (noFrom : origin = none → ∀ token ∈ rest.head?, ¬token.isKeyword .FROM) :
    parseTable (Origin.tokens origin ++ rest) = (.ok (origin.map Origin.name), rest) := by
  cases origin with
  | none =>
      cases rest with
      | nil => rfl
      | cons token rest => simp [Origin.tokens, parseTable, noFrom rfl token rfl]
  | some origin => simp [Origin.tokens, parseTable, origin.isFrom, origin.isName]

theorem origin_of_parseTable {tokens rest : List Token} {table : Option Token}
    (read : parseTable tokens = (.ok table, rest)) :
    ∃ origin : Option Origin, tokens = Origin.tokens origin ++ rest ∧
      origin.map Origin.name = table ∧
      (origin = none → ∀ token ∈ rest.head?, ¬token.isKeyword .FROM) := by
  cases tokens with
  | nil =>
      rcases Prod.mk.inj read with ⟨answer, rfl⟩
      exact ⟨none, rfl, Except.ok.inj answer, by simp⟩
  | cons token tokens =>
      simp only [parseTable] at read
      split at read
      · next isFrom =>
          split at read
          · simp [unexpected] at read
          · next name tokens' =>
              split at read
              · next isName =>
                  rcases Prod.mk.inj read with ⟨answer, rfl⟩
                  exact ⟨some ⟨token, name, isFrom, isName⟩, rfl, Except.ok.inj answer, by simp⟩
              · simp [unexpected] at read
      · next notFrom =>
          rcases Prod.mk.inj read with ⟨answer, rfl⟩
          exact ⟨none, rfl, Except.ok.inj answer, by simpa using notFrom⟩

/-! ### The whole statement -/

theorem parseFinish_eq_ok_iff {tokens rest : List Token} :
    parseFinish tokens = (.ok (), rest) ↔
      rest = [] ∧ ∃ finish : Option Token, tokens = finish.toList ∧
        ∀ token ∈ finish, token.isSymbol .semicolon := by
  constructor
  · intro read
    cases tokens with
    | nil => exact ⟨(Prod.mk.inj read).2.symm, none, rfl, by simp⟩
    | cons token tokens =>
        simp only [parseFinish] at read
        split at read
        · next semicolon =>
            split at read
            · exact ⟨(Prod.mk.inj read).2.symm, some token, rfl, by simpa using semicolon⟩
            · simp [unexpected] at read
        · simp [unexpected] at read
  · rintro ⟨rfl, finish, rfl, semicolon⟩
    cases finish with
    | none => rfl
    | some token => simp [parseFinish, semicolon token rfl]

theorem endsBody_finish {finish : Option Token}
    (semicolon : ∀ token ∈ finish, token.isSymbol .semicolon) : EndsBody finish.toList := by
  cases finish with
  | none => simp [EndsBody]
  | some token => simpa [EndsBody] using semicolon

namespace Sentence

/-- Without a table nothing but a semicolon can follow the items. -/
theorem endsItems (sentence : Sentence) (named : sentence.columns.projection ≠ .all) :
    EndsItems (Origin.tokens sentence.origin ++ sentence.body ++ sentence.finish.toList) := by
  cases found : sentence.origin with
  | none =>
      rw [sentence.noBody found named]
      intro token mem
      exact Or.inr (endsBody_finish sentence.isFinish token mem)
  | some origin => simp [EndsItems, Origin.tokens, origin.isFrom]

/-- A body that may stand without a table keeps its first token apart from `FROM`. -/
theorem noFrom_body (sentence : Sentence) (noTable : sentence.origin = none) :
    ∀ token ∈ (sentence.body ++ sentence.finish.toList).head?, ¬token.isKeyword .FROM := by
  cases found : sentence.body with
  | nil =>
      intro token mem
      have semicolon := Token.isSymbol_iff.mp (endsBody_finish sentence.isFinish token mem)
      simp [Token.isKeyword_iff, semicolon]
  | cons first body =>
      simpa [found] using sentence.noFrom noTable first (by simp [found])

/-- A sentence is read as the statement that it means. -/
theorem parseTokens_tokens (sentence : Sentence) :
    parseTokens sentence.tokens = (.ok sentence.statement, []) := by
  have columns := parseProjection_columns sentence.columns sentence.endsItems
  have origin := parseTable_origin sentence.origin sentence.noFrom_body
  have body := parseClauses_body [] noneOpen
    sentence.noSymbol (endsBody_finish sentence.isFinish)
    (openOperands_eq_nil_iff.mpr sentence.inThrees)
  have finish := parseFinish_eq_ok_iff.mpr ⟨rfl, sentence.finish, rfl, sentence.isFinish⟩
  simp only [List.append_assoc] at columns origin
  simp [tokens, statement, parseTokens, sentence.isSelect, parseSelection, columns, origin, body,
    finish]

end Sentence

theorem parseSelection_eq_ok_iff {tokens rest : List Token} {statement : Statement} :
    parseSelection tokens = (.ok statement, rest) ↔
      ∃ afterColumns afterTable afterBody,
        parseProjection tokens = (.ok statement.projection, afterColumns) ∧
        parseTable afterColumns = (.ok statement.table, afterTable) ∧
        parseClauses [] .empty afterTable = (.ok statement.clauses, afterBody) ∧
        parseFinish afterBody = (.ok (), rest) := by
  constructor
  · intro read
    simp only [parseSelection] at read
    split at read
    · simp at read
    · next columns =>
        split at read
        · simp at read
        · next table =>
            split at read
            · simp at read
            · next body =>
                split at read
                · simp at read
                · next finish =>
                    rcases Prod.mk.inj read with ⟨answer, rfl⟩
                    rcases Except.ok.inj answer with rfl
                    exact ⟨_, _, _, columns, table, body, finish⟩
  · rintro ⟨afterColumns, afterTable, afterBody, columns, table, body, finish⟩
    simp only [parseSelection, columns, table, body, finish]

theorem body_eq_nil_of_endsItems {body rest : List Token} (ends : EndsItems (body ++ rest))
    (noFrom : ∀ token ∈ (body ++ rest).head?, ¬token.isKeyword .FROM)
    (noSymbol : ∀ token ∈ body, token.kind ≠ .symbol) : body = [] := by
  cases body with
  | nil => rfl
  | cons first body =>
      rcases ends first rfl with fromWord | semicolon
      · exact absurd fromWord (noFrom first rfl)
      · exact absurd (Token.isSymbol_iff.mp semicolon).1 (noSymbol first List.mem_cons_self)

/-- Every statement that is read is the meaning of a sentence with the same tokens. -/
theorem sentence_of_parseTokens {tokens rest : List Token} {statement : Statement}
    (read : parseTokens tokens = (.ok statement, rest)) :
    rest = [] ∧ ∃ sentence : Sentence, sentence.tokens = tokens ∧
      sentence.statement = statement := by
  cases tokens with
  | nil => simp [parseTokens, unexpected] at read
  | cons select tokens =>
      simp only [parseTokens] at read
      split at read
      · next isSelect =>
          rcases parseSelection_eq_ok_iff.mp read with
            ⟨_, _, _, readColumns, readTable, readBody, readFinish⟩
          rcases columns_of_parseProjection readColumns with ⟨columns, rfl, sameColumns, endsItems⟩
          rcases origin_of_parseTable readTable with ⟨origin, rfl, sameTable, noFrom⟩
          rcases body_of_parseClauses noneOpen readBody with
            ⟨body, rfl, noSymbol, -, closed, sameClauses⟩
          rcases parseFinish_eq_ok_iff.mp readFinish with ⟨rfl, finish, rfl, isFinish⟩
          have noFromInBody : origin = none → ∀ token ∈ body.head?, ¬token.isKeyword .FROM := by
            intro noTable token mem
            exact noFrom noTable token (by simp [Option.mem_def.mp mem])
          have noBody : origin = none → columns.projection ≠ .all → body = [] := by
            intro noTable named
            have ends := endsItems named
            rw [noTable] at ends
            exact body_eq_nil_of_endsItems ends (noFrom noTable) noSymbol
          refine ⟨rfl, ⟨select, columns, origin, body, finish, isSelect, noSymbol,
            openOperands_eq_nil_iff.mp closed, isFinish, noFromInBody, noBody⟩, ?_, ?_⟩
          · simp [Sentence.tokens]
          · simp only [List.reverse_nil, List.nil_append] at sameClauses
            simp only [Sentence.statement, sameColumns, sameTable, ← sameClauses]
      · simp [unexpected] at read

/--
A list of tokens is read as a statement exactly if the tokens are those of a sentence that means the
statement.
-/
theorem parseTokens_eq_ok_iff (tokens : List Token) (statement : Statement) :
    (parseTokens tokens).1 = .ok statement ↔
      ∃ sentence : Sentence, sentence.tokens = tokens ∧ sentence.statement = statement := by
  constructor
  · intro read
    exact (sentence_of_parseTokens (Prod.ext read rfl)).2
  · rintro ⟨sentence, rfl, rfl⟩
    rw [sentence.parseTokens_tokens]

end CsvSelect.Query
