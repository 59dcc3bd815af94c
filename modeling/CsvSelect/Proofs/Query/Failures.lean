import CsvSelect.Proofs.Query.Grammar

/-!
# Where reading fails

A list of tokens that is no statement is refused at one of its tokens or at its end. This file shows
that this place is the right one: the tokens before it begin some statement, and together with the
token at the place they begin none. So reading fails neither too early nor too late.

The two halves have different reasons. A reader that fails has seen nothing behind the offending
token, so it fails in the same way whatever follows (`FailsAfter`), and no statement begins like
this. The tokens before the offending one are completed to a sentence: a comma by an item, `FROM` by
a name, and the operands of the body by twice as many, which makes threes of them.
-/

namespace CsvSelect.Query

/-- Some statement is read from the tokens. -/
def Accepts (tokens : List Token) : Prop :=
  ∃ statement, (parseTokens tokens).1 = .ok statement

/-- The tokens are the first ones of a statement. -/
def BeginsStatement (tokens : List Token) : Prop :=
  ∃ accepted, Accepts accepted ∧ tokens <+: accepted

theorem Sentence.beginsStatement (sentence : Sentence) {tokens : List Token}
    (begins : tokens <+: sentence.tokens) : BeginsStatement tokens :=
  ⟨sentence.tokens, ⟨sentence.statement, by rw [sentence.parseTokens_tokens]⟩, begins⟩

/-- The error names the first of the tokens, or the end if there are none. -/
def ParseError.Blames (error : ParseError) : List Token → Prop
  | [] => ∃ expected, error = .unexpectedEnd expected
  | token :: _ => ∃ expected, error = .unexpectedToken expected token

/--
The reader goes through the tokens `passed` and fails at the first token of `rest`, or at the end if
there is none, without regard to what comes behind.
-/
structure FailsAfter {Answer : Type} (read : List Token → Parsed Answer) (error : ParseError)
    (passed rest : List Token) : Prop where
  blames : error.Blames rest
  failsOn : ∀ others : List Token, others.head? = rest.head? →
    read (passed ++ others) = (.error error, others)

theorem FailsAfter.of_unexpected {Answer : Type} {read : List Token → Parsed Answer}
    {passed tokens rest : List Token} {expected : Expected} {error : ParseError}
    (failed : (unexpected expected tokens : Parsed Answer) = (.error error, rest))
    (asks : ∀ others : List Token, others.head? = tokens.head? →
      read (passed ++ others) = unexpected expected others) :
    rest = tokens ∧ FailsAfter read error passed tokens := by
  cases tokens with
  | nil =>
      rcases Prod.mk.inj failed with ⟨same, rfl⟩
      refine ⟨rfl, ⟨expected, (Except.error.inj same).symm⟩, ?_⟩
      intro others head
      rw [asks others head, ← same, List.head?_eq_none_iff.mp head]
      rfl
  | cons token tokens =>
      rcases Prod.mk.inj failed with ⟨same, rfl⟩
      refine ⟨rfl, ⟨expected, (Except.error.inj same).symm⟩, ?_⟩
      intro others head
      rw [asks others head, ← same]
      rcases List.head?_eq_some_iff.mp head with ⟨others, rfl⟩
      rfl

/-- A name that stands for what is missing. -/
def missing : Token := { kind := .identifier, value := "missing" }

/-! ### The projection -/

theorem failsAfter_of_parseMoreItems {items tokens rest : List Token} {error : ParseError}
    (failed : parseMoreItems items tokens = (.error error, rest)) :
    ∃ passed, tokens = passed ++ rest ∧ FailsAfter (parseMoreItems items) error passed rest ∧
      ∃ others : List FurtherItem, passed <+: others.flatMap FurtherItem.tokens := by
  fun_induction parseMoreItems items tokens with
  | case1 => simp at failed
  | case2 => simp at failed
  | case3 items comma notEnd isComma =>
      have asks : ∀ others : List Token, others.head? = none →
          parseMoreItems items ([comma] ++ others) = unexpected .expression others := by
        intro others head
        rw [List.head?_eq_none_iff.mp head]
        simp [parseMoreItems, notEnd, isComma]
      rcases FailsAfter.of_unexpected failed asks with ⟨rfl, fails⟩
      exact ⟨[comma], rfl, fails, [⟨comma, missing, isComma, rfl⟩], by simp [FurtherItem.tokens]⟩
  | case4 items comma notEnd isComma item tokens isExpression ih =>
      rcases ih failed with ⟨passed, rfl, fails, others, begins⟩
      let further : FurtherItem := ⟨comma, item, isComma, isExpression⟩
      refine ⟨further.tokens ++ passed, rfl, ⟨fails.blames, ?_⟩, further :: others, ?_⟩
      · intro more head
        rw [List.append_assoc, parseMoreItems_furtherItem]
        exact fails.failsOn more head
      · exact (List.prefix_append_right_inj _).mpr begins
  | case5 items comma notEnd isComma item tokens notExpression =>
      have asks : ∀ others : List Token, others.head? = some item →
          parseMoreItems items ([comma] ++ others) = unexpected .expression others := by
        intro others head
        rcases List.head?_eq_some_iff.mp head with ⟨others, rfl⟩
        simp [parseMoreItems, notEnd, isComma, notExpression]
      rcases FailsAfter.of_unexpected failed asks with ⟨rfl, fails⟩
      exact ⟨[comma], rfl, fails, [⟨comma, missing, isComma, rfl⟩], by simp [FurtherItem.tokens]⟩
  | case6 items token tokens notEnd notComma =>
      have asks : ∀ others : List Token, others.head? = some token →
          parseMoreItems items ([] ++ others) = unexpected .comma others := by
        intro others head
        rcases List.head?_eq_some_iff.mp head with ⟨others, rfl⟩
        cases others <;> simp [parseMoreItems, notEnd, notComma]
      rcases FailsAfter.of_unexpected failed asks with ⟨rfl, fails⟩
      exact ⟨[], rfl, fails, [], List.nil_prefix⟩

theorem failsAfter_of_parseProjection {tokens rest : List Token} {error : ParseError}
    (failed : parseProjection tokens = (.error error, rest)) :
    ∃ passed, tokens = passed ++ rest ∧ FailsAfter parseProjection error passed rest ∧
      ∃ columns : Columns, passed <+: columns.tokens := by
  cases tokens with
  | nil =>
      have asks : ∀ others : List Token, others.head? = none →
          parseProjection ([] ++ others) = unexpected .expression others := by
        intro others head
        rw [List.head?_eq_none_iff.mp head]
        rfl
      rw [parseProjection] at failed
      rcases FailsAfter.of_unexpected failed asks with ⟨rfl, fails⟩
      exact ⟨[], rfl, fails, .items missing rfl [], List.nil_prefix⟩
  | cons first tokens =>
      simp only [parseProjection] at failed
      split at failed
      · simp at failed
      · next notAsterisk =>
          split at failed
          · next isExpression =>
              split at failed
              · simp at failed
              · next more =>
                  rcases Prod.mk.inj failed with ⟨same, rfl⟩
                  rcases Except.error.inj same with rfl
                  rcases failsAfter_of_parseMoreItems more with ⟨passed, rfl, fails, others, begins⟩
                  refine ⟨first :: passed, rfl, ⟨fails.blames, ?_⟩,
                    .items first isExpression others, List.cons_prefix_cons.mpr ⟨rfl, begins⟩⟩
                  intro others head
                  simp [parseProjection, notAsterisk, isExpression, fails.failsOn others head]
          · next notExpression =>
              have asks : ∀ others : List Token, others.head? = some first →
                  parseProjection ([] ++ others) = unexpected .expression others := by
                intro others head
                rcases List.head?_eq_some_iff.mp head with ⟨others, rfl⟩
                simp [parseProjection, notAsterisk, notExpression]
              rcases FailsAfter.of_unexpected failed asks with ⟨rfl, fails⟩
              exact ⟨[], rfl, fails, .items missing rfl [], List.nil_prefix⟩

/-! ### The name of the table -/

theorem failsAfter_of_parseTable {tokens rest : List Token} {error : ParseError}
    (failed : parseTable tokens = (.error error, rest)) :
    ∃ word : Token, word.isKeyword .FROM ∧ tokens = word :: rest ∧
      FailsAfter parseTable error [word] rest := by
  cases tokens with
  | nil => simp [parseTable] at failed
  | cons word tokens =>
      simp only [parseTable] at failed
      split at failed
      · next isFrom =>
          split at failed
          · have asks : ∀ others : List Token, others.head? = none →
                parseTable ([word] ++ others) = unexpected .tableName others := by
              intro others head
              rw [List.head?_eq_none_iff.mp head]
              simp [parseTable, isFrom]
            rcases FailsAfter.of_unexpected failed asks with ⟨rfl, fails⟩
            exact ⟨word, isFrom, rfl, fails⟩
          · next name tokens =>
              split at failed
              · simp at failed
              · next notName =>
                  have asks : ∀ others : List Token, others.head? = some name →
                      parseTable ([word] ++ others) = unexpected .tableName others := by
                    intro others head
                    rcases List.head?_eq_some_iff.mp head with ⟨others, rfl⟩
                    simp [parseTable, isFrom, notName]
                  rcases FailsAfter.of_unexpected failed asks with ⟨rfl, fails⟩
                  exact ⟨word, isFrom, rfl, fails⟩
      · simp at failed

/-! ### The body and the end -/

theorem head?_append_congr {tokens others : List Token} (head : others.head? = tokens.head?)
    (passed : List Token) : (passed ++ others).head? = (passed ++ tokens).head? := by
  simp only [List.head?_append, head]

theorem endsItems_congr {tokens others : List Token} (head : others.head? = tokens.head?) :
    EndsItems others ↔ EndsItems tokens := by
  rw [EndsItems, EndsItems, head]

theorem endsBody_congr {tokens others : List Token} (head : others.head? = tokens.head?) :
    EndsBody others ↔ EndsBody tokens := by
  rw [EndsBody, EndsBody, head]

/-- What is missing at the end of a body depends on the slots only. -/
theorem failsAfter_of_endsBody {clauses : List Clause} {slots : Slots} {tokens rest : List Token}
    {error : ParseError} (ends : EndsBody tokens)
    (failed : parseClauses clauses slots tokens = (.error error, rest)) :
    rest = tokens ∧ FailsAfter (parseClauses clauses slots) error [] tokens := by
  rw [parseClauses_of_endsBody ends] at failed
  cases slots with
  | empty => simp at failed
  | column first =>
      refine FailsAfter.of_unexpected failed ?_
      intro others head
      exact parseClauses_of_endsBody ((endsBody_congr head).mpr ends) clauses (.column first)
  | operation first second =>
      refine FailsAfter.of_unexpected failed ?_
      intro others head
      exact parseClauses_of_endsBody ((endsBody_congr head).mpr ends) clauses
        (.operation first second)

theorem failsAfter_of_parseClauses {before tokens rest : List Token} {clauses : List Clause}
    {slots : Slots} {error : ParseError} (waiting : slots.tokens = openOperands before)
    (failed : parseClauses clauses slots tokens = (.error error, rest)) :
    ∃ passed, tokens = passed ++ rest ∧ (∀ token ∈ passed, token.kind ≠ .symbol) ∧
      FailsAfter (parseClauses clauses slots) error passed rest := by
  induction tokens generalizing before clauses slots with
  | nil =>
      rcases failsAfter_of_endsBody (by simp [EndsBody]) failed with ⟨rfl, fails⟩
      exact ⟨[], rfl, by simp, fails⟩
  | cons token tokens ih =>
      by_cases symbol : token.kind = .symbol
      · by_cases semicolon : token.isSymbol .semicolon
        · rcases failsAfter_of_endsBody (by simpa [EndsBody] using semicolon) failed with
            ⟨rfl, fails⟩
          exact ⟨[], rfl, by simp, fails⟩
        · have refused : ∀ others : List Token,
              parseClauses clauses slots (token :: others) =
                unexpected .clause (token :: others) := by
            intro others
            simp [parseClauses, symbol, semicolon]
          rw [refused] at failed
          have asks : ∀ others : List Token, others.head? = some token →
              parseClauses clauses slots ([] ++ others) = unexpected .clause others := by
            intro others head
            rcases List.head?_eq_some_iff.mp head with ⟨others, rfl⟩
            exact refused others
          rcases FailsAfter.of_unexpected failed asks with ⟨rfl, fails⟩
          exact ⟨[], rfl, by simp, fails⟩
      · rcases parseClauses_cons waiting symbol with ⟨following, followingWaits, step⟩
        rw [step] at failed
        rcases ih followingWaits failed with ⟨passed, rfl, noSymbol, fails⟩
        refine ⟨token :: passed, rfl, ?_, fails.blames, ?_⟩
        · intro other mem
          rcases List.mem_cons.mp mem with rfl | mem
          · exact symbol
          · exact noSymbol other mem
        · intro others head
          rw [List.cons_append, step]
          exact fails.failsOn others head

/-- Any tokens become a body when their operands are followed by twice as many. -/
theorem dvd_operands_append_missing (tokens : List Token) :
    3 ∣ ((tokens ++ List.replicate (2 * (tokens.filter Token.isOperand).length) missing).filter
      Token.isOperand).length := by
  have isOperand : missing.isOperand = true := rfl
  rw [List.filter_append, List.filter_replicate_of_pos isOperand, List.length_append,
    List.length_replicate]
  omega

theorem failsAfter_of_parseFinish {tokens rest : List Token} {error : ParseError}
    (ends : EndsBody tokens) (failed : parseFinish tokens = (.error error, rest)) :
    ∃ token : Token, token.isSymbol .semicolon ∧ tokens = token :: rest ∧
      FailsAfter parseFinish error [token] rest := by
  cases tokens with
  | nil => simp [parseFinish] at failed
  | cons token tokens =>
      have semicolon : token.isSymbol .semicolon := ends token rfl
      simp only [parseFinish, semicolon, if_true] at failed
      cases tokens with
      | nil => simp at failed
      | cons extra tokens =>
          have asks : ∀ others : List Token, others.head? = some extra →
              parseFinish ([token] ++ others) = unexpected .finish others := by
            intro others head
            rcases List.head?_eq_some_iff.mp head with ⟨others, rfl⟩
            simp [parseFinish, semicolon]
          rcases FailsAfter.of_unexpected failed asks with ⟨rfl, fails⟩
          exact ⟨token, semicolon, rfl, fails⟩

/-! ### The whole statement -/

/-- The columns and the table are all that is read before the tokens. -/
structure Opening (columns : Columns) (origin : Option Origin) (tokens : List Token) : Prop where
  endsItems : columns.projection ≠ .all → EndsItems (Origin.tokens origin ++ tokens)
  noFrom : origin = none → ∀ token ∈ tokens.head?, ¬token.isKeyword .FROM

namespace Opening

variable {columns : Columns} {origin : Option Origin} {tokens others rest : List Token}

/-- Whether an opening has come to its end depends on one token behind it. -/
theorem congr (opening : Opening columns origin tokens) (head : others.head? = tokens.head?) :
    Opening columns origin others where
  endsItems named := (endsItems_congr (head?_append_congr head _)).mpr (opening.endsItems named)
  noFrom noTable := by
    rw [head]
    exact opening.noFrom noTable

theorem parseSelection_append (opening : Opening columns origin tokens) :
    parseSelection (columns.tokens ++ (Origin.tokens origin ++ tokens)) =
      match parseClauses [] .empty tokens with
      | (.error error, rest) => (.error error, rest)
      | (.ok clauses, rest) =>
          match parseFinish rest with
          | (.error error, rest) => (.error error, rest)
          | (.ok (), rest) =>
              (.ok { projection := columns.projection, table := origin.map Origin.name, clauses },
                rest) := by
  have items := parseProjection_columns columns opening.endsItems
  have table := parseTable_origin origin opening.noFrom
  rcases read : parseClauses [] .empty tokens with ⟨error | clauses, behind⟩
  · simp only [parseSelection, items, table, read]
  · rcases finished : parseFinish behind with ⟨error | ended, rest⟩
    · simp only [parseSelection, items, table, read, finished]
    · simp only [parseSelection, items, table, read, finished]

/-- Behind items without a table the body is empty. -/
theorem endsBody (opening : Opening columns origin tokens) (noTable : origin = none)
    (named : columns.projection ≠ .all) : EndsBody tokens := by
  have ends := opening.endsItems named
  subst noTable
  intro token mem
  exact (ends token mem).resolve_left (opening.noFrom rfl token mem)

end Opening

/-- What follows `SELECT` is refused where `rest` begins, neither too early nor too late. -/
def RefusedAt (tokens rest : List Token) (error : ParseError) : Prop :=
  ∃ passed, tokens = passed ++ rest ∧ FailsAfter parseSelection error passed rest ∧
    ∀ select : Token, select.isKeyword .SELECT → BeginsStatement (select :: passed)

theorem refusedAt_of_body {columns : Columns} {origin : Option Origin} {tokens rest : List Token}
    {error : ParseError} (opening : Opening columns origin tokens)
    (failed : parseClauses [] .empty tokens = (.error error, rest)) :
    RefusedAt (columns.tokens ++ (Origin.tokens origin ++ tokens)) rest error := by
  rcases failsAfter_of_parseClauses noneOpen failed with ⟨passed, rfl, noSymbol, fails⟩
  refine ⟨columns.tokens ++ (Origin.tokens origin ++ passed), by simp, ⟨fails.blames, ?_⟩, ?_⟩
  · intro others head
    have same := opening.congr (head?_append_congr head passed)
    rw [List.append_assoc, List.append_assoc, same.parseSelection_append,
      fails.failsOn others head]
  · intro select isSelect
    let completion := List.replicate (2 * (passed.filter Token.isOperand).length) missing
    have noFrom : origin = none →
        ∀ token ∈ (passed ++ completion).head?, ¬token.isKeyword .FROM := by
      intro noTable token mem
      cases passed with
      | nil => simp [completion] at mem
      | cons first passed => exact opening.noFrom noTable token mem
    have noBody : origin = none → columns.projection ≠ .all → passed ++ completion = [] := by
      intro noTable named
      rw [parseClauses_of_endsBody (opening.endsBody noTable named)] at failed
      simp at failed
    have noSymbolAtAll : ∀ token ∈ passed ++ completion, token.kind ≠ .symbol := by
      intro token mem
      rcases List.mem_append.mp mem with old | new
      · exact noSymbol token old
      · rw [List.eq_of_mem_replicate new]
        decide
    let sentence : Sentence := ⟨select, columns, origin, passed ++ completion, none, isSelect,
      noSymbolAtAll, dvd_operands_append_missing passed, by simp, noFrom, noBody⟩
    refine sentence.beginsStatement ⟨completion, ?_⟩
    simp [sentence, Sentence.tokens]

theorem refusedAt_of_finish {columns : Columns} {origin : Option Origin}
    {tokens afterBody rest : List Token} {clauses : List Clause} {error : ParseError}
    (opening : Opening columns origin tokens)
    (read : parseClauses [] .empty tokens = (.ok clauses, afterBody))
    (failed : parseFinish afterBody = (.error error, rest)) :
    RefusedAt (columns.tokens ++ (Origin.tokens origin ++ tokens)) rest error := by
  rcases body_of_parseClauses noneOpen read with ⟨body, rfl, noSymbol, ends, closed, -⟩
  rcases failsAfter_of_parseFinish ends failed with ⟨semicolon, isFinish, rfl, fails⟩
  -- Up to the semicolon everything is read as before, whatever follows it.
  have reads : ∀ others : List Token,
      parseSelection (columns.tokens ++ (Origin.tokens origin ++ (body ++ semicolon :: others))) =
        match parseFinish (semicolon :: others) with
        | (.error error, rest) => (.error error, rest)
        | (.ok (), rest) =>
            (.ok { projection := columns.projection, table := origin.map Origin.name,
                   clauses := clausesAfter [] body }, rest) := by
    intro others
    have same : (semicolon :: others).head? = (semicolon :: rest).head? := rfl
    have head := head?_append_congr same body
    have stops : EndsBody (semicolon :: others) := (endsBody_congr rfl).mpr ends
    have again := parseClauses_body [] noneOpen noSymbol stops closed
    rw [(opening.congr head).parseSelection_append, again]
    rfl
  refine ⟨columns.tokens ++ (Origin.tokens origin ++ (body ++ [semicolon])), by simp,
    ⟨fails.blames, ?_⟩, ?_⟩
  · intro others head
    have later := fails.failsOn others head
    simp only [List.append_assoc, List.singleton_append] at later ⊢
    rw [reads, later]
  · intro select isSelect
    let statement : Statement := { projection := columns.projection,
                                   table := origin.map Origin.name,
                                   clauses := clausesAfter [] body }
    have accepted : parseTokens (select :: (columns.tokens ++ (Origin.tokens origin ++
        (body ++ [semicolon])))) = (.ok statement, []) := by
      rw [parseTokens, if_pos isSelect, reads, parseFinish, if_pos isFinish]
    exact ⟨_, ⟨statement, by rw [accepted]⟩, List.prefix_refl _⟩

theorem refusedAt_of_table {columns : Columns} {tokens rest : List Token} {error : ParseError}
    (failed : parseTable tokens = (.error error, rest)) :
    RefusedAt (columns.tokens ++ tokens) rest error := by
  rcases failsAfter_of_parseTable failed with ⟨word, isFrom, rfl, fails⟩
  refine ⟨columns.tokens ++ [word], by simp, ⟨fails.blames, ?_⟩, ?_⟩
  · intro others head
    have ends : EndsItems ([word] ++ others) := by simp [EndsItems, isFrom]
    rw [List.append_assoc, parseSelection, parseProjection_columns columns fun _ => ends]
    simp only [fails.failsOn others head]
  · intro select isSelect
    let sentence : Sentence := ⟨select, columns, some ⟨word, missing, isFrom, rfl⟩, [], none,
      isSelect, by simp, by simp, by simp, by simp, by simp⟩
    refine sentence.beginsStatement ⟨[missing], ?_⟩
    simp [sentence, Sentence.tokens, Origin.tokens]

theorem refusedAt_of_parseSelection {tokens rest : List Token} {error : ParseError}
    (failed : parseSelection tokens = (.error error, rest)) :
    RefusedAt tokens rest error := by
  simp only [parseSelection] at failed
  split at failed
  · next readColumns =>
      rcases Prod.mk.inj failed with ⟨same, rfl⟩
      rcases Except.error.inj same with rfl
      rcases failsAfter_of_parseProjection readColumns with ⟨passed, rfl, fails, columns, begins⟩
      refine ⟨passed, rfl, ⟨fails.blames, ?_⟩, ?_⟩
      · intro others head
        rw [parseSelection, fails.failsOn others head]
      · intro select isSelect
        let sentence : Sentence := ⟨select, columns, none, [], none, isSelect, by simp, by simp,
          by simp, by simp, by simp⟩
        refine sentence.beginsStatement ?_
        simpa [sentence, Sentence.tokens, Origin.tokens] using begins
  · next readColumns =>
      rcases columns_of_parseProjection readColumns with ⟨columns, rfl, rfl, endsItems⟩
      split at failed
      · next readTable =>
          rcases Prod.mk.inj failed with ⟨same, rfl⟩
          rcases Except.error.inj same with rfl
          exact refusedAt_of_table readTable
      · next readTable =>
          rcases origin_of_parseTable readTable with ⟨origin, rfl, -, noFrom⟩
          have opening : Opening columns origin _ := ⟨endsItems, noFrom⟩
          split at failed
          · next readBody =>
              rcases Prod.mk.inj failed with ⟨same, rfl⟩
              rcases Except.error.inj same with rfl
              exact refusedAt_of_body opening readBody
          · next readBody =>
              split at failed
              · next readFinish =>
                  rcases Prod.mk.inj failed with ⟨same, rfl⟩
                  rcases Except.error.inj same with rfl
                  exact refusedAt_of_finish opening readBody readFinish
              · simp at failed

theorem beginsStatement_nil : BeginsStatement [] := by
  let sentence : Sentence := ⟨{ kind := .keyword, value := "select" }, .items missing rfl [], none,
    [], none, by decide, by simp, by simp, by simp, by simp, by simp⟩
  exact sentence.beginsStatement List.nil_prefix

theorem failsAfter_of_parseTokens {tokens rest : List Token} {error : ParseError}
    (failed : parseTokens tokens = (.error error, rest)) :
    ∃ passed, tokens = passed ++ rest ∧ FailsAfter parseTokens error passed rest ∧
      BeginsStatement passed := by
  cases tokens with
  | nil =>
      have asks : ∀ others : List Token, others.head? = none →
          parseTokens ([] ++ others) = unexpected .statement others := by
        intro others head
        rw [List.head?_eq_none_iff.mp head]
        rfl
      rw [parseTokens] at failed
      rcases FailsAfter.of_unexpected failed asks with ⟨rfl, fails⟩
      exact ⟨[], rfl, fails, beginsStatement_nil⟩
  | cons select tokens =>
      by_cases isSelect : select.isKeyword .SELECT
      · rw [parseTokens, if_pos isSelect] at failed
        rcases refusedAt_of_parseSelection failed with ⟨passed, rfl, fails, begins⟩
        refine ⟨select :: passed, rfl, ⟨fails.blames, ?_⟩, begins select isSelect⟩
        intro others head
        rw [List.cons_append, parseTokens, if_pos isSelect, fails.failsOn others head]
      · have asks : ∀ others : List Token, others.head? = some select →
            parseTokens ([] ++ others) = unexpected .statement others := by
          intro others head
          rcases List.head?_eq_some_iff.mp head with ⟨others, rfl⟩
          simp [parseTokens, isSelect]
        rw [parseTokens, if_neg isSelect] at failed
        rcases FailsAfter.of_unexpected failed asks with ⟨rfl, fails⟩
        exact ⟨[], rfl, fails, beginsStatement_nil⟩

/-- The index of the first token that is not read. -/
def stopIndex (tokens : List Token) : Nat :=
  tokens.length - (parseTokens tokens).2.length

/--
Where reading fails, the tokens before this place begin a statement. If a token stands there, the
error names it, and no statement begins with the tokens up to it; otherwise the error is that the
tokens have come to their end.
-/
theorem parseTokens_fails_at {tokens : List Token} {error : ParseError}
    (failed : (parseTokens tokens).1 = .error error) :
    (parseTokens tokens).2 = tokens.drop (stopIndex tokens) ∧
      BeginsStatement (tokens.take (stopIndex tokens)) ∧
      (∀ inside : stopIndex tokens < tokens.length,
        (∃ expected, error = .unexpectedToken expected tokens[stopIndex tokens]) ∧
          ¬BeginsStatement (tokens.take (stopIndex tokens + 1))) ∧
      (stopIndex tokens = tokens.length → ∃ expected, error = .unexpectedEnd expected) := by
  rcases read : parseTokens tokens with ⟨answer, rest⟩
  obtain rfl : answer = .error error := by rw [← failed, read]
  rcases failsAfter_of_parseTokens read with ⟨passed, rfl, fails, begins⟩
  have stops : stopIndex (passed ++ rest) = passed.length := by
    rw [stopIndex, read, List.length_append]
    exact Nat.add_sub_cancel _ _
  simp only [stops]
  refine ⟨by simp, by simpa using begins, ?_, ?_⟩
  · intro inside
    cases rest with
    | nil => simp at inside
    | cons token rest =>
        have blames : ∃ expected, error = .unexpectedToken expected token := fails.blames
        refine ⟨by simpa using blames, ?_⟩
        rintro ⟨_, ⟨statement, accepted⟩, more, rfl⟩
        have again := fails.failsOn (token :: more) rfl
        have upTo : (passed ++ token :: rest).take (passed.length + 1) = passed ++ [token] := by
          simp [List.take_append, List.take_of_length_le]
        rw [upTo, List.append_assoc, List.singleton_append, again] at accepted
        simp at accepted
  · intro atEnd
    cases rest with
    | nil => exact fails.blames
    | cons token rest => simp at atEnd

/-- `SELECT a b`, in which a comma is missing. -/
def missingComma : List Token := [
  { kind := .keyword, value := "select" },
  { kind := .identifier, value := "a", location := { column := 8 } },
  { kind := .identifier, value := "b", location := { column := 10 } }]

/-- The second name is the first token that cannot stand where it stands. -/
theorem fails_at_missingComma :
    (parseTokens missingComma).1 = .error (.unexpectedToken .comma missingComma[2]) ∧
      stopIndex missingComma = 2 ∧ BeginsStatement (missingComma.take 2) ∧
      ¬BeginsStatement missingComma := by
  have failed : (parseTokens missingComma).1 =
      .error (.unexpectedToken .comma missingComma[2]) := rfl
  have stops : stopIndex missingComma = 2 := by decide
  have found := parseTokens_fails_at failed
  rw [stops] at found
  exact ⟨failed, stops, found.2.1, (found.2.2.1 (by decide)).2⟩

end CsvSelect.Query
