import CsvSelect.Proofs.Query.Layout
import CsvSelect.Proofs.Query.Quoting
import CsvSelect.Proofs.Selection.Acceptance
import CsvSelect.Proofs.Selection.Positions
import CsvSelect.Request

/-!
# The names of tables

A table is called after its file, and a query names it behind FROM. The file is the part of a path
behind the last slash. If the path is accepted for a table, this part ends with `.csv`, and the name
of the table is what stands before this ending, whatever it is (`tableName_append`).

Behind FROM a name is spelled in quotes, or without them as a word in any case (`NameSpelling`).
Every name has a spelling in quotes. It has others only if it is a word in lower case and no
reserved word. So a name of any other kind can only be reached through quotes.
-/

namespace CsvSelect

open Text Query

/-! ### The file of a path -/

namespace Path

/-- The part of the path behind its last slash, or the whole path if it has none. -/
inductive LastPart : List Char → List Char → Prop
  | alone {part : List Char} (plain : '/' ∉ part) : LastPart part part
  | behind {part : List Char} (before : List Char) (plain : '/' ∉ part) :
      LastPart (before ++ '/' :: part) part

theorem exists_lastPart (path : List Char) : ∃ part, LastPart path part := by
  induction path with
  | nil => exact ⟨[], .alone (by simp)⟩
  | cons character path ih =>
      rcases ih with ⟨part, plain | ⟨before, plain⟩⟩
      · by_cases slash : character = '/'
        · exact ⟨path, slash ▸ .behind [] plain⟩
        · exact ⟨character :: path, .alone (by simp [plain, Ne.symm slash])⟩
      · exact ⟨part, .behind (character :: before) plain⟩

theorem splitFrom_of_plain {part : List Char} (plain : '/' ∉ part) (piece : List Char) :
    splitFrom piece part = [piece.reverse ++ part] := by
  induction part generalizing piece with
  | nil => simp [splitFrom]
  | cons character part ih =>
      rw [List.mem_cons, not_or] at plain
      rw [splitFrom, if_neg (Ne.symm plain.1), ih plain.2]
      simp

theorem splitFrom_append_slash (piece before rest : List Char) :
    splitFrom piece (before ++ '/' :: rest) = splitFrom piece before ++ splitFrom [] rest := by
  induction before generalizing piece with
  | nil => simp [splitFrom]
  | cons character before ih =>
      rw [List.cons_append, splitFrom, splitFrom]
      split
      · rw [ih, List.cons_append]
      · exact ih _

/-- The last part of a path is the last of its pieces. -/
theorem pieces_of_lastPart {path : String} {part : List Char} (last : LastPart path.toList part) :
    ∃ others, pieces path = others ++ [String.ofList part] := by
  rw [pieces]
  generalize path.toList = characters at last
  cases last with
  | alone plain => exact ⟨[], by rw [splitFrom_of_plain plain]; rfl⟩
  | behind before plain =>
      refine ⟨(splitFrom [] before).map String.ofList, ?_⟩
      rw [splitFrom_append_slash, splitFrom_of_plain plain, List.map_append]
      rfl

theorem fileName?_eq {path : String} {part : List Char} (last : LastPart path.toList part)
    (loud : isSilent (String.ofList part) = false) (proper : String.ofList part ≠ "..") :
    fileName? path = some (String.ofList part) := by
  rcases pieces_of_lastPart last with ⟨others, split⟩
  rw [fileName?, split, List.filter_append, List.filter_singleton, loud]
  simp [proper]

/-- An ending without a slash belongs to the last part of the path. -/
theorem LastPart.suffix {path part ending : List Char} (last : LastPart path part)
    (plain : '/' ∉ ending) (ends : ending <:+ path) : ending <:+ part := by
  cases last with
  | alone => exact ends
  | behind before =>
      rcases List.suffix_or_suffix_of_suffix ends
        (List.suffix_append before ('/' :: part)) with inside | longer
      · rcases List.suffix_cons_iff.mp inside with rfl | inside
        · simp at plain
        · exact inside
      · exact absurd (longer.subset List.mem_cons_self) plain

end Path

theorem tableEnding_suffix_of_checkTablePath {path : String}
    (accepted : checkTablePath path = .ok ()) : Path.tableEnding <:+ path.toList := by
  rw [checkTablePath] at accepted
  split at accepted
  · simp at accepted
  · split at accepted
    · simp at accepted
    · split at accepted
      · simp at accepted
      · split at accepted
        · simp at accepted
        · next ends =>
            simpa using ends

/-- With the ending `.csv` the name of the table is the name of the file. -/
theorem tableName_append {path : String} (accepted : checkTablePath path = .ok ()) :
    Path.LastPart path.toList (Path.tableName path ++ ".csv").toList := by
  have ending : ".csv".toList = Path.tableEnding := rfl
  rcases Path.exists_lastPart path.toList with ⟨part, last⟩
  have plain : '/' ∉ Path.tableEnding := by decide
  rcases last.suffix plain (tableEnding_suffix_of_checkTablePath accepted) with ⟨name, rfl⟩
  have long (other : String) (short : other.toList.length < 4) :
      String.ofList (name ++ Path.tableEnding) ≠ other := by
    rintro rfl
    rw [String.toList_ofList, List.length_append] at short
    exact absurd short (Nat.not_lt.mpr (Nat.le_add_left _ _))
  have loud : Path.isSilent (String.ofList (name ++ Path.tableEnding)) = false := by
    rw [Path.isSilent, Bool.or_eq_false_iff, beq_eq_false_iff_ne, beq_eq_false_iff_ne]
    exact ⟨long "" (by decide), long "." (by decide)⟩
  have proper := long ".." (by decide)
  have named : Path.tableName path = String.ofList name := by
    rw [Path.tableName, Path.fileName?_eq last loud proper]
    simp [Path.withoutEnding?]
  rwa [named, String.toList_append, String.toList_ofList, ending]

/-! ### The name behind FROM -/

namespace Query

/-- A word that can stand for a name: a letter and word characters behind it, not reserved. -/
structure IsNameWord (word : List Char) : Prop where
  letter : ∃ first ∈ word.head?, first.isAlpha = true
  inside : ∀ character ∈ word, isWordCharacter character = true
  different : ∀ keyword : Keyword, word.map Char.toLower ≠ keyword.text.toList

/-- The characters spell the name of a table. -/
inductive NameSpelling (name : String) : List Char → Prop
  | quoted : NameSpelling name (quotedName name).toList
  | word {word : List Char} (isWord : IsNameWord word)
      (lowered : name.toList = word.map Char.toLower) : NameSpelling name word

/-- The spellings of a name are the lexemes of identifiers. -/
theorem nameSpelling_iff {name : String} {spelling : List Char} :
    NameSpelling name spelling ↔ Lexeme.Form ⟨.identifier, name, spelling, []⟩ := by
  constructor
  · intro spells
    cases spells with
    | quoted =>
        rw [quotedName, String.toList_ofList]
        exact .quotedName
    | word isWord lowered =>
        rcases isWord with ⟨⟨first, isFirst, letter⟩, inside, different⟩
        rcases List.head?_eq_some_iff.mp isFirst with ⟨others, rfl⟩
        rw [← String.ofList_toList (s := name), lowered]
        exact .name letter (List.forall_mem_cons.mp inside).2 different
  · intro form
    cases form with
    | quotedName =>
        have spells := @NameSpelling.quoted name
        rwa [quotedName, String.toList_ofList] at spells
    | @name first others _ letter inside different =>
        apply NameSpelling.word
        · refine ⟨⟨first, rfl, letter⟩, ?_, different⟩
          have isWord : isWordCharacter first = true := by
            simp [isWordCharacter, Char.isAlphanum, letter]
          exact List.forall_mem_cons.mpr ⟨isWord, inside⟩
        · rw [String.toList_ofList]

/-- A word spells a name in lower case that could be written without quotes. -/
theorem IsNameWord.isPlainName {word : List Char} (isWord : IsNameWord word) {name : String}
    (lowered : name.toList = word.map Char.toLower) :
    isPlainName name = true ∧ ∀ keyword : Keyword, name ≠ keyword.text := by
  rcases isWord with ⟨⟨first, isFirst, letter⟩, inside, different⟩
  rcases List.head?_eq_some_iff.mp isFirst with ⟨others, rfl⟩
  constructor
  · rw [Query.isPlainName, lowered]
    simp only [List.map_cons, isLower_toLower, letter, Bool.true_and, List.all_eq_true,
      List.mem_map, forall_exists_index, and_imp, forall_apply_eq_imp_iff₂,
      isWordCharacter_toLower, isUpper_toLower]
    intro character mem
    simp [inside character (List.mem_cons_of_mem _ mem)]
  · rintro keyword rfl
    exact different keyword lowered.symm

/-- Nothing spells two names. -/
theorem NameSpelling.unique {name other : String} {spelling : List Char}
    (spells : NameSpelling name spelling) (otherSpells : NameSpelling other spelling) :
    name = other := by
  have read := Lexeme.read_append_of_form (nameSpelling_iff.mp spells) Lexeme.apart_nil
  have otherRead := Lexeme.read_append_of_form (nameSpelling_iff.mp otherSpells) Lexeme.apart_nil
  have same := read.symm.trans otherRead
  simpa using same

/-- In the source of the statement the characters stand behind FROM, as the name of the table. -/
def NamesTable (source : String) (statement : Statement) (spelling : List Char) : Prop :=
  ∃ tokens before word name after behind, lex source = .ok tokens ∧
    Cuts source tokens (before ++ word :: name :: after) behind ∧
      word.token.isKeyword .FROM ∧ name.lexeme = spelling ∧ statement.table = some name.token

theorem exists_stands_of_mem {pieces : List Piece} {behind : List Char} {piece : Piece}
    (legible : Legible pieces behind) (mem : piece ∈ pieces) :
    ∃ rest, (piece.inFrontOf rest).Stands := by
  induction legible with
  | nil => simp at mem
  | cons stands legible ih =>
      rcases List.mem_cons.mp mem with rfl | later
      · exact ⟨_, stands⟩
      · exact ih later

theorem Sentence.name_kind {sentence : Sentence} {token : Token}
    (named : sentence.statement.table = some token) : token.kind = .identifier := by
  rcases Option.map_eq_some_iff.mp named with ⟨origin, -, rfl⟩
  exact origin.isName

variable {source name : String} {statement : Statement} {spelling : List Char}

/-- A statement that was read from a source names its table there. -/
theorem exists_namesTable (parsed : parse source = .ok statement)
    (named : statement.table.isSome) : ∃ spelling, NamesTable source statement spelling := by
  rw [parse] at parsed
  split at parsed
  · simp at parsed
  · next tokens read =>
      rcases (parseTokens_eq_ok_iff _ _).mp parsed with ⟨sentence, rfl, rfl⟩
      rcases Option.isSome_iff_exists.mp named with ⟨token, named⟩
      rcases Option.map_eq_some_iff.mp named with ⟨origin, isOrigin, rfl⟩
      rcases exists_cuts read with ⟨pieces, behind, cuts⟩
      have parts : pieces.map Piece.token =
          (sentence.select :: sentence.columns.tokens) ++
            origin.word :: origin.name :: (sentence.body ++ sentence.finish.toList) := by
        rw [← cuts.tokens, Sentence.tokens, isOrigin]
        simp [Origin.tokens]
      rcases List.map_eq_append_iff.mp parts with ⟨before, _, rfl, -, further⟩
      rcases List.map_eq_cons_iff.mp further with ⟨word, _, rfl, isWord, further⟩
      rcases List.map_eq_cons_iff.mp further with ⟨name, after, rfl, isName, -⟩
      refine ⟨name.lexeme, _, before, word, name, after, behind, read, cuts, ?_, rfl, ?_⟩
      · rw [isWord]
        exact origin.isFrom
      · rw [named, isName]

/-- What names the table spells the value of its token. -/
theorem NamesTable.spells (names : NamesTable source statement spelling)
    (parsed : parse source = .ok statement) :
    ∃ token, statement.table = some token ∧ NameSpelling token.value spelling := by
  rcases names with ⟨tokens, before, word, name, after, behind, read, cuts, -, rfl, named⟩
  rw [parse, read] at parsed
  rcases (parseTokens_eq_ok_iff _ _).mp parsed with ⟨sentence, -, rfl⟩
  refine ⟨name.token, named, nameSpelling_iff.mpr ?_⟩
  have mem : name ∈ before ++ word :: name :: after := by simp
  rcases exists_stands_of_mem (cuts.legible read) mem with ⟨rest, stands⟩
  have form := (Lexeme.form_of_read stands).withRest []
  have kind := sentence.name_kind named
  rw [Piece.inFrontOf, kind] at form
  exact form

/-- A statement reaches a table exactly if what names the table there spells its name. -/
theorem NamesTable.checkTable_iff (names : NamesTable source statement spelling)
    (parsed : parse source = .ok statement) :
    statement.checkTable name = .ok () ↔ NameSpelling name spelling := by
  rcases names.spells parsed with ⟨token, named, spells⟩
  rw [Statement.checkTable_eq_ok_iff]
  constructor
  · rintro ⟨other, same, rfl⟩
    rw [named, Option.some.injEq] at same
    exact same ▸ spells
  · intro otherSpells
    exact ⟨token, named, spells.unique otherSpells⟩

theorem IsNameWord.nameSpelling_iff {word : List Char} (isWord : IsNameWord word) :
    NameSpelling name word ↔ name.toList = word.map Char.toLower := by
  have spells : NameSpelling (String.ofList (word.map Char.toLower)) word :=
    .word isWord String.toList_ofList
  constructor
  · intro otherSpells
    rw [otherSpells.unique spells, String.toList_ofList]
  · exact .word isWord

/-! ### A query for all of a table -/

theorem isSelect_ofKeyword : (Token.ofKeyword .SELECT).isKeyword .SELECT := rfl

theorem isAsterisk_ofSymbol : (Token.ofSymbol .asterisk).isSymbol .asterisk := rfl

theorem isFrom_ofKeyword : (Token.ofKeyword .FROM).isKeyword .FROM := rfl

/-- The tokens of a query for all rows of a table. -/
def wholeTable (name : String) : Sentence where
  select := .ofKeyword .SELECT
  columns := .all (.ofSymbol .asterisk) isAsterisk_ofSymbol
  origin := some ⟨.ofKeyword .FROM, .ofName name, isFrom_ofKeyword, rfl⟩
  body := []
  finish := none
  isSelect := isSelect_ofKeyword
  noSymbol := List.forall_mem_nil _
  inThrees := openOperands_eq_nil_iff.mp openOperands_nil
  isFinish := Sentence.isFinish_none
  noFrom := nofun
  noBody := nofun

theorem scans_wholeTable (spells : NameSpelling name spelling) :
    Scans ("select * from ".toList ++ spelling) (wholeTable name).tokens := by
  have table := (Scans.form (nameSpelling_iff.mp spells) Lexeme.apart_nil .nil).space
  have fromWord := Scans.keyword (map_toLower_keyword .FROM) (Lexeme.apart_cons (by decide) _) table
  have asterisk := Scans.symbol .asterisk (Lexeme.apart_cons (by decide) _) fromWord.space
  have select := Scans.keyword (map_toLower_keyword .SELECT) (Lexeme.apart_cons (by decide) _)
    asterisk.space
  have written : "select * from ".toList = Keyword.SELECT.text.toList ++
      (' ' :: (Symbol.asterisk.text.toList ++ (' ' :: (Keyword.FROM.text.toList ++ [' '])))) := rfl
  rw [written]
  simpa [wholeTable, Sentence.tokens, Columns.tokens, Origin.tokens, Token.ofKeyword,
    Token.ofSymbol, Token.ofName] using select

/-- Any spelling of a name is read, and reaches the tables of this name and no others. -/
theorem parse_wholeTable {spelling : String} (spells : NameSpelling name spelling.toList) :
    ∃ statement, parse ("select * from " ++ spelling) = .ok statement ∧
      ∀ other, statement.checkTable other = .ok () ↔ other = name := by
  have scans : Scans ("select * from " ++ spelling).toList (wholeTable name).tokens := by
    rw [String.toList_append]
    exact scans_wholeTable spells
  rcases parse_of_scans scans with ⟨statement, parsed, same⟩
  refine ⟨statement, parsed, ?_⟩
  intro other
  have table : (wholeTable name).statement.bare.table = some (.ofName name) := rfl
  rw [← Statement.checkTable_bare, same, Statement.checkTable_eq_ok_iff, table]
  simp [Token.ofName, eq_comm]

end Query

/--
A table whose path is accepted is called like the file without its ending. The name in quotes
reaches it, and a word does exactly if it is the name in lower case. Every query that reaches it
spells its name in one of these ways, and in quotes if the name is not itself such a word.
-/
theorem tableName_reached {path : String} (accepted : checkTablePath path = .ok ()) :
    let name := Path.tableName path
    Path.LastPart path.toList (name ++ ".csv").toList ∧
    (∃ statement, parse ("select * from " ++ quotedName name) = .ok statement ∧
      statement.checkTable name = .ok ()) ∧
    (∀ word : String, IsNameWord word.toList →
      ∃ statement, parse ("select * from " ++ word) = .ok statement ∧
        (statement.checkTable name = .ok () ↔ name.toList = word.toList.map Char.toLower)) ∧
    ∀ source statement, parse source = .ok statement →
      (NamesTable source statement (quotedName name).toList →
        statement.checkTable name = .ok ()) ∧
      (∀ word, IsNameWord word → NamesTable source statement word →
        (statement.checkTable name = .ok () ↔ name.toList = word.map Char.toLower)) ∧
      (statement.checkTable name = .ok () →
        ∃ spelling, NamesTable source statement spelling ∧ NameSpelling name spelling) ∧
      ((isPlainName name = false ∨ ∃ keyword : Keyword, name = keyword.text) →
        statement.checkTable name = .ok () →
          NamesTable source statement (quotedName name).toList) := by
  intro name
  refine ⟨tableName_append accepted, ?_, ?_, ?_⟩
  · rcases parse_wholeTable (@NameSpelling.quoted name) with ⟨statement, parsed, reaches⟩
    exact ⟨statement, parsed, (reaches name).mpr rfl⟩
  · intro word isWord
    let lower := String.ofList (word.toList.map Char.toLower)
    have spells : NameSpelling lower word.toList := .word isWord String.toList_ofList
    rcases parse_wholeTable spells with ⟨statement, parsed, reaches⟩
    refine ⟨statement, parsed, ?_⟩
    rw [reaches, ← String.toList_inj, String.toList_ofList]
  · intro source statement parsed
    have spelled : statement.checkTable name = .ok () →
        ∃ spelling, NamesTable source statement spelling ∧ NameSpelling name spelling := by
      intro reached
      rcases Statement.checkTable_eq_ok_iff.mp reached with ⟨token, named, -⟩
      rcases exists_namesTable parsed (by simp [named]) with ⟨spelling, names⟩
      exact ⟨spelling, names, (names.checkTable_iff parsed).mp reached⟩
    refine ⟨fun names => (names.checkTable_iff parsed).mpr .quoted, ?_, spelled, ?_⟩
    · intro word isWord names
      rw [names.checkTable_iff parsed, isWord.nameSpelling_iff]
    · intro unusual reached
      rcases spelled reached with ⟨spelling, names, spells⟩
      cases spells with
      | quoted => exact names
      | word isWord lowered =>
          rcases isWord.isPlainName lowered with ⟨plain, different⟩
          rcases unusual with notPlain | ⟨keyword, same⟩
          · simp [plain] at notPlain
          · exact absurd same (different keyword)

/-- A name with another dot in it needs quotes; a plain one can be written in any case. -/
theorem tableName_reached_samples :
    checkTablePath "data.csv/orders.v1.csv" = .ok () ∧ checkTablePath "orders.csv" = .ok () ∧
      Path.LastPart "data.csv/orders.v1.csv".toList "orders.v1.csv".toList ∧
      (∃ statement, parse "select * from \"orders.v1\"" = .ok statement ∧
        statement.checkTable "orders.v1" = .ok ()) ∧
      (∀ source statement, parse source = .ok statement →
        statement.checkTable "orders.v1" = .ok () →
          NamesTable source statement "\"orders.v1\"".toList) ∧
      ∃ statement, parse "select * from ORDers" = .ok statement ∧
        statement.checkTable "orders" = .ok () := by
  have dotted : checkTablePath "data.csv/orders.v1.csv" = .ok () := by decide +kernel
  have plain : checkTablePath "orders.csv" = .ok () := by decide +kernel
  have isWord : IsNameWord "ORDers".toList := by
    refine ⟨⟨'O', rfl, rfl⟩, List.all_eq_true.mp rfl, ?_⟩
    intro keyword
    cases keyword <;> decide
  rcases tableName_reached dotted with ⟨file, quoted, -, queries⟩
  rcases tableName_reached plain with ⟨-, -, words, -⟩
  rcases words "ORDers" isWord with ⟨statement, parsed, reaches⟩
  refine ⟨dotted, plain, file, quoted, ?_, statement, parsed, reaches.mpr rfl⟩
  intro source statement parsed
  exact (queries source statement parsed).2.2.2 (Or.inl rfl)

end CsvSelect
