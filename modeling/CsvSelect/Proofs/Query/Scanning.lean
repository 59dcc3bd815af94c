import CsvSelect.Proofs.Query.Forms
import CsvSelect.Proofs.Query.Locations

/-!
# Scanning a text lexeme by lexeme

A text that is put together from lexemes and blanks is read as the tokens of these lexemes. `Scans`
is the judgment that allows to put such a text together from the back, so that every lexeme is
checked with all the text that follows it. The tokens in it are bare.

Read tokens have values of a restricted form (`Token.Lexical`). A token of such a value is read back
from its rendering, with one exception: a name that is a reserved word becomes that word
(`lex_render`).
-/

namespace CsvSelect.Query

open Text

/-- The text is read as these tokens, which are given without positions. -/
inductive Scans : List Char → List Token → Prop
  | nil : Scans [] []
  | blank {character : Char} {text : List Char} {tokens : List Token}
      (white : isBlank character = true) (scans : Scans text tokens) :
      Scans (character :: text) tokens
  | lexeme {lexeme : Lexeme} {tokens : List Token}
      (found : Lexeme.read (lexeme.text ++ lexeme.rest) = .ok (some lexeme))
      (scans : Scans lexeme.rest tokens) :
      Scans (lexeme.text ++ lexeme.rest) ({ kind := lexeme.kind, value := lexeme.value } :: tokens)

namespace Lexer

theorem next_blank {character : Char} {text : List Char} (white : isBlank character = true)
    (location : Location) (previous : Option String) :
    next ⟨character :: text, location, previous⟩ =
      next ⟨text, location.after character, previous⟩ := by
  simp [next, skipBlanks, white, Location.afterText]

/-- The lexeme behind the blanks is the next token. -/
theorem next_of_read {lexer : Lexer} {lexeme : Lexeme}
    (found : Lexeme.read lexer.skipBlanks.rest = .ok (some lexeme)) :
    lexer.next =
      (.ok (some (lexer.skipBlanks.tokenOf lexeme)), lexer.skipBlanks.pass lexeme) := by
  simp only [next]
  split
  · next ended =>
      rw [ended] at found
      exact absurd (Lexeme.reads_of_read found).length_rest_lt (Nat.not_lt_zero _)
  · simp only [found]

/-- A literal behind the blanks that is not terminated is a failure at its delimiter. -/
theorem next_of_read_error {lexer : Lexer} {delimiter : Char}
    (failed : Lexeme.read lexer.skipBlanks.rest = .error delimiter) :
    lexer.next =
      (.error (.unterminatedLiteral delimiter lexer.skipBlanks.location), lexer.skipBlanks) := by
  simp only [next]
  split
  · next ended =>
      have nothing : Lexeme.read [] = .ok none := rfl
      rw [ended, nothing] at failed
      simp at failed
  · simp only [failed]

theorem next_lexeme {text : List Char} {lexeme : Lexeme}
    (found : Lexeme.read text = .ok (some lexeme)) (location : Location)
    (previous : Option String) :
    let lexer : Lexer := ⟨text, location, previous⟩
    lexer.next = (.ok (some (lexer.tokenOf lexeme)), lexer.pass lexeme) := by
  intro lexer
  have nothingPassed : lexer.skipBlanks = lexer := by
    cases text with
    | nil => rfl
    | cons character others =>
        have noBlank : isBlank character = false := by
          rw [Bool.eq_false_iff]
          intro white
          rw [Lexeme.read_blank white] at found
          simp at found
        simp [lexer, skipBlanks, noBlank]
  have step := @next_of_read lexer lexeme
  rw [nothingPassed] at step
  exact step found

theorem readAll_of_next_none {lexer following : Lexer}
    (ended : lexer.next = (.ok none, following)) (read : List Token) :
    lexer.readAll read = (read.reverse, none) := by
  rw [readAll]
  split <;> simp_all

theorem readAll_of_next_error {lexer following : Lexer} {error : LexError}
    (failed : lexer.next = (.error error, following)) (read : List Token) :
    lexer.readAll read = (read.reverse, some error) := by
  rw [readAll]
  split <;> simp_all

theorem readAll_of_next_some {lexer following : Lexer} {token : Token}
    (step : lexer.next = (.ok (some token), following)) (read : List Token) :
    lexer.readAll read = following.readAll (token :: read) := by
  rw [readAll]
  split <;> simp_all

theorem readAll_congr {lexer other : Lexer} (same : lexer.next = other.next)
    (read : List Token) : lexer.readAll read = other.readAll read := by
  rw [readAll, readAll, same]

/-- A lexer in front of a text that scans reads its tokens to the end. -/
theorem readAll_of_scans {text : List Char} {tokens : List Token} (scans : Scans text tokens)
    (read : List Token) (location : Location) (previous : Option String) :
    ∃ following, readAll read ⟨text, location, previous⟩ = (read.reverse ++ following, none) ∧
      following.map Token.bare = tokens := by
  induction scans generalizing read location previous with
  | nil =>
      refine ⟨[], ?_, rfl⟩
      rw [readAll_of_next_none rfl, List.append_nil]
  | blank white scans ih =>
      rw [readAll_congr (next_blank white location previous)]
      exact ih read _ previous
  | @lexeme lexeme tokens found scans ih =>
      have step := next_lexeme found location previous
      rw [readAll_of_next_some step]
      rcases ih (tokenOf ⟨lexeme.text ++ lexeme.rest, location, previous⟩ lexeme :: read)
        (location.afterText lexeme.text) (some lexeme.value) with ⟨following, all, same⟩
      refine ⟨tokenOf ⟨lexeme.text ++ lexeme.rest, location, previous⟩ lexeme :: following, ?_, ?_⟩
      · simpa [pass] using all
      · rw [List.map_cons, same]
        rfl

end Lexer

theorem lex_of_scans {source : String} {tokens : List Token}
    (scans : Scans source.toList tokens) :
    ∃ read, lex source = .ok read ∧ read.map Token.bare = tokens := by
  rcases Lexer.readAll_of_scans scans [] {} none with ⟨read, all, same⟩
  refine ⟨read, ?_, same⟩
  simp only [lex, Lexer.ofString, all, List.reverse_nil, List.nil_append]

/-- The token is what some lexeme is read as. -/
def Token.Lexical (token : Token) : Prop :=
  ∃ text, Lexeme.Form ⟨token.kind, token.value, text, []⟩

namespace Lexer

theorem lexical_of_next {lexer following : Lexer} {token : Token}
    (step : lexer.next = (.ok (some token), following)) : token.Lexical := by
  rcases exists_lexeme_of_next step with ⟨lexeme, found, rfl, -⟩
  exact ⟨lexeme.text, (Lexeme.form_of_read found).withRest []⟩

theorem lexical_of_mem_readAll {lexer : Lexer} {read : List Token}
    (lexical : ∀ token ∈ read, token.Lexical) :
    ∀ token ∈ (lexer.readAll read).1, token.Lexical := by
  fun_induction readAll read lexer with
  | case1 read lexer next following step ih =>
      apply ih
      intro token mem
      rcases List.mem_cons.mp mem with rfl | before
      · exact lexical_of_next step
      · exact lexical token before
  | case2 => simpa using lexical
  | case3 => simpa using lexical

end Lexer

theorem readAll_of_lex {source : String} {tokens : List Token} (read : lex source = .ok tokens) :
    (Lexer.ofString source).readAll [] = (tokens, none) := by
  rw [lex] at read
  generalize (Lexer.ofString source).readAll [] = run at read
  rcases run with ⟨all, none | error⟩
  · rw [Except.ok.inj read]
  · simp at read

theorem lexical_of_lex {source : String} {tokens : List Token} (read : lex source = .ok tokens) :
    ∀ token ∈ tokens, token.Lexical := by
  have lexical : ∀ token ∈ ((Lexer.ofString source).readAll []).1, token.Lexical :=
    Lexer.lexical_of_mem_readAll (List.forall_mem_nil Token.Lexical)
  rwa [readAll_of_lex read] at lexical

/-! ### Rendered tokens -/

/-- The token is a name that is spelled like a reserved word. -/
def Token.isReservedName (token : Token) : Bool :=
  token.kind == .identifier && Keyword.all.any (·.text == token.value)

/-- What the token is read as when it has been rendered, without its position. -/
def Token.reread (token : Token) : Token where
  kind := if token.isReservedName then .keyword else token.kind
  value := token.value

theorem Token.isReservedName_iff {token : Token} :
    token.isReservedName ↔
      token.kind = .identifier ∧ ∃ keyword : Keyword, token.value = keyword.text := by
  simp only [isReservedName, Bool.and_eq_true, beq_iff_eq, List.any_eq_true]
  constructor
  · rintro ⟨kind, keyword, -, same⟩
    exact ⟨kind, keyword, same.symm⟩
  · rintro ⟨kind, keyword, same⟩
    refine ⟨kind, keyword, ?_, same.symm⟩
    cases keyword <;> decide

theorem isPlainName_keyword (keyword : Keyword) : isPlainName keyword.text = true := by
  cases keyword <;> decide

theorem map_toLower_keyword (keyword : Keyword) :
    keyword.text.toList.map Char.toLower = keyword.text.toList := by
  cases keyword <;> decide

theorem word_of_isPlainName {name : String} (plain : isPlainName name = true) :
    ∃ first others, name.toList = first :: others ∧ first.isAlpha = true ∧
      (∀ character ∈ others, isWordCharacter character = true) ∧
      (first :: others).map Char.toLower = first :: others := by
  simp only [isPlainName] at plain
  split at plain
  · simp at plain
  · next first others spelled =>
      simp only [Bool.and_eq_true, List.all_eq_true, Bool.not_eq_true'] at plain
      rcases plain with ⟨lower, inside⟩
      refine ⟨first, others, spelled, by simp [isAlpha_eq, lower],
        fun character mem => (inside character mem).1, ?_⟩
      have noUpper : ∀ character ∈ first :: others, character.isUpper = false := by
        intro character mem
        rcases List.mem_cons.mp mem with rfl | mem
        · rw [Bool.eq_false_iff, Ne, isUpper_iff]
          have codes := (isLower_iff _).mp lower
          omega
        · exact (inside character mem).2
      calc (first :: others).map Char.toLower
          = (first :: others).map id := by
            apply List.map_congr_left
            intro character mem
            rw [id, ← Char.toNat_inj, toNat_toLower, noUpper character mem, if_neg (by decide)]
        _ = first :: others := List.map_id _

/-- A rendered token has the form of the lexeme that it is read as. -/
theorem Token.form_render {token : Token} (lexical : token.Lexical) (rest : List Char) :
    Lexeme.Form ⟨token.reread.kind, token.reread.value, token.render.toList, rest⟩ := by
  rcases token with ⟨kind, value, location⟩
  rcases lexical with ⟨text, form⟩
  by_cases name : kind = .identifier
  · subst name
    by_cases plain : isPlainName value = true
    · simp only [render, plain, if_true]
      by_cases reserved : isReservedName ⟨.identifier, value, location⟩
      · rcases isReservedName_iff.mp reserved with ⟨-, keyword, rfl⟩
        simpa [reread, reserved] using Lexeme.Form.keyword (map_toLower_keyword keyword)
      · rcases word_of_isPlainName plain with ⟨first, others, spelled, letter, inside, lowered⟩
        have different : ∀ keyword : Keyword,
            (first :: others).map Char.toLower ≠ keyword.text.toList := by
          intro keyword same
          rw [lowered, ← spelled, String.toList_inj] at same
          exact reserved (isReservedName_iff.mpr ⟨rfl, keyword, same⟩)
        have written : Lexeme.Form ⟨.identifier, String.ofList ((first :: others).map Char.toLower),
            first :: others, rest⟩ := .name letter inside different
        rw [lowered, ← spelled, String.ofList_toList] at written
        simpa [reread, reserved] using written
    · have notReserved : ¬isReservedName ⟨.identifier, value, location⟩ := by
        intro reserved
        rcases isReservedName_iff.mp reserved with ⟨-, keyword, rfl⟩
        exact plain (isPlainName_keyword keyword)
      have written : Lexeme.Form ⟨.identifier, value, Quoted.enclose '"' value.toList, rest⟩ :=
        .quotedName
      simpa [reread, render, plain, notReserved] using written
  · have notReserved (location : Location) : isReservedName ⟨kind, value, location⟩ = false := by
      simp [isReservedName, name]
    simp only [reread, notReserved, Bool.false_eq_true, if_false]
    cases form with
    | keyword => exact .keyword (map_toLower_keyword _)
    | symbol => exact .symbol
    | string => simpa [render] using Lexeme.Form.string
    | @numeral text _ isNumeral =>
        change Lexeme.Form ⟨.numeric, _, (String.ofList text).toList, rest⟩
        rw [String.toList_ofList]
        exact .numeral isNumeral
    | quotedName => exact absurd rfl name
    | name => exact absurd rfl name
    | operation => exact .operation

theorem Lexeme.apart_nil : Lexeme.Apart [] := by
  simp [Apart, Ends]

/-- A text that is one lexeme is read as one token, which stands at the beginning. -/
theorem lex_of_read {source : String} {lexeme : Lexeme}
    (found : Lexeme.read source.toList = .ok (some lexeme)) (whole : lexeme.rest = []) :
    lex source = .ok [{ kind := lexeme.kind, value := lexeme.value }] := by
  let lexer := Lexer.ofString source
  have step : lexer.next = (.ok (some (lexer.tokenOf lexeme)), lexer.pass lexeme) :=
    Lexer.next_lexeme found {} none
  have ended : (lexer.pass lexeme).next = (.ok none, (lexer.pass lexeme).skipBlanks) := by
    simp [Lexer.next, Lexer.skipBlanks, Lexer.pass, whole]
  have all : lexer.readAll [] = ([lexer.tokenOf lexeme], none) := by
    rw [Lexer.readAll_of_next_some step, Lexer.readAll_of_next_none ended]
    rfl
  rw [lex, all]
  rfl

theorem Token.lex_render_of_lexical {token : Token} (lexical : token.Lexical) :
    lex token.render = .ok [token.reread] := by
  have found := Lexeme.read_append_of_form (token.form_render lexical []) Lexeme.apart_nil
  rw [List.append_nil] at found
  exact lex_of_read found rfl

/-- A token that was read is read from its rendering, except that a reserved name becomes a word. -/
theorem lex_render {source : String} {tokens : List Token} (read : lex source = .ok tokens)
    {token : Token} (mem : token ∈ tokens) :
    lex token.render = .ok [token.reread] ∧
      ((∃ again, lex token.render = .ok [again] ∧
        again.kind = token.kind ∧ again.value = token.value) ↔ ¬token.isReservedName) := by
  have alone := Token.lex_render_of_lexical (lexical_of_lex read token mem)
  refine ⟨alone, ?_, ?_⟩
  · rintro ⟨again, same, sameKind, -⟩ reserved
    rw [alone] at same
    rcases List.singleton_inj.mp (Except.ok.inj same) with rfl
    have name := (Token.isReservedName_iff.mp reserved).1
    simp [Token.reread, reserved, name] at sameKind
  · intro free
    exact ⟨token.reread, alone, by simp [Token.reread, free], rfl⟩

/-- Two names in quotes, of which the second one is spelled like a reserved word. -/
def quotedNames : List Token :=
  [⟨.identifier, "two words", ⟨1, 1⟩⟩, ⟨.identifier, "or", ⟨1, 13⟩⟩]

theorem lex_quotedNames : lex "\"two words\" \"or\"" = .ok quotedNames := by
  decide +kernel

/-- A name that needs its quotes keeps them; a reserved word in quotes loses them. -/
theorem lex_render_quotedNames :
    (∃ again, lex (Token.render ⟨.identifier, "two words", ⟨1, 1⟩⟩) = .ok [again] ∧
      again.kind = .identifier ∧ again.value = "two words") ∧
    lex (Token.render ⟨.identifier, "or", ⟨1, 13⟩⟩) = .ok [⟨.keyword, "or", ⟨1, 1⟩⟩] := by
  constructor
  · apply (lex_render lex_quotedNames (by simp [quotedNames])).2.mpr
    decide
  · exact (lex_render lex_quotedNames (by simp [quotedNames])).1

/-- A token that is not read from its rendering. -/
theorem lex_render_reserved :
    ¬∀ (source : String) (tokens : List Token), lex source = .ok tokens → ∀ token ∈ tokens,
      ∃ again, lex token.render = .ok [again] ∧
        again.kind = token.kind ∧ again.value = token.value := by
  intro survives
  rcases survives _ _ lex_quotedNames ⟨.identifier, "or", ⟨1, 13⟩⟩ (by simp [quotedNames]) with
    ⟨again, read, name, -⟩
  have word : lex "or" = .ok [⟨.keyword, "or", ⟨1, 1⟩⟩] := by decide +kernel
  have plain : Token.render ⟨.identifier, "or", ⟨1, 13⟩⟩ = "or" := by decide
  rw [plain, word] at read
  rcases List.singleton_inj.mp (Except.ok.inj read) with rfl
  simp at name

/-! ### Putting a text together -/

theorem Lexeme.apart_cons {character : Char} (behind : continuesLexeme character = false)
    (rest : List Char) : Lexeme.Apart (character :: rest) := by
  intro first mem
  rcases Option.some.inj mem with rfl
  exact behind

namespace Scans

variable {rest : List Char} {tokens : List Token}

theorem form {lexeme : Lexeme} (form : lexeme.Form) (apart : Lexeme.Apart lexeme.rest)
    (scans : Scans lexeme.rest tokens) :
    Scans (lexeme.text ++ lexeme.rest)
      ({ kind := lexeme.kind, value := lexeme.value } :: tokens) :=
  .lexeme (Lexeme.read_append_of_form form apart) scans

/-- A rendered token may be put in front of a text that does not continue it. -/
theorem token {token : Token} (lexical : token.Lexical) (apart : Lexeme.Apart rest)
    (scans : Scans rest tokens) : Scans (token.render.toList ++ rest) (token.reread :: tokens) :=
  Scans.form (token.form_render lexical rest) apart scans

theorem keyword {keyword : Keyword} {word : List Char}
    (spelled : word.map Char.toLower = keyword.text.toList) (apart : Lexeme.Apart rest)
    (scans : Scans rest tokens) :
    Scans (word ++ rest) ({ kind := .keyword, value := keyword.text } :: tokens) :=
  Scans.form (.keyword spelled) apart scans

theorem symbol (symbol : Symbol) (apart : Lexeme.Apart rest) (scans : Scans rest tokens) :
    Scans (symbol.text.toList ++ rest) ({ kind := .symbol, value := symbol.text } :: tokens) :=
  Scans.form .symbol apart scans

theorem space (scans : Scans rest tokens) : Scans (' ' :: rest) tokens :=
  .blank (by decide) scans

end Scans

end CsvSelect.Query
