import CsvSelect.Query.Token.Lexeme
import CsvSelect.Text.Lexical

/-!
# Reading tokens

A lexer holds what is left of a query. Each call of `next` passes the blanks, reads one lexeme and
moves behind it. A call that fails, or that finds the end, leaves the lexer where every later call
finds the same; a call that yields a token leaves less text behind (`length_rest_next_lt`), so
reading all tokens terminates.
-/

namespace CsvSelect.Query

open Text

/-- Why no token can be read. -/
inductive LexError where
  /-- No lexeme begins with the character; `after` is the value of the token before it. -/
  | unexpectedCharacter (character : Char) (after : Option String) (location : Location)
  /-- The text that opens at the location has no closing delimiter. -/
  | unterminatedLiteral (delimiter : Char) (location : Location)
deriving DecidableEq

namespace LexError

/-- The position of the text that is no token. -/
def location : LexError → Location
  | .unexpectedCharacter _ _ location => location
  | .unterminatedLiteral _ location => location

/-- The words for an error. -/
def message : LexError → String
  | .unexpectedCharacter _ (some previous) location =>
      s!"unable to lex token after '{previous}', at {location.render}"
  | .unexpectedCharacter _ none location => s!"unable to lex token, at {location.render}"
  | .unterminatedLiteral delimiter location =>
      s!"unterminated literal opened with {delimiter} at {location.render}"

end LexError

/-- What is left of a query, the position where it begins, and the value of the last token read. -/
structure Lexer where
  rest : List Char
  location : Location := {}
  previous : Option String := none

namespace Lexer

/-- The lexer in front of a whole query. -/
def ofString (source : String) : Lexer where
  rest := source.toList

/-- The lexer behind the blanks at the front. -/
def skipBlanks (lexer : Lexer) : Lexer :=
  { lexer with
    rest := lexer.rest.dropWhile isBlank
    location := lexer.location.afterText (lexer.rest.takeWhile isBlank) }

/-- The token of a lexeme that begins here. -/
def tokenOf (lexer : Lexer) (lexeme : Lexeme) : Token where
  kind := lexeme.kind
  value := lexeme.value
  location := lexer.location

/-- The lexer behind a lexeme. -/
def pass (lexer : Lexer) (lexeme : Lexeme) : Lexer where
  rest := lexeme.rest
  location := lexer.location.afterText lexeme.text
  previous := some lexeme.value

/-- The next token, nothing at the end of the query, or the reason why there is none. -/
def next (lexer : Lexer) : Except LexError (Option Token) × Lexer :=
  let lexer := lexer.skipBlanks
  match lexer.rest with
  | [] => (.ok none, lexer)
  | character :: _ =>
      match Lexeme.read lexer.rest with
      | .ok (some lexeme) => (.ok (some (lexer.tokenOf lexeme)), lexer.pass lexeme)
      | .ok none =>
          (.error (.unexpectedCharacter character lexer.previous lexer.location), lexer)
      | .error delimiter => (.error (.unterminatedLiteral delimiter lexer.location), lexer)

/-- A call that yields a token reads a lexeme behind the blanks and moves behind it. -/
theorem exists_lexeme_of_next {lexer following : Lexer} {token : Token}
    (step : lexer.next = (.ok (some token), following)) :
    ∃ lexeme, Lexeme.read lexer.skipBlanks.rest = .ok (some lexeme) ∧
      lexer.skipBlanks.tokenOf lexeme = token ∧ lexer.skipBlanks.pass lexeme = following := by
  simp only [next] at step
  split at step
  · simp at step
  · split at step
    · next lexeme found =>
        obtain ⟨answer, passes⟩ := Prod.mk.inj step
        exact ⟨lexeme, found, Option.some.inj (Except.ok.inj answer), passes⟩
    · simp at step
    · simp at step

/-- A call that yields a token leaves less text behind. -/
theorem length_rest_next_lt {lexer following : Lexer} {token : Token}
    (read : lexer.next = (.ok (some token), following)) :
    following.rest.length < lexer.rest.length := by
  have skipped : lexer.skipBlanks.rest.length ≤ lexer.rest.length :=
    (List.dropWhile_sublist _).length_le
  obtain ⟨lexeme, found, -, rfl⟩ := exists_lexeme_of_next read
  exact Nat.lt_of_lt_of_le (Lexeme.reads_of_read found).length_rest_lt skipped

/--
All tokens up to the end or the first failure, put behind those already read, which are handed on in
reverse. The second component is the failure, if there is one.
-/
def readAll (tokens : List Token) (lexer : Lexer) : List Token × Option LexError :=
  match _read : lexer.next with
  | (.ok (some token), following) => readAll (token :: tokens) following
  | (.ok none, _) => (tokens.reverse, none)
  | (.error error, _) => (tokens.reverse, some error)
termination_by lexer.rest.length
decreasing_by exact length_rest_next_lt _read

end Lexer

/-- The tokens of a query, or the first failure. -/
def lex (source : String) : Except LexError (List Token) :=
  match (Lexer.ofString source).readAll [] with
  | (tokens, none) => .ok tokens
  | (_, some error) => .error error

end CsvSelect.Query
