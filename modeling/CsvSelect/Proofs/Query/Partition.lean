import CsvSelect.Proofs.Query.Forms

/-!
# Tokens divide a query

This file proves that reading tokens loses nothing of a query and invents nothing. A query is cut
into pieces, each of which consists of blanks and one lexeme; the token of a piece is spelled by the
lexeme and carries the position of its first character, counted from the beginning of the query.
What remains behind the last piece is blank, or else it is where reading fails.

The invariant of a run is `Lexer.Follows`: the pieces passed so far and what is left make up the
query, and the lexer knows its position and the value of the last token. One call of `next` adds one
piece (`follows_next`), ends in blanks, or fails where `StopsAt` says. `readAll` repeats this.
-/

namespace CsvSelect.Query

open Text

/-! ### Positions -/

/-- The position behind a text: lines are ended by line feeds, and both counts begin with one. -/
def positionAfter (text : List Char) : Location where
  line := 1 + text.count '\n'
  column := 1 + (text.reverse.takeWhile (· != '\n')).length

theorem positionAfter_append_singleton (text : List Char) (character : Char) :
    positionAfter (text ++ [character]) = (positionAfter text).after character := by
  by_cases newline : character = '\n'
  · simp [positionAfter, Location.after, newline, Nat.add_assoc]
  · simp [positionAfter, Location.after, newline, Nat.add_assoc]

theorem positionAfter_append (text more : List Char) :
    positionAfter (text ++ more) = (positionAfter text).afterText more := by
  induction more generalizing text with
  | nil => simp
  | cons character more ih =>
      have step := ih (text ++ [character])
      rw [positionAfter_append_singleton] at step
      simpa [Location.afterText] using step

/-! ### Spellings -/

/-- The lexeme spells this value in a token of this kind. -/
def TokenKind.Spells (kind : TokenKind) (value : String) (lexeme : List Char) : Prop :=
  match kind with
  | .symbol | .operation | .numeric => value.toList = lexeme
  | .keyword => value.toList = lexeme.map Char.toLower
  | .string => lexeme = Quoted.enclose '\'' value.toList
  | .identifier =>
      if lexeme.head? = some '"' then lexeme = Quoted.enclose '"' value.toList
      else value.toList = lexeme.map Char.toLower

namespace Lexeme

/-- The characters of the lexeme spell its value. -/
def Spelled (lexeme : Lexeme) : Prop :=
  lexeme.kind.Spells lexeme.value lexeme.text

theorem spelled_of_form {lexeme : Lexeme} (form : lexeme.Form) : lexeme.Spelled := by
  cases form with
  | keyword spelled => simp [Spelled, TokenKind.Spells, spelled]
  | symbol => simp [Spelled, TokenKind.Spells]
  | string => simp [Spelled, TokenKind.Spells]
  | numeral => simp [Spelled, TokenKind.Spells]
  | quotedName => simp [Spelled, TokenKind.Spells, Quoted.enclose]
  | @name first others rest letter =>
      have unquoted : first ≠ '"' := by
        rintro rfl
        exact absurd letter (by decide)
      simp [Spelled, TokenKind.Spells, unquoted]
  | operation => simp [Spelled, TokenKind.Spells]

theorem head?_of_quoted_error {delimiter opened : Char} {kind : TokenKind} {text : List Char}
    (failed : quoted delimiter kind text = .error opened) : text.head? = some opened := by
  simp only [quoted] at failed
  split at failed
  · simp at failed
  · split at failed
    · next same =>
        split at failed
        · simp at failed
        · rw [List.head?_cons, same, Except.error.inj failed]
    · simp at failed

/-- A text on which recognition fails begins with the delimiter that is not closed. -/
theorem head?_of_read_error {text : List Char} {opened : Char}
    (failed : read text = .error opened) : text.head? = some opened := by
  rcases exists_of_firstFound (by simp) failed with ⟨recognise, mem, failed⟩
  simp only [recognisers, List.mem_cons, List.not_mem_nil, or_false] at mem
  rcases mem with rfl | rfl | rfl | rfl | rfl | rfl
  · simp at failed
  · simp at failed
  · exact head?_of_quoted_error failed
  · simp at failed
  · simp only [identifier] at failed
    split at failed
    · simp at failed
    · exact head?_of_quoted_error failed
  · simp at failed

end Lexeme

/-! ### Pieces of a query -/

/-- A token, the lexeme that it was read from, and the blanks before the lexeme. -/
structure Piece where
  gap : List Char
  lexeme : List Char
  token : Token

/-- The part of the query that the pieces make up. -/
def textOf (pieces : List Piece) : List Char :=
  pieces.flatMap fun piece => piece.gap ++ piece.lexeme

/-- The piece is rightly read behind the text that was passed before it. -/
structure Piece.StandsAfter (piece : Piece) (passed : List Char) : Prop where
  blank : piece.gap.all isBlank
  ne_nil : piece.lexeme ≠ []
  spelled : piece.token.kind.Spells piece.token.value piece.lexeme
  location : piece.token.location = positionAfter (passed ++ piece.gap)

/-- The source consists of the pieces and the rest, and every piece stands where it should. -/
structure Divides (source : List Char) (pieces : List Piece) (rest : List Char) : Prop where
  whole : textOf pieces ++ rest = source
  exact : ∀ before piece after, pieces = before ++ piece :: after →
    piece.StandsAfter (textOf before)

/-- The value of the token of the last piece. -/
def lastValue? (pieces : List Piece) : Option String :=
  pieces.getLast?.map (·.token.value)

/--
Reading fails behind the pieces: after some blanks stands a character that is none, and the error
says where, and which character it is.
-/
def StopsAt (source : List Char) (pieces : List Piece) (error : LexError) : Prop :=
  ∃ gap character rest, Divides source pieces (gap ++ character :: rest) ∧
    gap.all isBlank ∧ isBlank character = false ∧
    error.location = positionAfter (textOf pieces ++ gap) ∧
    match error with
    | .unexpectedCharacter found previous _ => found = character ∧ previous = lastValue? pieces
    | .unterminatedLiteral delimiter _ => delimiter = character

theorem textOf_append (pieces more : List Piece) :
    textOf (pieces ++ more) = textOf pieces ++ textOf more :=
  List.flatMap_append

theorem textOf_singleton (piece : Piece) : textOf [piece] = piece.gap ++ piece.lexeme :=
  List.append_nil _

theorem divides_nil (source : List Char) : Divides source [] source where
  whole := rfl
  exact := by simp

theorem Divides.append {source rest : List Char} {pieces : List Piece} {piece : Piece}
    (divides : Divides source pieces (piece.gap ++ piece.lexeme ++ rest))
    (stands : piece.StandsAfter (textOf pieces)) : Divides source (pieces ++ [piece]) rest where
  whole := by
    rw [textOf_append, List.append_assoc]
    simpa [textOf] using divides.whole
  exact := by
    intro before other after split
    rcases List.eq_nil_or_concat after with rfl | ⟨inner, last, rfl⟩
    · rcases List.append_inj' split rfl with ⟨rfl, same⟩
      rcases List.cons.inj same with ⟨rfl, -⟩
      exact stands
    · have inside : pieces = before ++ other :: inner := by
        rw [List.concat_eq_append, ← List.cons_append, ← List.append_assoc] at split
        exact (List.append_inj' split rfl).1
      exact divides.exact before other inner inside

/-! ### The run of a lexer -/

namespace Lexer

/-- The lexer has passed the pieces and nothing else of the source. -/
structure Follows (lexer : Lexer) (source : List Char) (pieces : List Piece) : Prop where
  divides : Divides source pieces lexer.rest
  location : lexer.location = positionAfter (textOf pieces)
  previous : lexer.previous = lastValue? pieces

variable {lexer following : Lexer} {source : List Char} {pieces : List Piece}

theorem follows_ofString (source : String) : (ofString source).Follows source.toList [] where
  divides := divides_nil _
  location := rfl
  previous := rfl

theorem Follows.location_skipBlanks (follows : lexer.Follows source pieces) :
    lexer.skipBlanks.location = positionAfter (textOf pieces ++ lexer.rest.takeWhile isBlank) := by
  rw [positionAfter_append, ← follows.location]
  rfl

theorem isBlank_of_skipBlanks {character : Char} {others : List Char}
    (first : lexer.skipBlanks.rest = character :: others) : isBlank character = false := by
  have stops := List.head?_dropWhile_not isBlank lexer.rest
  rw [show lexer.rest.dropWhile isBlank = character :: others from first] at stops
  simpa using stops

/-- A call that yields a token passes one more piece. -/
theorem follows_next {token : Token} (follows : lexer.Follows source pieces)
    (read : lexer.next = (.ok (some token), following)) :
    ∃ piece : Piece, piece.token = token ∧ following.Follows source (pieces ++ [piece]) := by
  rcases exists_lexeme_of_next read with ⟨lexeme, found, rfl, rfl⟩
  have reads := Lexeme.reads_of_read found
  let piece : Piece := ⟨lexer.rest.takeWhile isBlank, lexeme.text, lexer.skipBlanks.tokenOf lexeme⟩
  have whole : piece.gap ++ piece.lexeme ++ lexeme.rest = lexer.rest := by
    rw [List.append_assoc, reads.append]
    exact List.takeWhile_append_dropWhile
  have stands : piece.StandsAfter (textOf pieces) :=
    ⟨List.all_takeWhile, reads.ne_nil, Lexeme.spelled_of_form (Lexeme.form_of_read found),
      follows.location_skipBlanks⟩
  refine ⟨piece, rfl, ?_, ?_, ?_⟩
  · apply Divides.append _ stands
    change Divides source pieces (piece.gap ++ piece.lexeme ++ lexeme.rest)
    rw [whole]
    exact follows.divides
  · rw [textOf_append, textOf_singleton, ← List.append_assoc, positionAfter_append,
      ← follows.location_skipBlanks]
    rfl
  · simp [pass, lastValue?, piece, tokenOf]

theorem blank_of_next (read : lexer.next = (.ok none, following)) : lexer.rest.all isBlank := by
  simp only [next] at read
  split at read
  · next ended =>
      exact List.all_eq_true.mpr (List.dropWhile_eq_nil_iff.mp ended)
  · split at read <;> simp at read

theorem stopsAt_of_next {error : LexError} (follows : lexer.Follows source pieces)
    (read : lexer.next = (.error error, following)) : StopsAt source pieces error := by
  simp only [next] at read
  split at read
  · simp at read
  · next character others first =>
      have split : lexer.rest.takeWhile isBlank ++ character :: others = lexer.rest := by
        rw [← first]
        exact List.takeWhile_append_dropWhile
      refine ⟨lexer.rest.takeWhile isBlank, character, others, ?_, List.all_takeWhile,
        isBlank_of_skipBlanks first, ?_⟩
      · rw [split]
        exact follows.divides
      · rw [← follows.location_skipBlanks]
        split at read
        · simp at read
        · rcases Except.error.inj (Prod.mk.inj read).1 with rfl
          exact ⟨rfl, rfl, follows.previous⟩
        · next delimiter failed =>
            rcases Except.error.inj (Prod.mk.inj read).1 with rfl
            have opens := Lexeme.head?_of_read_error failed
            rw [first, List.head?_cons] at opens
            exact ⟨rfl, (Option.some.inj opens).symm⟩

/--
A run passes pieces, one for each token, until only blanks are left or it fails where the error
says.
-/
theorem pieces_of_readAll {tokens : List Token} (follows : lexer.Follows source pieces)
    (passed : tokens.reverse = pieces.map Piece.token) :
    ∃ all : List Piece, (lexer.readAll tokens).1 = all.map Piece.token ∧
      match (lexer.readAll tokens).2 with
      | none => ∃ gap, gap.all isBlank ∧ Divides source all gap
      | some error => StopsAt source all error := by
  fun_induction readAll tokens lexer generalizing pieces with
  | case1 tokens lexer token following read ih =>
      rcases follows_next follows read with ⟨piece, rfl, followsOn⟩
      exact ih followsOn (by simp [passed])
  | case2 tokens lexer following read =>
      exact ⟨pieces, passed, lexer.rest, blank_of_next read, follows.divides⟩
  | case3 tokens lexer error following read =>
      exact ⟨pieces, passed, stopsAt_of_next follows read⟩

end Lexer

/--
A query is divided into pieces, one for each token that is read from it. If all of it can be read,
only blanks follow the last piece; otherwise the pieces are followed by the place of the error.
-/
theorem lex_partition (source : String) :
    ∃ pieces : List Piece,
      ((Lexer.ofString source).readAll []).1 = pieces.map Piece.token ∧
      match lex source with
      | .ok tokens => tokens = pieces.map Piece.token ∧
          ∃ gap, gap.all isBlank ∧ Divides source.toList pieces gap
      | .error error => StopsAt source.toList pieces error := by
  have nothing : ([] : List Token).reverse = [].map Piece.token := rfl
  rcases Lexer.pieces_of_readAll (Lexer.follows_ofString source) nothing with
    ⟨pieces, same, ended⟩
  refine ⟨pieces, same, ?_⟩
  simp only [lex]
  generalize (Lexer.ofString source).readAll [] = run at same ended ⊢
  rcases run with ⟨tokens, none | error⟩
  · exact ⟨same, ended⟩
  · exact ended

end CsvSelect.Query
