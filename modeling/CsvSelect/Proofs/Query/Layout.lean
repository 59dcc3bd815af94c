import CsvSelect.Proofs.Query.Lookahead
import CsvSelect.Proofs.Query.Partition

/-!
# Layout

The blanks between the lexemes of a query do not matter. A query that is read consists of pieces,
each of which is a lexeme with the blanks before it. The blanks may be replaced by others, and there
may be blanks where there were none; only where two lexemes were kept apart by blanks some must
remain. The new text is read as the same tokens at other positions, and so as the same statement.

Where two lexemes touch, the first one was read with the second one behind it, and it may end where
it does because of what follows further on. So the texts behind every lexeme are compared, from the
back: the new one shows the same as the old one before the first blank, or less
(`beforeBlank_respaced`), and reading looks no further.
-/

namespace CsvSelect.Query

open Text

/-! ### Positions -/

theorem Location.line_afterText (location : Location) (text : List Char) :
    (location.afterText text).line = location.line + text.count '\n' := by
  induction text generalizing location with
  | nil => rfl
  | cons character text ih =>
      rw [afterText, List.foldl_cons, ← afterText, ih, after]
      split
      · next newline => simp [newline, Nat.add_comm, Nat.add_left_comm]
      · next other => simp [other]

theorem Location.column_afterText {text : List Char} (noBreak : '\n' ∉ text) (location : Location) :
    (location.afterText text).column = location.column + text.length := by
  induction text generalizing location with
  | nil => rfl
  | cons character text ih =>
      rw [List.mem_cons, not_or] at noBreak
      rw [afterText, List.foldl_cons, ← afterText, ih noBreak.2, after, if_neg (Ne.symm noBreak.1)]
      simp [Nat.add_comm, Nat.add_left_comm]

/-- Passing a text changes the position. -/
theorem Location.eq_nil_of_afterText {location : Location} {text : List Char}
    (same : location.afterText text = location) : text = [] := by
  have line := line_afterText location text
  rw [same] at line
  have noBreak : '\n' ∉ text := List.count_eq_zero.mp (by omega)
  have column := column_afterText noBreak location
  rw [same] at column
  exact List.eq_nil_of_length_eq_zero (by omega)

/-- A text determines a place in it by its position. -/
theorem eq_of_positionAfter {source front other : List Char} (stands : front <+: source)
    (otherStands : other <+: source) (same : positionAfter front = positionAfter other) :
    front = other := by
  rcases List.prefix_or_prefix_of_prefix stands otherStands with ⟨more, rfl⟩ | ⟨more, rfl⟩
  · rw [positionAfter_append] at same
    rw [Location.eq_nil_of_afterText same.symm, List.append_nil]
  · rw [positionAfter_append] at same
    rw [Location.eq_nil_of_afterText same, List.append_nil]

/-! ### Pieces are read as they stand -/

/-- Two spellings of one value are equally long if they begin alike. -/
theorem TokenKind.Spells.length_eq {kind : TokenKind} {value : String} {lexeme other : List Char}
    (spells : kind.Spells value lexeme) (otherSpells : kind.Spells value other)
    (sameHead : lexeme.head? = other.head?) : lexeme.length = other.length := by
  cases kind with
  | symbol | operation | numeric => rw [← spells, ← otherSpells]
  | string => rw [spells, otherSpells]
  | keyword =>
      have lengths := congrArg List.length (spells.symm.trans otherSpells)
      simpa using lengths
  | identifier =>
      simp only [Spells, sameHead] at spells otherSpells
      split at spells
      · next quoted =>
          rw [if_pos quoted] at otherSpells
          rw [spells, otherSpells]
      · next plain =>
          rw [if_neg plain] at otherSpells
          have lengths := congrArg List.length (spells.symm.trans otherSpells)
          simpa using lengths

/-- The lexeme of the piece in front of a text. -/
def Piece.inFrontOf (piece : Piece) (rest : List Char) : Lexeme where
  kind := piece.token.kind
  value := piece.token.value
  text := piece.lexeme
  rest := rest

/-- The pieces are read as they stand, one behind the other, up to blanks at the end. -/
inductive Legible : List Piece → List Char → Prop
  | nil {behind : List Char} (blank : behind.all isBlank) : Legible [] behind
  | cons {piece : Piece} {pieces : List Piece} {behind : List Char}
      (stands : (piece.inFrontOf (textOf pieces ++ behind)).Stands)
      (legible : Legible pieces behind) : Legible (piece :: pieces) behind

theorem textOf_cons (piece : Piece) (pieces : List Piece) :
    textOf (piece :: pieces) = piece.gap ++ (piece.lexeme ++ textOf pieces) := by
  simp [textOf]

theorem Divides.init {source rest : List Char} {pieces more : List Piece}
    (divides : Divides source (pieces ++ more) rest) :
    Divides source pieces (textOf more ++ rest) where
  whole := by
    rw [← divides.whole, textOf_append, List.append_assoc]
  exact := by
    rintro before piece after rfl
    exact divides.exact before piece (after ++ more) (by simp)

namespace Lexer

variable {lexer following : Lexer} {source rest : List Char} {passed : List Piece} {piece : Piece}

/-- The blanks that are passed are the gap before the next piece. -/
theorem Follows.rest_skipBlanks (follows : lexer.Follows source passed)
    (divides : Divides source (passed ++ [piece]) rest)
    (location : piece.token.location = lexer.skipBlanks.location) :
    lexer.skipBlanks.rest = piece.lexeme ++ rest := by
  have left : textOf passed ++ lexer.rest = source := follows.divides.whole
  have blanks : lexer.rest.takeWhile isBlank ++ lexer.skipBlanks.rest = lexer.rest :=
    List.takeWhile_append_dropWhile
  have whole : piece.gap ++ (piece.lexeme ++ rest) = lexer.rest := by
    have both := divides.whole.trans left.symm
    simpa [textOf_append, textOf_singleton] using both
  have samePlace : positionAfter (textOf passed ++ lexer.rest.takeWhile isBlank) =
      positionAfter (textOf passed ++ piece.gap) := by
    rw [← follows.location_skipBlanks, ← location]
    exact (divides.exact passed piece [] rfl).location
  have passes : textOf passed ++ lexer.rest.takeWhile isBlank <+: source :=
    ⟨lexer.skipBlanks.rest, by rw [List.append_assoc, blanks, left]⟩
  have precedes : textOf passed ++ piece.gap <+: source :=
    ⟨piece.lexeme ++ rest, by rw [List.append_assoc, whole, left]⟩
  have same := List.append_cancel_left (eq_of_positionAfter passes precedes samePlace)
  rw [same, ← whole, List.append_cancel_left_eq] at blanks
  exact blanks

/-- The token of a piece is read from its lexeme, and the lexer moves behind it. -/
theorem Follows.stands (follows : lexer.Follows source passed)
    (divides : Divides source (passed ++ [piece]) rest)
    (step : lexer.next = (.ok (some piece.token), following)) :
    (piece.inFrontOf rest).Stands ∧ following.Follows source (passed ++ [piece]) := by
  rcases exists_lexeme_of_next step with ⟨⟨kind, value, text, behind⟩, found, same, rfl⟩
  have exact := divides.exact passed piece [] rfl
  have shown := follows.rest_skipBlanks divides (by rw [← same]; rfl)
  rw [shown] at found
  have whole : text ++ behind = piece.lexeme ++ rest := (Lexeme.reads_of_read found).append
  have spelled : kind.Spells value text := Lexeme.spelled_of_form (Lexeme.form_of_read found)
  have spells : kind.Spells value piece.lexeme := by
    have spells := exact.spelled
    rwa [← same] at spells
  have sameHead : text.head? = piece.lexeme.head? := by
    have heads := congrArg List.head? whole
    rwa [List.head?_append_of_ne_nil _ (Lexeme.reads_of_read found).ne_nil,
      List.head?_append_of_ne_nil _ exact.ne_nil] at heads
  rcases List.append_inj whole (spelled.length_eq spells sameHead) with ⟨rfl, rfl⟩
  refine ⟨?_, divides, ?_, ?_⟩
  · rw [Lexeme.Stands, Piece.inFrontOf, ← same]
    exact found
  · rw [textOf_append, textOf_singleton, ← List.append_assoc, positionAfter_append,
      ← exact.location, ← same]
    rfl
  · simp [pass, lastValue?, ← same, tokenOf]

/-- A run puts tokens behind those that it starts with. -/
theorem prefix_readAll (lexer : Lexer) (read : List Token) :
    ∃ more, (lexer.readAll read).1 = read.reverse ++ more := by
  fun_induction readAll read lexer with
  | case1 read lexer token following step ih =>
      rcases ih with ⟨more, all⟩
      exact ⟨token :: more, by simpa using all⟩
  | case2 read => exact ⟨[], (List.append_nil _).symm⟩
  | case3 read => exact ⟨[], (List.append_nil _).symm⟩

/-- If a run reads the tokens of all further pieces, these are read as they stand. -/
theorem legible_of_readAll {pieces : List Piece} {behind : List Char} (read : List Token)
    (follows : lexer.Follows source passed) (divides : Divides source (passed ++ pieces) behind)
    (blank : behind.all isBlank)
    (all : lexer.readAll read = (read.reverse ++ pieces.map Piece.token, none)) :
    Legible pieces behind := by
  induction pieces generalizing lexer passed read with
  | nil => exact .nil blank
  | cons piece pieces ih =>
      rw [List.append_cons] at divides
      rcases step : lexer.next with ⟨error | token?, following⟩
      · rw [readAll_of_next_error step] at all
        simp at all
      · cases token? with
        | none =>
            rw [readAll_of_next_none step] at all
            simp at all
        | some token =>
            rw [readAll_of_next_some step] at all
            rcases prefix_readAll following (token :: read) with ⟨more, front⟩
            rw [all, List.map_cons, List.reverse_cons, List.append_assoc,
              List.append_cancel_left_eq, List.singleton_append, List.cons.injEq] at front
            rcases front with ⟨rfl, -⟩
            rcases follows.stands divides.init step with ⟨stands, further⟩
            refine .cons stands (ih (piece.token :: read) further divides ?_)
            rw [all]
            simp

end Lexer

/-- The source consists of these pieces, one for each token, and of blanks behind the last one. -/
structure Cuts (source : String) (tokens : List Token) (pieces : List Piece)
    (behind : List Char) : Prop where
  tokens : tokens = pieces.map Piece.token
  divides : Divides source.toList pieces behind
  blank : behind.all isBlank

theorem exists_cuts {source : String} {tokens : List Token} (read : lex source = .ok tokens) :
    ∃ pieces behind, Cuts source tokens pieces behind := by
  have nothing : ([] : List Token).reverse = [].map Piece.token := rfl
  rcases Lexer.pieces_of_readAll (Lexer.follows_ofString source) nothing with
    ⟨pieces, same, ended⟩
  rw [readAll_of_lex read] at same ended
  rcases ended with ⟨behind, blank, divides⟩
  exact ⟨pieces, behind, same, divides, blank⟩

theorem Cuts.legible {source : String} {tokens : List Token} {pieces : List Piece}
    {behind : List Char} (cuts : Cuts source tokens pieces behind)
    (read : lex source = .ok tokens) : Legible pieces behind := by
  have all := readAll_of_lex read
  rw [cuts.tokens] at all
  exact Lexer.legible_of_readAll [] (Lexer.follows_ofString source) cuts.divides cuts.blank all

/-! ### Other blanks -/

/-- These blanks may stand before the piece: there must be some if there were some. -/
structure Piece.Admits (piece : Piece) (gap : List Char) : Prop where
  blank : gap.all isBlank
  nonempty : piece.gap ≠ [] → gap ≠ []

/-- The lexemes of the pieces, with a gap before each of them and blanks behind the last one. -/
def respaced (pieces : List Piece) (gaps : List (List Char)) (last : List Char) : List Char :=
  (List.zipWith (fun piece gap => gap ++ piece.lexeme) pieces gaps).flatten ++ last

theorem respaced_cons (piece : Piece) (pieces : List Piece) (gap : List Char)
    (gaps : List (List Char)) (last : List Char) :
    respaced (piece :: pieces) (gap :: gaps) last =
      gap ++ (piece.lexeme ++ respaced pieces gaps last) := by
  simp [respaced]

theorem beforeBlank_eq_nil {text : List Char}
    (white : ∀ character ∈ text.head?, isBlank character = true) : beforeBlank text = [] := by
  cases text with
  | nil => rfl
  | cons first text => simp [beforeBlank, white first rfl]

theorem isBlank_of_mem_head? {blanks : List Char} (blank : blanks.all isBlank) :
    ∀ character ∈ blanks.head?, isBlank character = true :=
  fun character mem => List.all_eq_true.mp blank character (List.mem_of_mem_head? mem)

theorem Scans.blanks {blanks text : List Char} {tokens : List Token} (blank : blanks.all isBlank)
    (scans : Scans text tokens) : Scans (blanks ++ text) tokens := by
  induction blanks with
  | nil => exact scans
  | cons first blanks ih =>
      rw [List.all_cons, Bool.and_eq_true] at blank
      exact .blank blank.1 (ih blank.2)

section

variable {pieces : List Piece} {gaps : List (List Char)} {behind last : List Char}
  (admits : List.Forall₂ Piece.Admits pieces gaps) (blank : last.all isBlank)
include admits blank

/-- With other blanks a text shows the same before its first blank, or less. -/
theorem beforeBlank_respaced :
    beforeBlank (respaced pieces gaps last) <+: beforeBlank (textOf pieces ++ behind) := by
  induction admits with
  | nil =>
      change beforeBlank last <+: _
      rw [beforeBlank_eq_nil (isBlank_of_mem_head? blank)]
      exact List.nil_prefix
  | @cons piece gap pieces gaps first others ih =>
      rw [respaced_cons, textOf_cons]
      by_cases touching : gap = []
      · have touched : piece.gap = [] := by
          by_contra apart
          exact first.nonempty apart touching
        rw [touching, touched, List.nil_append, List.nil_append, List.append_assoc]
        exact beforeBlank_append ih piece.lexeme
      · have white := isBlank_of_mem_head? first.blank
        rw [← List.head?_append_of_ne_nil gap touching] at white
        rw [beforeBlank_eq_nil white]
        exact List.nil_prefix

/-- With other blanks the lexemes are read as before. -/
theorem scans_respaced (legible : Legible pieces behind) :
    Scans (respaced pieces gaps last) (pieces.map fun piece => piece.token.bare) := by
  induction admits with
  | nil =>
      have scans := Scans.blanks blank .nil
      rwa [List.append_nil] at scans
  | @cons piece gap pieces gaps first others ih =>
      cases legible with
      | cons stands legible =>
          rw [respaced_cons]
          apply Scans.blanks first.blank
          exact .lexeme (stands.withRest (beforeBlank_respaced others blank)) (ih legible)

end

/--
A query that is read consists of pieces. Blanks between its lexemes may be replaced by others, and
put where there were none: the tokens that are read, and the statement or the failure that they lead
to, stay the same apart from their positions.
-/
theorem lex_respaced {source : String} {tokens : List Token} (read : lex source = .ok tokens) :
    (∃ pieces behind, Cuts source tokens pieces behind) ∧
    ∀ pieces behind gaps last, Cuts source tokens pieces behind →
      List.Forall₂ Piece.Admits pieces gaps → last.all isBlank →
        let text := String.ofList (respaced pieces gaps last)
        (∃ again, lex text = .ok again ∧ again.map Token.bare = tokens.map Token.bare) ∧
        ((parse text).map Statement.bare).mapError ParseError.bare =
          ((parse source).map Statement.bare).mapError ParseError.bare := by
  refine ⟨exists_cuts read, ?_⟩
  intro pieces behind gaps last cuts admits blank text
  have scans : Scans text.toList (tokens.map Token.bare) := by
    rw [String.toList_ofList, cuts.tokens, List.map_map]
    exact scans_respaced admits blank (cuts.legible read)
  rcases lex_of_scans scans with ⟨again, readAgain, same⟩
  refine ⟨⟨again, readAgain, same⟩, ?_⟩
  have both := congrArg Prod.fst (congrArg parseTokens same)
  rw [parseTokens_bare, parseTokens_bare] at both
  simp only [parse, read, readAgain]
  exact both

/-- The pieces of a query in which some lexemes touch. -/
def touchingPieces : List Piece :=
  [⟨[], "select".toList, ⟨.keyword, "select", ⟨1, 1⟩⟩⟩,
    ⟨[], "'x'".toList, ⟨.string, "x", ⟨1, 7⟩⟩⟩,
    ⟨[], "from".toList, ⟨.keyword, "from", ⟨1, 10⟩⟩⟩,
    ⟨[' '], "t".toList, ⟨.identifier, "t", ⟨1, 15⟩⟩⟩]

theorem cuts_touchingPieces :
    Cuts "select'x'from t" (touchingPieces.map Piece.token) touchingPieces [] where
  tokens := rfl
  divides := by
    have select : touchingPieces[0].StandsAfter [] := ⟨rfl, by decide, rfl, rfl⟩
    have text : touchingPieces[1].StandsAfter "select".toList := ⟨rfl, by decide, rfl, rfl⟩
    have word : touchingPieces[2].StandsAfter "select'x'".toList := ⟨rfl, by decide, rfl, rfl⟩
    have name : touchingPieces[3].StandsAfter "select'x'from".toList :=
      ⟨rfl, by decide, rfl, rfl⟩
    have first := @Divides.append _ "'x'from t".toList [] touchingPieces[0] (divides_nil _) select
    have second := @Divides.append _ "from t".toList _ touchingPieces[1] first text
    have third := @Divides.append _ " t".toList _ touchingPieces[2] second word
    exact @Divides.append _ [] _ touchingPieces[3] third name
  blank := rfl

/-- A space is put in, another one becomes a line break, and two lexemes touch as before. -/
theorem lex_respaced_touchingPieces :
    (∃ again, lex "select 'x'from\n t" = .ok again ∧
      again.map Token.bare = (touchingPieces.map Piece.token).map Token.bare) ∧
    ((parse "select 'x'from\n t").map Statement.bare).mapError ParseError.bare =
      ((parse "select'x'from t").map Statement.bare).mapError ParseError.bare := by
  have read : lex "select'x'from t" = .ok (touchingPieces.map Piece.token) := by decide +kernel
  have admits : List.Forall₂ Piece.Admits touchingPieces [[], [' '], [], ['\n', ' ']] := by
    refine .cons ⟨rfl, ?_⟩ (.cons ⟨rfl, ?_⟩ (.cons ⟨rfl, ?_⟩ (.cons ⟨rfl, ?_⟩ .nil)))
    all_goals simp
  have text : String.ofList (respaced touchingPieces [[], [' '], [], ['\n', ' ']] []) =
      "select 'x'from\n t" := by decide
  have both := (lex_respaced read).2 touchingPieces [] _ [] cuts_touchingPieces admits rfl
  rw [text] at both
  exact both

end CsvSelect.Query
