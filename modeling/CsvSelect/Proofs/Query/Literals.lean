import CsvSelect.Proofs.Query.Scanning

/-!
# Quoted literals

A literal is written between delimiters, with the delimiters inside it doubled, and ends where no
delimiter follows. A run of delimiters can be divided in several ways, but only one of them fits
this description (`LiteralAt.unique`). It is the one that is read (`quoted_eq_ok_iff`), and where
there is none the literal is not terminated (`quoted_eq_error_iff`).

Two classes of lexemes are literals: texts and quoted names. A character that opens one of them
begins no lexeme of another class, so the next call of a lexer in front of it reads the literal or
fails at the position of the delimiter.
-/

namespace CsvSelect.Query

open Text

/-- The text begins with a literal of this value. -/
structure LiteralAt (delimiter : Char) (text value literal : List Char) : Prop where
  written : literal = Quoted.enclose delimiter value
  front : literal <+: text
  closed : (text.drop literal.length).head? ≠ some delimiter

namespace Lexeme

variable {delimiter : Char} {kind : TokenKind} {text : List Char}

theorem ends_iff_head?_ne {rest : List Char} :
    Ends (· == delimiter) rest ↔ rest.head? ≠ some delimiter := by
  cases rest <;> simp [Ends]

/-- A literal that stands at the front of the text is read. -/
theorem quoted_of_literalAt {value literal : List Char}
    (stands : LiteralAt delimiter text value literal) (kind : TokenKind) :
    quoted delimiter kind text =
      .ok (some ⟨kind, String.ofList value, literal, text.drop literal.length⟩) := by
  rcases stands with ⟨rfl, ⟨rest, rfl⟩, closed⟩
  rw [List.drop_left] at closed ⊢
  have found := quoted_enclose (ends_iff_head?_ne.mpr closed) kind (String.ofList value)
  rwa [String.toList_ofList] at found

/-- Whatever is read is a literal at the front of the text. -/
theorem literalAt_of_quoted {lexeme : Lexeme}
    (found : quoted delimiter kind text = .ok (some lexeme)) :
    LiteralAt delimiter text lexeme.value.toList lexeme.text := by
  have reads := reads_of_quoted found
  have closed : lexeme.rest.head? ≠ some delimiter := by
    simp only [quoted] at found
    split at found
    · simp at found
    · split at found
      · split at found
        · next scanned =>
            rw [Except.ok.injEq, Option.some.injEq] at found
            rw [← found]
            exact Quoted.head?_ne_of_scanBody? scanned
        · simp at found
      · simp at found
  rcases eq_of_quoted found with ⟨value, rest, rfl⟩
  refine ⟨rfl, ⟨rest, reads.append⟩, ?_⟩
  rw [← reads.append, List.drop_left]
  exact closed

theorem quoted_eq_ok_iff {lexeme : Lexeme} :
    quoted delimiter kind text = .ok (some lexeme) ↔
      LiteralAt delimiter text lexeme.value.toList lexeme.text ∧ lexeme.kind = kind ∧
        lexeme.rest = text.drop lexeme.text.length := by
  constructor
  · intro found
    refine ⟨literalAt_of_quoted found, ?_, ?_⟩
    · rcases eq_of_quoted found with ⟨value, rest, rfl⟩
      rfl
    · rw [← (reads_of_quoted found).append, List.drop_left]
  · rintro ⟨stands, rfl, behind⟩
    rw [quoted_of_literalAt stands, String.ofList_toList, ← behind]

/-- Only one literal stands at the front of a text. -/
theorem LiteralAt.unique {value literal other otherLiteral : List Char}
    (stands : LiteralAt delimiter text value literal)
    (otherStands : LiteralAt delimiter text other otherLiteral) :
    value = other ∧ literal = otherLiteral := by
  have same := quoted_of_literalAt stands .string
  rw [quoted_of_literalAt otherStands, Except.ok.injEq, Option.some.injEq, Lexeme.mk.injEq,
    String.ofList_inj] at same
  exact ⟨same.2.1.symm, same.2.2.1.symm⟩

/-- Behind a delimiter there is a literal, or else the literal is not terminated. -/
theorem quoted_cases (delimiter : Char) (kind : TokenKind) (inside : List Char) :
    (∃ lexeme, quoted delimiter kind (delimiter :: inside) = .ok (some lexeme)) ∨
      quoted delimiter kind (delimiter :: inside) = .error delimiter := by
  simp only [quoted, if_true]
  cases Quoted.scanBody? delimiter [] inside with
  | some found => exact Or.inl ⟨_, rfl⟩
  | none => exact Or.inr rfl

theorem quoted_eq_error_iff {inside : List Char} :
    quoted delimiter kind (delimiter :: inside) = .error delimiter ↔
      ∀ value literal, ¬LiteralAt delimiter (delimiter :: inside) value literal := by
  constructor
  · intro failed value literal stands
    rw [quoted_of_literalAt stands] at failed
    simp at failed
  · intro none
    rcases quoted_cases delimiter kind inside with ⟨lexeme, found⟩ | failed
    · exact absurd (literalAt_of_quoted found) (none _ _)
    · exact failed

end Lexeme

/-! ### Literals in a query -/

/-- The two uses of literals. -/
inductive Quotation where
  | text
  | name

namespace Quotation

def delimiter : Quotation → Char
  | .text => '\''
  | .name => '"'

def kind : Quotation → TokenKind
  | .text => .string
  | .name => .identifier

/-- The delimiter begins no lexeme but the literal. -/
theorem read_cons (quotation : Quotation) (inside : List Char) :
    Lexeme.read (quotation.delimiter :: inside) =
      Lexeme.quoted quotation.delimiter quotation.kind (quotation.delimiter :: inside) := by
  have result := Lexeme.quoted_cases quotation.delimiter quotation.kind inside
  cases quotation with
  | text =>
      rw [delimiter, kind] at result ⊢
      rw [Lexeme.read_cons (by decide) (by decide), Lexeme.firstFound]
      rcases result with ⟨lexeme, found⟩ | failed
      · rw [found]
      · rw [failed]
  | name =>
      rw [delimiter, kind] at result ⊢
      have noText : Lexeme.quoted '\'' .string ('"' :: inside) = .ok none :=
        Lexeme.quoted_of_ne (by decide) _ _
      have noNumeral : Lexeme.numeral? ('"' :: inside) = none :=
        Lexeme.numeral?_of_not (by decide) (by decide) _
      rw [Lexeme.read_cons (by decide) (by decide)]
      simp only [Lexeme.firstFound, noText, noNumeral, Lexeme.identifier]
      rcases result with ⟨lexeme, found⟩ | failed
      · rw [found]
      · rw [failed]

/--
A literal is read exactly if one stands behind the blanks, with its value and up to its end, and
only one can stand there. If there is none, reading fails at the delimiter.
-/
theorem next_eq_quoted (quotation : Quotation) (inside : List Char) :
    let text := quotation.delimiter :: inside
    let read := Lexeme.quoted quotation.delimiter quotation.kind text
    (∀ lexeme : Lexeme, read = .ok (some lexeme) ↔
      LiteralAt quotation.delimiter text lexeme.value.toList lexeme.text ∧
        lexeme.kind = quotation.kind ∧ lexeme.rest = text.drop lexeme.text.length) ∧
    (∀ value literal other otherLiteral, LiteralAt quotation.delimiter text value literal →
      LiteralAt quotation.delimiter text other otherLiteral →
        value = other ∧ literal = otherLiteral) ∧
    (read = .error quotation.delimiter ↔
      ∀ value literal, ¬LiteralAt quotation.delimiter text value literal) ∧
    ∀ lexer : Lexer, lexer.skipBlanks.rest = text →
      lexer.next =
        match read with
        | .ok (some lexeme) =>
            (.ok (some ⟨quotation.kind, lexeme.value, lexer.skipBlanks.location⟩),
              ⟨lexeme.rest, lexer.skipBlanks.location.afterText lexeme.text, some lexeme.value⟩)
        | _ =>
            (.error (.unterminatedLiteral quotation.delimiter lexer.skipBlanks.location),
              lexer.skipBlanks) := by
  intro text read
  refine ⟨fun lexeme => Lexeme.quoted_eq_ok_iff, fun _ _ _ _ => Lexeme.LiteralAt.unique,
    Lexeme.quoted_eq_error_iff, ?_⟩
  intro lexer stands
  have same : Lexeme.read lexer.skipBlanks.rest = read := by
    rw [stands, read_cons]
  rcases Lexeme.quoted_cases quotation.delimiter quotation.kind inside with
    ⟨lexeme, found⟩ | failed
  · have kind := (Lexeme.quoted_eq_ok_iff.mp found).2.1
    have step := Lexer.next_of_read (same.trans found)
    rw [Lexer.tokenOf, kind] at step
    simp only [read, text, found]
    exact step
  · simp only [read, text, failed]
    exact Lexer.next_of_read_error (same.trans failed)

/-- A lexer that has read a word and stands behind it. -/
def behindWord (text : String) : Lexer where
  rest := text.toList
  location := ⟨1, 7⟩
  previous := some "select"

/-- Of six delimiters the last one closes; of five there is none that does. -/
theorem next_delimiters :
    LiteralAt '\'' "''''''x".toList "''".toList "''''''".toList ∧
      (behindWord " ''''''x").next =
        (.ok (some ⟨.string, "''", ⟨1, 8⟩⟩), ⟨['x'], ⟨1, 14⟩, some "''"⟩) ∧
      (∀ value literal, ¬LiteralAt '\'' "'''''x".toList value literal) ∧
      (behindWord " '''''x").next =
        (.error (.unterminatedLiteral '\'' ⟨1, 8⟩), (behindWord " '''''x").skipBlanks) := by
  have closed := next_eq_quoted .text "'''''x".toList
  have opened := next_eq_quoted .text "''''x".toList
  exact ⟨((closed.1 ⟨.string, "''", "''''''".toList, ['x']⟩).mp rfl).1,
    closed.2.2.2 (behindWord " ''''''x") rfl, opened.2.2.1.mp rfl,
    opened.2.2.2 (behindWord " '''''x") rfl⟩

end Quotation

end CsvSelect.Query
