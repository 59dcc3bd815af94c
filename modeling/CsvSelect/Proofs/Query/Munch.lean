import Mathlib.Computability.RegularExpressions
import CsvSelect.Proofs.Query.Scanning

/-!
# As far as it goes

Words and numerals have no mark at their end: they are read as far as their characters go. This
file says how far that is without regard to how they are read. What is read is the longest text of
a language that stands at the front (`LongestFront`): for a word these are the runs of word
characters, and for a numeral the texts of a regular expression (`Numeral.expression`).

A word is read whole before it is compared with the reserved words. So a name may begin with a
reserved word, and no part of a word is read on its own.
-/

namespace CsvSelect.Query

open Text

/-- The longest text of the language at the front of a text. -/
structure LongestFront (language : Language Char) (text front : List Char) : Prop where
  stands : front <+: text
  mem : front ∈ language
  longest : ∀ other ∈ language, other <+: text → other.length ≤ front.length

/-- The texts made of characters of one class. -/
def runsOf (continues : Char → Bool) : Language Char :=
  {run | ∀ character ∈ run, continues character = true}

namespace LongestFront

theorem unique {language : Language Char} {text front other : List Char}
    (longest : LongestFront language text front) (otherLongest : LongestFront language text other) :
    front = other := by
  have le := otherLongest.longest front longest.mem longest.stands
  have ge := longest.longest other otherLongest.mem otherLongest.stands
  exact (List.prefix_of_prefix_length_le longest.stands otherLongest.stands le).eq_of_length_le ge

theorem takeWhile (continues : Char → Bool) (text : List Char) :
    LongestFront (runsOf continues) text (text.takeWhile continues) where
  stands := List.takeWhile_prefix continues
  mem := fun _ mem => List.mem_takeWhile_imp mem
  longest := by
    rintro run inside ⟨rest, rfl⟩
    rw [List.takeWhile_append_of_pos inside, List.length_append]
    exact Nat.le_add_right _ _

end LongestFront

/-! ### Words -/

/-- The class that a word with this value belongs to. -/
def kindOfWord (value : String) : TokenKind :=
  if value ∈ Keyword.all.map Keyword.text then .keyword else .identifier

theorem Lexeme.read_word {first : Char} {others rest : List Char} (letter : first.isAlpha = true)
    (inside : ∀ character ∈ others, isWordCharacter character = true)
    (ends : Ends isWordCharacter rest) :
    let value := String.ofList ((first :: others).map Char.toLower)
    read (first :: others ++ rest) =
      .ok (some ⟨kindOfWord value, value, first :: others, rest⟩) := by
  intro value
  by_cases reserved : ∃ keyword : Keyword, value = keyword.text
  · rcases reserved with ⟨keyword, same⟩
    have spelled : (first :: others).map Char.toLower = keyword.text.toList := by
      rw [← same, String.toList_ofList]
    have mem : keyword.text ∈ Keyword.all.map Keyword.text := by
      cases keyword <;> decide
    rw [read_keyword spelled ends, same, kindOfWord, if_pos mem]
  · have different : ∀ keyword : Keyword,
        (first :: others).map Char.toLower ≠ keyword.text.toList := by
      intro keyword spelled
      exact reserved ⟨keyword, by rw [← String.ofList_toList (s := keyword.text), ← spelled]⟩
    have noMem : value ∉ Keyword.all.map Keyword.text := by
      intro mem
      rcases List.mem_map.mp mem with ⟨keyword, -, same⟩
      exact reserved ⟨keyword, same.symm⟩
    rw [read_name letter inside ends different, kindOfWord, if_neg noMem]

/-- A letter begins a word, which is read as one token. -/
theorem Lexer.next_word {lexer : Lexer} {first : Char} {others : List Char}
    (stands : lexer.skipBlanks.rest = first :: others) (letter : first.isAlpha = true) :
    ∃ word, LongestFront (runsOf isWordCharacter) (first :: others) word ∧
      let value := String.ofList (word.map Char.toLower)
      lexer.next =
        (.ok (some ⟨kindOfWord value, value, lexer.skipBlanks.location⟩),
          ⟨(first :: others).drop word.length, lexer.skipBlanks.location.afterText word,
            some value⟩) := by
  have isWord : isWordCharacter first = true := by
    simp [isWordCharacter, Char.isAlphanum, letter]
  let word := first :: others.takeWhile isWordCharacter
  let rest := others.dropWhile isWordCharacter
  have whole : word ++ rest = first :: others := by
    rw [List.cons_append, List.takeWhile_append_dropWhile]
  have longest := LongestFront.takeWhile isWordCharacter (first :: others)
  rw [List.takeWhile_cons_of_pos isWord] at longest
  refine ⟨word, longest, ?_⟩
  have inside : ∀ character ∈ others.takeWhile isWordCharacter, isWordCharacter character = true :=
    fun _ mem => List.mem_takeWhile_imp mem
  have read := Lexeme.read_word letter inside (ends_dropWhile isWordCharacter others)
  rw [whole, ← stands] at read
  rw [← whole, List.drop_left]
  exact Lexer.next_of_read read

/-- A name may begin with a reserved word; the same letters alone are the reserved word. -/
theorem Lexer.next_order :
    next { rest := " ORder$1.x".toList, location := ⟨1, 7⟩ } =
        (.ok (some ⟨.identifier, "order$1", ⟨1, 8⟩⟩), ⟨['.', 'x'], ⟨1, 15⟩, some "order$1"⟩) ∧
      next { rest := "Or.x".toList } =
        (.ok (some ⟨.keyword, "or", ⟨1, 1⟩⟩), ⟨['.', 'x'], ⟨1, 3⟩, some "or"⟩) := by
  constructor
  · rcases @next_word { rest := " ORder$1.x".toList, location := ⟨1, 7⟩ } 'O' "Rder$1.x".toList
      rfl rfl with ⟨word, longest, read⟩
    rcases longest.unique (.takeWhile isWordCharacter _) with rfl
    exact read
  · rcases @next_word { rest := "Or.x".toList } 'O' "r.x".toList rfl rfl with ⟨word, longest, read⟩
    rcases longest.unique (.takeWhile isWordCharacter _) with rfl
    exact read

/-! ### Numerals -/

namespace Numeral

/-- Any one of these characters. -/
def anyOf (characters : List Char) : RegularExpression Char :=
  (characters.map .char).sum

def atLeastOnce (part : RegularExpression Char) : RegularExpression Char :=
  part * part.star

def perhaps (part : RegularExpression Char) : RegularExpression Char :=
  1 + part

def digit : RegularExpression Char :=
  anyOf ['0', '1', '2', '3', '4', '5', '6', '7', '8', '9']

/-- Digits with a dot behind, among or before them, and perhaps an exponent. -/
def expression : RegularExpression Char :=
  (atLeastOnce digit * perhaps (.char '.' * digit.star) + .char '.' * atLeastOnce digit) *
    perhaps (anyOf ['e', 'E'] * perhaps (anyOf ['+', '-']) * atLeastOnce digit)

theorem mem_char {character : Char} {text : List Char} :
    text ∈ (RegularExpression.char character).matches' ↔ text = [character] := Iff.rfl

theorem mem_anyOf {characters text : List Char} :
    text ∈ (anyOf characters).matches' ↔ ∃ character ∈ characters, text = [character] := by
  induction characters with
  | nil => simp [anyOf]
  | cons first characters ih =>
      rw [anyOf, List.map_cons, List.sum_cons, RegularExpression.matches'_add, Language.mem_add,
        ← anyOf, ih, mem_char]
      simp

theorem mem_perhaps {part : RegularExpression Char} {text : List Char} :
    text ∈ (perhaps part).matches' ↔ text = [] ∨ text ∈ part.matches' := by
  rw [perhaps, RegularExpression.matches'_add, Language.mem_add, RegularExpression.matches'_epsilon,
    Language.mem_one]

theorem mem_digit {text : List Char} :
    text ∈ digit.matches' ↔ ∃ character, character.isDigit = true ∧ text = [character] := by
  have isDigit (character : Char) : character.isDigit = true ↔
      character ∈ ['0', '1', '2', '3', '4', '5', '6', '7', '8', '9'] := by
    simp only [isDigit_iff, List.mem_cons, List.not_mem_nil, or_false, ← Char.toNat_inj]
    change _ ↔ character.toNat = 48 ∨ character.toNat = 49 ∨ character.toNat = 50 ∨
      character.toNat = 51 ∨ character.toNat = 52 ∨ character.toNat = 53 ∨ character.toNat = 54 ∨
      character.toNat = 55 ∨ character.toNat = 56 ∨ character.toNat = 57
    omega
  simp only [digit, mem_anyOf, isDigit]

theorem mem_digits {text : List Char} :
    text ∈ digit.star.matches' ↔ ∀ character ∈ text, character.isDigit = true := by
  rw [RegularExpression.matches'_star, Language.mem_kstar]
  constructor
  · rintro ⟨pieces, rfl, digits⟩ character mem
    rcases List.mem_flatten.mp mem with ⟨piece, pieceMem, mem⟩
    rcases mem_digit.mp (digits piece pieceMem) with ⟨only, isDigit, rfl⟩
    rw [List.mem_singleton.mp mem]
    exact isDigit
  · intro isDigits
    refine ⟨text.map ([·]), ?_, ?_⟩
    · rw [← List.flatMap_def, List.flatMap_singleton']
    · intro piece mem
      rcases List.mem_map.mp mem with ⟨character, inside, rfl⟩
      exact mem_digit.mpr ⟨character, isDigits character inside, rfl⟩

theorem mem_atLeastOnce_digit {text : List Char} :
    text ∈ (atLeastOnce digit).matches' ↔
      text ≠ [] ∧ ∀ character ∈ text, character.isDigit = true := by
  rw [atLeastOnce, RegularExpression.matches'_mul, Language.mem_mul]
  constructor
  · rintro ⟨first, isFirst, others, isOthers, rfl⟩
    rcases mem_digit.mp isFirst with ⟨character, isDigit, rfl⟩
    exact ⟨by simp, List.forall_mem_cons.mpr ⟨isDigit, mem_digits.mp isOthers⟩⟩
  · rintro ⟨nonempty, isDigits⟩
    cases text with
    | nil => exact absurd rfl nonempty
    | cons first others =>
        rcases List.forall_mem_cons.mp isDigits with ⟨isDigit, isOthers⟩
        exact ⟨[first], mem_digit.mpr ⟨first, isDigit, rfl⟩, others, mem_digits.mpr isOthers, rfl⟩

theorem mem_fraction {text : List Char} :
    text ∈ (perhaps (.char '.' * digit.star)).matches' ↔ Lexeme.IsFraction text := by
  rw [mem_perhaps, RegularExpression.matches'_mul, Language.mem_mul]
  constructor
  · rintro (rfl | ⟨dot, isDot, digits, isDigits, rfl⟩)
    · exact .nothing
    · rw [mem_char.mp isDot]
      exact .dot (mem_digits.mp isDigits)
  · intro isFraction
    cases isFraction with
    | nothing => exact Or.inl rfl
    | dot isDigits => exact Or.inr ⟨['.'], rfl, _, mem_digits.mpr isDigits, rfl⟩

theorem mem_sign {text : List Char} :
    text ∈ (perhaps (anyOf ['+', '-'])).matches' ↔ text = [] ∨ text = ['+'] ∨ text = ['-'] := by
  rw [mem_perhaps, mem_anyOf]
  simp

theorem mem_exponent {text : List Char} :
    text ∈ (perhaps (anyOf ['e', 'E'] * perhaps (anyOf ['+', '-']) * atLeastOnce digit)).matches' ↔
      Lexeme.IsExponent text := by
  rw [mem_perhaps, RegularExpression.matches'_mul, Language.mem_mul, RegularExpression.matches'_mul]
  constructor
  · rintro (rfl | ⟨marks, isMarks, digits, isDigits, rfl⟩)
    · exact .nothing
    · rcases Language.mem_mul.mp isMarks with ⟨letter, isLetter, signed, isSign, rfl⟩
      rcases mem_anyOf.mp isLetter with ⟨character, mem, rfl⟩
      rcases mem_atLeastOnce_digit.mp isDigits with ⟨nonempty, isDigits⟩
      rw [List.append_assoc]
      exact @Lexeme.IsExponent.power character signed digits (by simpa using mem)
        (mem_sign.mp isSign) nonempty isDigits
  · intro isExponent
    cases isExponent with
    | nothing => exact Or.inl rfl
    | @power letter signed digits isLetter isSign nonempty isDigits =>
        have isMarks : [letter] ++ signed ∈
            (anyOf ['e', 'E']).matches' * (perhaps (anyOf ['+', '-'])).matches' :=
          Language.mem_mul.mpr ⟨[letter], mem_anyOf.mpr ⟨letter, by simpa using isLetter, rfl⟩,
            signed, mem_sign.mpr isSign, rfl⟩
        exact Or.inr ⟨_, isMarks, digits, mem_atLeastOnce_digit.mpr ⟨nonempty, isDigits⟩, rfl⟩

theorem mem_mantissa {text : List Char} :
    text ∈ (atLeastOnce digit * perhaps (.char '.' * digit.star) +
        .char '.' * atLeastOnce digit).matches' ↔
      ∃ whole fraction, text = whole ++ fraction ∧
        (∀ character ∈ whole, character.isDigit = true) ∧ Lexeme.IsFraction fraction ∧
          (whole ++ fraction).any Char.isDigit = true := by
  rw [RegularExpression.matches'_add, Language.mem_add, RegularExpression.matches'_mul,
    RegularExpression.matches'_mul, Language.mem_mul, Language.mem_mul]
  constructor
  · rintro (⟨whole, isWhole, fraction, isFraction, rfl⟩ | ⟨dot, isDot, digits, isDigits, rfl⟩)
    · rcases mem_atLeastOnce_digit.mp isWhole with ⟨nonempty, isDigits⟩
      have inside := List.head_mem nonempty
      exact ⟨whole, fraction, rfl, isDigits, mem_fraction.mp isFraction,
        List.any_eq_true.mpr ⟨_, List.mem_append_left _ inside, isDigits _ inside⟩⟩
    · rcases mem_atLeastOnce_digit.mp isDigits with ⟨nonempty, isDigits⟩
      have inside := List.head_mem nonempty
      rw [mem_char.mp isDot]
      exact ⟨[], _, rfl, by simp, .dot isDigits,
        List.any_eq_true.mpr ⟨_, List.mem_cons_of_mem _ inside, isDigits _ inside⟩⟩
  · rintro ⟨whole, fraction, rfl, isDigits, isFraction, digit⟩
    cases whole with
    | cons first whole =>
        exact Or.inl ⟨_, mem_atLeastOnce_digit.mpr ⟨by simp, isDigits⟩, fraction,
          mem_fraction.mpr isFraction, rfl⟩
    | nil =>
        cases isFraction with
        | nothing => simp at digit
        | @dot digits areDigits =>
            have nonempty : digits ≠ [] := by
              rintro rfl
              exact absurd digit (by decide)
            exact Or.inr ⟨['.'], rfl, digits, mem_atLeastOnce_digit.mpr ⟨nonempty, areDigits⟩, rfl⟩

/-- The expression describes the numerals. -/
theorem mem_expression {text : List Char} :
    text ∈ expression.matches' ↔ Lexeme.IsNumeral text := by
  rw [expression, RegularExpression.matches'_mul, Language.mem_mul]
  constructor
  · rintro ⟨mantissa, isMantissa, exponent, isExponent, rfl⟩
    rcases mem_mantissa.mp isMantissa with ⟨whole, fraction, rfl, isDigits, isFraction, digit⟩
    exact .parts isDigits isFraction (mem_exponent.mp isExponent) digit
  · rintro @⟨whole, fraction, exponent, isDigits, isFraction, isExponent, digit⟩
    exact ⟨whole ++ fraction, mem_mantissa.mpr ⟨whole, fraction, rfl, isDigits, isFraction, digit⟩,
      exponent, mem_exponent.mpr isExponent, rfl⟩

end Numeral

namespace Lexeme

/-- Digits and a fraction at the front of a text are read, perhaps with more digits. -/
theorem prefix_mantissa {whole part : List Char}
    (isDigits : ∀ digit ∈ whole, digit.isDigit = true) (isFraction : IsFraction part)
    (rest : List Char) :
    let text := whole ++ part ++ rest
    whole ++ part <+:
      text.takeWhile Char.isDigit ++ (fraction (text.dropWhile Char.isDigit)).1 := by
  intro text
  cases isFraction with
  | nothing =>
      refine ⟨rest.takeWhile Char.isDigit ++ (fraction (rest.dropWhile Char.isDigit)).1, ?_⟩
      simp [text, List.takeWhile_append_of_pos isDigits, List.dropWhile_append_of_pos isDigits]
  | @dot digits areDigits =>
      refine ⟨rest.takeWhile Char.isDigit, ?_⟩
      simp [text, List.takeWhile_append_of_pos isDigits, List.dropWhile_append_of_pos isDigits,
        fraction, List.takeWhile_append_of_pos areDigits]

/-- A numeral at the front of a text is read, perhaps as a part of a longer one. -/
theorem exists_numeral? {front : List Char} (isNumeral : IsNumeral front) (rest : List Char) :
    ∃ lexeme, numeral? (front ++ rest) = some lexeme ∧ front <+: lexeme.text := by
  rcases isNumeral with @⟨whole, part, power, isDigits, isFraction, isExponent, digit⟩
  cases isExponent with
  | @power letter signed digits isLetter isSign nonempty areDigits =>
      have found := numeral?_parts isDigits isFraction digit
        (ends_letter isLetter (signed ++ digits ++ rest))
      rw [← List.cons_append, exponent_power_append isLetter isSign nonempty areDigits] at found
      refine ⟨_, by simpa using found, ?_⟩
      exact ⟨rest.takeWhile Char.isDigit, by simp⟩
  | nothing =>
      -- What follows may belong to the numeral, so a longer one may be read.
      rw [List.append_nil]
      have within := prefix_mantissa isDigits isFraction rest
      have more : _ = true := List.any_eq_true.mpr <| by
        rcases List.any_eq_true.mp digit with ⟨character, mem, isDigit⟩
        exact ⟨character, within.subset mem, isDigit⟩
      refine ⟨_, by simp only [numeral?]; rw [if_pos more], within.trans ?_⟩
      exact List.prefix_append _ _

theorem longestFront_of_numeral? {text : List Char} {lexeme : Lexeme}
    (found : numeral? text = some lexeme) :
    LongestFront Numeral.expression.matches' text lexeme.text where
  stands := ⟨_, (reads_of_numeral? found).append⟩
  mem := Numeral.mem_expression.mpr (isNumeral_of_numeral? found)
  longest := by
    rintro other mem ⟨rest, rfl⟩
    rcases exists_numeral? (Numeral.mem_expression.mp mem) rest with ⟨same, again, within⟩
    rw [found, Option.some.injEq] at again
    exact again ▸ within.length_le

theorem eq_of_numeral? {text : List Char} {lexeme : Lexeme}
    (found : numeral? text = some lexeme) :
    lexeme = ⟨.numeric, String.ofList lexeme.text, lexeme.text,
      text.drop lexeme.text.length⟩ := by
  have behind : text.drop lexeme.text.length = lexeme.rest := by
    rw [← (reads_of_numeral? found).append, List.drop_left]
  rw [behind]
  simp only [numeral?] at found
  split at found
  · rcases Option.some.inj found with rfl
    rfl
  · simp at found

theorem isSome_numeral?_iff {text : List Char} :
    (numeral? text).isSome ↔ ∃ front ∈ Numeral.expression.matches', front <+: text := by
  rw [Option.isSome_iff_exists]
  constructor
  · rintro ⟨lexeme, found⟩
    have longest := longestFront_of_numeral? found
    exact ⟨lexeme.text, longest.mem, longest.stands⟩
  · rintro ⟨front, mem, rest, rfl⟩
    rcases exists_numeral? (Numeral.mem_expression.mp mem) rest with ⟨lexeme, found, -⟩
    exact ⟨lexeme, found⟩

/-- The numeral that is read is the longest one that stands at the front. -/
theorem numeral?_eq_some_iff {text : List Char} {lexeme : Lexeme} :
    numeral? text = some lexeme ↔
      ∃ front, LongestFront Numeral.expression.matches' text front ∧
        lexeme = ⟨.numeric, String.ofList front, front, text.drop front.length⟩ := by
  constructor
  · intro found
    exact ⟨lexeme.text, longestFront_of_numeral? found, eq_of_numeral? found⟩
  · rintro ⟨front, longest, rfl⟩
    have some := isSome_numeral?_iff.mpr ⟨front, longest.mem, longest.stands⟩
    rcases Option.isSome_iff_exists.mp some with ⟨lexeme, found⟩
    rw [longest.unique (longestFront_of_numeral? found), found, ← eq_of_numeral? found]

end Lexeme

end CsvSelect.Query
