import CsvSelect.Proofs.Query.Literals
import CsvSelect.Proofs.Query.Munch

/-!
# How far reading looks ahead

A lexeme is read together with everything that stands behind it, and where it ends may depend on
more than the next character: the letter `e` behind a numeral belongs to it only if a digit follows,
perhaps behind a sign. But reading never looks across a blank. What stands behind a lexeme may
be replaced by any text that shows the same up to its first blank, or less of it, and the lexeme is
read as before (`Lexeme.Stands.withRest`).

Words and numerals are the longest of their language at the front of the text, and no text of these
languages has a blank in it. For comparisons the same holds of the options, and a literal ends where
the next character is no delimiter.
-/

namespace CsvSelect.Query

open Text

/-- The part of the text before its first blank. -/
def beforeBlank (text : List Char) : List Char :=
  text.takeWhile (!isBlank ·)

section

variable {rest other : List Char} (within : beforeBlank other <+: beforeBlank rest)
include within

theorem beforeBlank_append (front : List Char) :
    beforeBlank (front ++ other) <+: beforeBlank (front ++ rest) := by
  induction front with
  | nil => exact within
  | cons character front ih =>
      cases white : isBlank character with
      | true => simp [beforeBlank, white]
      | false => simpa [beforeBlank, white] using ih

/-- A text without blanks stands in front of all texts that show it before their first blank. -/
theorem prefix_of_beforeBlank {front : List Char}
    (unbroken : ∀ character ∈ front, isBlank character = false) (stands : front <+: other) :
    front <+: rest := by
  have shown : front <+: beforeBlank other := by
    rcases stands with ⟨behind, rfl⟩
    rw [beforeBlank, List.takeWhile_append_of_pos (by simpa using unbroken)]
    exact List.prefix_append _ _
  exact (shown.trans within).trans (List.takeWhile_prefix _)

theorem Ends.of_beforeBlank {continues : Char → Bool} (ends : Ends continues rest)
    (stops : ∀ character, isBlank character = true → continues character = false) :
    Ends continues other := by
  intro character mem
  cases white : isBlank character with
  | true => exact stops character white
  | false =>
      rcases List.head?_eq_some_iff.mp mem with ⟨behind, rfl⟩
      have shown : [character] <+: rest :=
        prefix_of_beforeBlank within (by simpa using white) ⟨behind, rfl⟩
      rcases shown with ⟨more, rfl⟩
      exact ends character rfl

theorem LongestFront.of_beforeBlank {language : Language Char} {front : List Char}
    (longest : LongestFront language (front ++ rest) front)
    (unbroken : ∀ run ∈ language, ∀ character ∈ run, isBlank character = false) :
    LongestFront language (front ++ other) front where
  stands := List.prefix_append _ _
  mem := longest.mem
  longest := by
    intro run mem stands
    have behind := beforeBlank_append within front
    exact longest.longest run mem (prefix_of_beforeBlank behind (unbroken run mem) stands)

end

theorem isWordCharacter_eq_false_of_isBlank {character : Char} (white : isBlank character = true) :
    isWordCharacter character = false := by
  have codes := toNat_of_isBlank white
  rw [Bool.eq_false_iff]
  intro isWord
  simp only [isWordCharacter, Char.isAlphanum, Bool.or_eq_true, isAlpha_iff, isDigit_iff,
    beq_iff_eq] at isWord
  rcases isWord with ((letter | digit) | rfl) | rfl
  · omega
  · omega
  · exact absurd white (by decide)
  · exact absurd white (by decide)

namespace Lexeme

/-- The lexeme is read as it stands, in front of the text behind it. -/
def Stands (lexeme : Lexeme) : Prop :=
  read (lexeme.text ++ lexeme.rest) = .ok (some lexeme)

variable {rest other : List Char}

/-! ### Words -/

/-- A reserved word is a word in any case of its letters. -/
theorem exists_letter_of_keyword {keyword : Keyword} {word : List Char}
    (spelled : word.map Char.toLower = keyword.text.toList) :
    ∃ first others, word = first :: others ∧ first.isAlpha = true ∧
      ∀ character ∈ others, isWordCharacter character = true := by
  rcases word_of_isPlainName (isPlainName_keyword keyword) with
    ⟨small, behind, same, letter, inside, -⟩
  rw [same] at spelled
  rcases List.map_eq_cons_iff.mp spelled with ⟨first, others, rfl, rfl, rfl⟩
  refine ⟨first, others, rfl, ?_, ?_⟩
  · rw [isAlpha_iff, toNat_toLower] at letter
    rw [isAlpha_iff]
    split at letter
    · next upper => exact Or.inl ((isUpper_iff first).mp upper)
    · exact letter
  · intro character mem
    rw [← isWordCharacter_toLower]
    exact inside _ (List.mem_map_of_mem mem)

section

variable {kind : TokenKind} {value : String} {first : Char} {others : List Char}
  (letter : first.isAlpha = true)
  (inside : ∀ character ∈ others, isWordCharacter character = true)
include letter inside

/-- A word is read whole, so no word character stands behind it. -/
theorem ends_of_stands_word (stands : Stands ⟨kind, value, first :: others, rest⟩) :
    Ends isWordCharacter rest := by
  have insideAll : ∀ character ∈ others ++ rest.takeWhile isWordCharacter,
      isWordCharacter character = true := by
    intro character mem
    rcases List.mem_append.mp mem with before | more
    · exact inside character before
    · exact List.mem_takeWhile_imp more
  have whole := read_word letter insideAll (ends_dropWhile isWordCharacter rest)
  have split : first :: (others ++ rest.takeWhile isWordCharacter) ++
      rest.dropWhile isWordCharacter = first :: others ++ rest := by
    simp
  rw [split, stands, Except.ok.injEq, Option.some.injEq, Lexeme.mk.injEq] at whole
  rw [whole.2.2.2]
  exact ends_dropWhile isWordCharacter rest

theorem stands_word (stands : Stands ⟨kind, value, first :: others, rest⟩)
    (within : beforeBlank other <+: beforeBlank rest) :
    Stands ⟨kind, value, first :: others, other⟩ := by
  have ends := ends_of_stands_word letter inside stands
  have before := read_word letter inside ends
  rw [stands, Except.ok.injEq, Option.some.injEq, Lexeme.mk.injEq] at before
  rcases before with ⟨rfl, rfl, -, -⟩
  have endsAgain := ends.of_beforeBlank within fun _ => isWordCharacter_eq_false_of_isBlank
  exact read_word letter inside endsAgain

end

/-! ### Literals -/

theorem read_enclose (quotation : Quotation) (value : String) (rest : List Char) :
    read (Quoted.enclose quotation.delimiter value.toList ++ rest) =
      quoted quotation.delimiter quotation.kind
        (Quoted.enclose quotation.delimiter value.toList ++ rest) :=
  Quotation.read_cons quotation _

theorem stands_literal (quotation : Quotation) {value : String}
    (stands : Stands ⟨quotation.kind, value, Quoted.enclose quotation.delimiter value.toList, rest⟩)
    (within : beforeBlank other <+: beforeBlank rest) :
    Stands ⟨quotation.kind, value, Quoted.enclose quotation.delimiter value.toList, other⟩ := by
  have noBlank : isBlank quotation.delimiter = false := by
    cases quotation <;> decide
  rw [Stands, read_enclose] at stands ⊢
  have closed := (literalAt_of_quoted stands).closed
  rw [List.drop_left] at closed
  have ends : Ends (· == quotation.delimiter) other := by
    apply (ends_iff_head?_ne.mpr closed).of_beforeBlank within
    intro character white
    rw [beq_eq_false_iff_ne]
    rintro rfl
    rw [noBlank] at white
    exact absurd white (by decide)
  exact quoted_enclose ends quotation.kind value

/-! ### Numerals -/

theorem isBlank_eq_false_of_mem_numeral {text : List Char} (isNumeral : IsNumeral text) :
    ∀ character ∈ text, isBlank character = false := by
  have noDigit {character : Char} (digit : character.isDigit = true) :
      isBlank character = false := by
    rw [Bool.eq_false_iff]
    intro white
    have codes := toNat_of_isBlank white
    rw [isDigit_iff] at digit
    omega
  rcases isNumeral with @⟨whole, part, power, isDigits, isFraction, isExponent, -⟩
  intro character mem
  rcases List.mem_append.mp mem with mantissa | exponent
  · rcases List.mem_append.mp mantissa with digit | fraction
    · exact noDigit (isDigits character digit)
    · cases isFraction with
      | nothing => simp at fraction
      | dot areDigits =>
          rcases List.mem_cons.mp fraction with rfl | digit
          · decide
          · exact noDigit (areDigits character digit)
  · cases isExponent with
    | nothing => simp at exponent
    | power isLetter isSign nonempty areDigits =>
        rcases List.mem_cons.mp exponent with rfl | behind
        · rcases isLetter with rfl | rfl <;> decide
        · rcases List.mem_append.mp behind with signed | digit
          · rcases isSign with rfl | rfl | rfl
            · simp at signed
            · rw [List.mem_singleton.mp signed]
              decide
            · rw [List.mem_singleton.mp signed]
              decide
          · exact noDigit (areDigits character digit)

theorem stands_numeral {text : List Char} (isNumeral : IsNumeral text)
    (stands : Stands ⟨.numeric, String.ofList text, text, rest⟩)
    (within : beforeBlank other <+: beforeBlank rest) :
    Stands ⟨.numeric, String.ofList text, text, other⟩ := by
  rcases exists_numeral? isNumeral rest with ⟨lexeme, found, -⟩
  have same := read_of_numeral? found
  rw [stands, Except.ok.injEq, Option.some.injEq] at same
  subst same
  have unbroken : ∀ run ∈ Numeral.expression.matches', ∀ character ∈ run,
      isBlank character = false :=
    fun run mem => isBlank_eq_false_of_mem_numeral (Numeral.mem_expression.mp mem)
  have longest := (longestFront_of_numeral? found).of_beforeBlank within unbroken
  apply read_of_numeral?
  exact numeral?_eq_some_iff.mpr ⟨text, longest, by rw [List.drop_left]⟩

/-! ### Comparisons -/

theorem map_toLower_operator (operator : Operator) :
    operator.text.toList.map Char.toLower = operator.text.toList := by
  cases operator <;> decide

theorem stands_operation (operator : Operator)
    (stands : Stands ⟨.operation, operator.text, operator.text.toList, rest⟩)
    (within : beforeBlank other <+: beforeBlank rest) :
    Stands ⟨.operation, operator.text, operator.text.toList, other⟩ := by
  rw [Stands, read_operator, Except.ok.injEq] at stands
  rcases Option.map_eq_some_iff.mp stands with ⟨spelling, matched, same⟩
  have spelled : spelling = operator.text.toList := by
    rw [← String.toList_ofList (l := spelling)]
    exact congrArg (·.value.toList) same
  subst spelled
  have again : longestMatch? (Operator.all.map (·.text.toList)) (operator.text.toList ++ other) =
      some operator.text.toList := by
    rcases of_longestMatch?_eq_some matched with ⟨mem, nonempty, -⟩
    apply longestMatch?_eq_some mem nonempty (beginsWith_append (map_toLower_operator operator) _)
    intro option optionMem begins
    rcases List.mem_map.mp optionMem with ⟨longer, -, rfl⟩
    have noLetters : longer.text.toList.all (!·.isLower) = true := by
      cases longer <;> decide
    have noBlanks : longer.text.toList.all (!isBlank ·) = true := by
      cases longer <;> decide
    have unbroken : ∀ character ∈ longer.text.toList, isBlank character = false := by
      simpa using noBlanks
    -- An option that matches now has matched before, since it has no blank in it.
    have now : longer.text.toList <+: operator.text.toList ++ other :=
      List.prefix_iff_eq_take.mpr (take_eq_of_beginsWith begins noLetters).symm
    rcases prefix_of_beforeBlank (beforeBlank_append within _) unbroken now with ⟨behind, split⟩
    apply length_le_of_longestMatch? matched optionMem
    rw [← split]
    exact beginsWith_append (map_toLower_operator longer) behind
  rw [Stands, read_operator, operation?, again, Option.map_some, ofSpelling_append,
    String.ofList_toList]

/--
A lexeme is read as before if less is shown behind it before the first blank, and nothing else.
-/
theorem Stands.withRest {lexeme : Lexeme} (stands : lexeme.Stands)
    (within : beforeBlank other <+: beforeBlank lexeme.rest) :
    Stands { lexeme with rest := other } := by
  cases form_of_read stands with
  | keyword spelled =>
      rcases exists_letter_of_keyword spelled with ⟨first, others, rfl, letter, inside⟩
      exact stands_word letter inside stands within
  | symbol => exact read_symbol _ other
  | string => exact stands_literal .text stands within
  | numeral isNumeral => exact stands_numeral isNumeral stands within
  | quotedName => exact stands_literal .name stands within
  | name letter inside => exact stands_word letter inside stands within
  | operation => exact stands_operation _ stands within

end Lexeme

end CsvSelect.Query
