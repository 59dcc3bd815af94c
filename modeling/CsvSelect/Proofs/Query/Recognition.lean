import Mathlib.Data.List.TakeWhile
import CsvSelect.Proofs.Text.Letters
import CsvSelect.Query.Token.Lexer

/-!
# Recognising lexemes in front of other text

A recogniser sees a lexeme together with everything behind it. This file proves when a given lexeme
is found: the text behind it must not continue it. For a word that is a word character, for a
numeral also a dot, for a quoted text the delimiter, and for a comparison an equals sign.
`Apart` excludes all of them at once, so that every lexeme in front of such a text is found as it
stands.

The order in which the classes are tried matters only for words, which are reserved words or names;
all other classes are told apart by the first character.
-/

namespace CsvSelect.Query

open Text

/-- The text is at its end or begins with a character that is not of this class. -/
def Ends (continues : Char → Bool) (rest : List Char) : Prop :=
  ∀ character ∈ rest.head?, continues character = false

theorem Ends.mono {narrow wide : Char → Bool} {rest : List Char} (ends : Ends wide rest)
    (le : ∀ character, narrow character = true → wide character = true) : Ends narrow rest := by
  intro character mem
  rw [Bool.eq_false_iff]
  intro continues
  exact Bool.eq_false_iff.mp (ends character mem) (le character continues)

theorem takeWhile_of_ends {continues : Char → Bool} {rest : List Char}
    (ends : Ends continues rest) : rest.takeWhile continues = [] := by
  cases rest with
  | nil => rfl
  | cons character rest => rw [List.takeWhile_cons_of_neg (by simp [ends character rfl])]

theorem dropWhile_of_ends {continues : Char → Bool} {rest : List Char}
    (ends : Ends continues rest) : rest.dropWhile continues = rest := by
  have whole := List.takeWhile_append_dropWhile (p := continues) (l := rest)
  rwa [takeWhile_of_ends ends] at whole

theorem takeWhile_append_of_ends {continues : Char → Bool} {run rest : List Char}
    (inside : ∀ character ∈ run, continues character = true) (ends : Ends continues rest) :
    (run ++ rest).takeWhile continues = run := by
  rw [List.takeWhile_append_of_pos inside, takeWhile_of_ends ends, List.append_nil]

theorem dropWhile_append_of_ends {continues : Char → Bool} {run rest : List Char}
    (inside : ∀ character ∈ run, continues character = true) (ends : Ends continues rest) :
    (run ++ rest).dropWhile continues = rest := by
  rw [List.dropWhile_append_of_pos inside, dropWhile_of_ends ends]

theorem ends_dropWhile (continues : Char → Bool) (text : List Char) :
    Ends continues (text.dropWhile continues) := by
  intro character mem
  have stops := List.head?_dropWhile_not continues text
  rw [Option.mem_def.mp mem] at stops
  simpa using stops

/-! ### The longest match -/

theorem beginsWith_iff {option text : List Char} :
    beginsWith option text = true ↔ option <+: text.map Char.toLower := by
  rw [beginsWith, beq_iff_eq, List.prefix_iff_eq_take, List.map_take, eq_comm]

/-- The longest match is at least as long as what is in hand and as every option that matches. -/
theorem length_le_foldl_longest (options : List (List Char)) (text best : List Char) :
    let longest := options.foldl
      (fun best option =>
        if beginsWith option text && best.length < option.length then option else best) best
    best.length ≤ longest.length ∧
      ∀ option ∈ options, beginsWith option text = true → option.length ≤ longest.length := by
  induction options generalizing best with
  | nil => simp
  | cons first options ih =>
      simp only [List.foldl_cons, List.mem_cons, forall_eq_or_imp]
      split
      · next taken =>
          rcases ih first with ⟨kept, others⟩
          simp only [Bool.and_eq_true, decide_eq_true_eq] at taken
          exact ⟨by omega, fun _ => kept, others⟩
      · next passed =>
          rcases ih best with ⟨kept, others⟩
          simp only [Bool.and_eq_true, decide_eq_true_eq, not_and] at passed
          refine ⟨kept, fun begins => ?_, others⟩
          have := passed begins
          omega

theorem length_le_of_longestMatch? {options : List (List Char)} {text spelling option : List Char}
    (found : longestMatch? options text = some spelling) (mem : option ∈ options)
    (begins : beginsWith option text = true) : option.length ≤ spelling.length := by
  have bound := (length_le_foldl_longest options text []).2 option mem begins
  simp only [longestMatch?] at found
  split at found
  · simp at found
  · rcases Option.some.inj found with rfl
    exact bound

theorem longestMatch?_eq_none_iff {options : List (List Char)} {text : List Char} :
    longestMatch? options text = none ↔
      ∀ option ∈ options, beginsWith option text = true → option = [] := by
  constructor
  · intro none option mem begins
    have bound := (length_le_foldl_longest options text []).2 option mem begins
    simp only [longestMatch?] at none
    split at none
    · next empty =>
        rw [List.isEmpty_iff.mp empty] at bound
        exact List.eq_nil_of_length_eq_zero (Nat.le_zero.mp bound)
    · simp at none
  · intro onlyEmpty
    cases found : longestMatch? options text with
    | none => rfl
    | some spelling =>
        rcases of_longestMatch?_eq_some found with ⟨mem, nonempty, begins⟩
        exact absurd (onlyEmpty spelling mem begins) nonempty

/-- An option that begins the text and is not exceeded by another one is the longest match. -/
theorem longestMatch?_eq_some {options : List (List Char)} {text spelling : List Char}
    (mem : spelling ∈ options) (nonempty : spelling ≠ [])
    (begins : beginsWith spelling text = true)
    (longest : ∀ option ∈ options, beginsWith option text = true →
      option.length ≤ spelling.length) : longestMatch? options text = some spelling := by
  cases found : longestMatch? options text with
  | none => exact absurd (longestMatch?_eq_none_iff.mp found spelling mem begins) nonempty
  | some other =>
      rcases of_longestMatch?_eq_some found with ⟨otherMem, -, otherBegins⟩
      have atLeast := length_le_of_longestMatch? found mem begins
      have atMost := longest other otherMem otherBegins
      rw [beginsWith_iff] at begins otherBegins
      rw [(List.prefix_of_prefix_length_le otherBegins begins atMost).eq_of_length_le atLeast]

theorem longestMatch?_eq_none_of_head {options : List (List Char)} {character : Char}
    {others : List Char}
    (different : ∀ option ∈ options, option.head? ≠ some character.toLower) :
    longestMatch? options (character :: others) = none := by
  rw [longestMatch?_eq_none_iff]
  intro option mem begins
  cases option with
  | nil => rfl
  | cons first option =>
      rw [beginsWith_iff, List.map_cons, List.cons_prefix_cons] at begins
      exact absurd (congrArg some begins.1) (different _ mem)

namespace Lexeme

/-! ### Words -/

theorem isWordCharacter_of_mem_keyword {spelling : List Char}
    (mem : spelling ∈ Keyword.all.map (·.text.toList)) :
    ∀ character ∈ spelling, isWordCharacter character = true := by
  have inside : (Keyword.all.map (·.text.toList)).all (·.all isWordCharacter) = true := by decide
  exact List.all_eq_true.mp (List.all_eq_true.mp inside spelling mem)

/-- An option made of word characters ends with the word that it matches, or before. -/
theorem length_le_of_beginsWith_word {option word rest : List Char}
    (inside : ∀ character ∈ option, isWordCharacter character = true)
    (ends : Ends isWordCharacter rest) (begins : beginsWith option (word ++ rest) = true) :
    option.length ≤ word.length := by
  rw [beginsWith_iff, List.map_append] at begins
  rcases begins with ⟨behind, split⟩
  rcases List.append_eq_append_iff.mp split with ⟨more, same, -⟩ | ⟨more, same, continued⟩
  · have lengths := congrArg List.length same
    simp only [List.length_map, List.length_append] at lengths
    omega
  · cases more with
    | nil => simp [same]
    | cons first more =>
        cases rest with
        | nil => simp at continued
        | cons character rest =>
            have lowered := (List.cons.inj continued).1
            have isWord := inside first (by simp [same])
            rw [← lowered, isWordCharacter_toLower, ends character rfl] at isWord
            exact absurd isWord (by decide)

/-- A reserved word is found in any case of its letters if no word character follows. -/
theorem keyword?_append {keyword : Keyword} {word rest : List Char}
    (spelled : word.map Char.toLower = keyword.text.toList) (ends : Ends isWordCharacter rest) :
    keyword? (word ++ rest) = some ⟨.keyword, keyword.text, word, rest⟩ := by
  have mem : keyword.text.toList ∈ Keyword.all.map (·.text.toList) := by
    cases keyword <;> decide
  have length : keyword.text.toList.length = word.length := by
    rw [← spelled, List.length_map]
  have matched : longestMatch? (Keyword.all.map (·.text.toList)) (word ++ rest) =
      some keyword.text.toList := by
    apply longestMatch?_eq_some mem
    · cases keyword <;> decide
    · rw [beginsWith_iff, List.map_append, spelled]
      exact List.prefix_append _ _
    · intro option optionMem begins
      rw [length]
      exact length_le_of_beginsWith_word (isWordCharacter_of_mem_keyword optionMem) ends begins
  have follows : rest.head?.any isWordCharacter = false := by
    cases rest with
    | nil => rfl
    | cons character rest => exact ends character rfl
  simp [keyword?, matched, ofSpelling, length, follows]

theorem keyword?_append_eq_none {word rest : List Char}
    (inside : ∀ character ∈ word, isWordCharacter character = true)
    (ends : Ends isWordCharacter rest)
    (different : ∀ keyword : Keyword, word.map Char.toLower ≠ keyword.text.toList) :
    keyword? (word ++ rest) = none := by
  cases matched : longestMatch? (Keyword.all.map (·.text.toList)) (word ++ rest) with
  | none => simp [keyword?, matched]
  | some spelling =>
      rcases of_longestMatch?_eq_some matched with ⟨mem, -, begins⟩
      have bound :=
        length_le_of_beginsWith_word (isWordCharacter_of_mem_keyword mem) ends begins
      rw [beginsWith_iff, List.map_append] at begins
      -- The option is not the whole word, so a character of the word itself continues it.
      have shorter : spelling.length < word.length := by
        apply Nat.lt_of_le_of_ne bound
        intro same
        rcases List.mem_map.mp mem with ⟨keyword, -, rfl⟩
        apply different keyword
        have whole := List.prefix_of_prefix_length_le begins (List.prefix_append _ _)
          (by rw [List.length_map]; exact bound)
        exact (whole.eq_of_length (by rw [List.length_map]; exact same)).symm
      have continued : (word ++ rest)[spelling.length]?.any isWordCharacter = true := by
        rw [List.getElem?_append_left shorter, List.getElem?_eq_getElem shorter]
        exact inside _ (List.getElem_mem shorter)
      simp [keyword?, matched, ofSpelling, continued]

theorem word?_append {first : Char} {others rest : List Char} (letter : first.isAlpha = true)
    (inside : ∀ character ∈ others, isWordCharacter character = true)
    (ends : Ends isWordCharacter rest) :
    word? (first :: others ++ rest) =
      some ⟨.identifier, String.ofList ((first :: others).map Char.toLower), first :: others,
        rest⟩ := by
  simp [word?, letter, takeWhile_append_of_ends inside ends, dropWhile_append_of_ends inside ends]

/-! ### Quoted texts -/

/-- A doubled text is read back up to the delimiter that closes it. -/
theorem scanBody?_double {delimiter : Char} {rest : List Char} (ends : Ends (· == delimiter) rest)
    (text read : List Char) :
    Quoted.scanBody? delimiter read (Quoted.double delimiter text ++ delimiter :: rest) =
      some (read.reverse ++ text, rest) := by
  induction text generalizing read with
  | nil =>
      cases rest with
      | nil => simp [Quoted.scanBody?]
      | cons character rest =>
          have different : character ≠ delimiter := by simpa using ends character rfl
          simp [Quoted.scanBody?, different]
  | cons symbol text ih =>
      by_cases same : symbol = delimiter
      · simp [Quoted.scanBody?, same, ih]
      · cases behind : Quoted.double delimiter text ++ delimiter :: rest with
        | nil => simp at behind
        | cons following inside =>
            have step := ih (symbol :: read)
            rw [behind] at step
            simp [Quoted.scanBody?, same, behind, step]

theorem quoted_enclose {delimiter : Char} {rest : List Char} (ends : Ends (· == delimiter) rest)
    (kind : TokenKind) (value : String) :
    quoted delimiter kind (Quoted.enclose delimiter value.toList ++ rest) =
      .ok (some ⟨kind, value, Quoted.enclose delimiter value.toList, rest⟩) := by
  simp [quoted, Quoted.enclose, scanBody?_double ends]

theorem quoted_of_ne {delimiter character : Char} (different : character ≠ delimiter)
    (kind : TokenKind) (others : List Char) :
    quoted delimiter kind (character :: others) = .ok none := by
  simp [quoted, different]

/-! ### Numerals -/

/-- Nothing, or a dot and any digits. -/
inductive IsFraction : List Char → Prop
  | nothing : IsFraction []
  | dot {digits : List Char} (isDigits : ∀ digit ∈ digits, digit.isDigit = true) :
      IsFraction ('.' :: digits)

/-- Nothing, or the letter of an exponent, perhaps a sign, and at least one digit. -/
inductive IsExponent : List Char → Prop
  | nothing : IsExponent []
  | power {letter : Char} {signed digits : List Char} (isLetter : letter = 'e' ∨ letter = 'E')
      (isSign : signed = [] ∨ signed = ['+'] ∨ signed = ['-']) (nonempty : digits ≠ [])
      (isDigits : ∀ digit ∈ digits, digit.isDigit = true) :
      IsExponent (letter :: (signed ++ digits))

/-- The form of a numeral: digits, a fraction, of which one must have a digit, and an exponent. -/
inductive IsNumeral : List Char → Prop
  | parts {whole fraction exponent : List Char}
      (isDigits : ∀ digit ∈ whole, digit.isDigit = true) (isFraction : IsFraction fraction)
      (isExponent : IsExponent exponent) (digit : (whole ++ fraction).any Char.isDigit = true) :
      IsNumeral (whole ++ fraction ++ exponent)

theorem isFraction_fraction (text : List Char) : IsFraction (fraction text).1 := by
  simp only [fraction]
  split
  · apply IsFraction.dot
    exact fun digit mem => List.mem_takeWhile_imp mem
  · exact .nothing

theorem isExponent_exponent (text : List Char) : IsExponent (exponent text).1 := by
  simp only [exponent]
  split
  · exact .nothing
  · next letter text =>
      split
      · next complete =>
          simp only [Bool.and_eq_true, Bool.or_eq_true, decide_eq_true_eq, Bool.not_eq_true',
            List.isEmpty_eq_false_iff] at complete
          apply IsExponent.power complete.1 _ complete.2
          · exact fun digit mem => List.mem_takeWhile_imp mem
          · simp only [sign]
            split <;> simp
      · exact .nothing

theorem isNumeral_of_numeral? {text : List Char} {lexeme : Lexeme}
    (found : numeral? text = some lexeme) : IsNumeral lexeme.text := by
  simp only [numeral?] at found
  split at found
  · next digit =>
      rcases Option.some.inj found with rfl
      apply IsNumeral.parts _ (isFraction_fraction _) (isExponent_exponent _) digit
      exact fun digit mem => List.mem_takeWhile_imp mem
  · simp at found

theorem fraction_append_of_ends {part rest : List Char} (isFraction : IsFraction part)
    (ends : Ends (fun character => character.isDigit || character == '.') rest) :
    fraction (part ++ rest) = (part, rest) := by
  cases isFraction with
  | nothing =>
      cases rest with
      | nil => rfl
      | cons character rest =>
          have noDot := ends character rfl
          simp only [Bool.or_eq_false_iff, beq_eq_false_iff_ne] at noDot
          simp [fraction, noDot.2]
  | dot isDigits =>
      have noDigit : Ends Char.isDigit rest := ends.mono (by simp +contextual)
      simp [fraction, takeWhile_append_of_ends isDigits noDigit,
        dropWhile_append_of_ends isDigits noDigit]

theorem sign_append_digits {signed digits rest : List Char}
    (isSign : signed = [] ∨ signed = ['+'] ∨ signed = ['-']) (nonempty : digits ≠ [])
    (isDigits : ∀ digit ∈ digits, digit.isDigit = true) :
    sign (signed ++ (digits ++ rest)) = (signed, digits ++ rest) := by
  rcases isSign with rfl | rfl | rfl
  · cases digits with
    | nil => exact absurd rfl nonempty
    | cons digit digits =>
        have isDigit := isDigits digit List.mem_cons_self
        simp only [List.nil_append, List.cons_append, sign]
        split
        · next same =>
            rw [(List.cons.inj same).1] at isDigit
            exact absurd isDigit (by decide)
        · next same =>
            rw [(List.cons.inj same).1] at isDigit
            exact absurd isDigit (by decide)
        · rfl
  · rfl
  · rfl

/-- An exponent goes on as far as there are digits. -/
theorem exponent_power_append {letter : Char} {signed digits : List Char}
    (isLetter : letter = 'e' ∨ letter = 'E')
    (isSign : signed = [] ∨ signed = ['+'] ∨ signed = ['-']) (nonempty : digits ≠ [])
    (isDigits : ∀ digit ∈ digits, digit.isDigit = true) (rest : List Char) :
    exponent (letter :: (signed ++ digits) ++ rest) =
      (letter :: (signed ++ (digits ++ rest.takeWhile Char.isDigit)),
        rest.dropWhile Char.isDigit) := by
  simp [exponent, isLetter, sign_append_digits isSign nonempty isDigits, nonempty,
    List.takeWhile_append_of_pos isDigits, List.dropWhile_append_of_pos isDigits]

theorem exponent_append_of_ends {power rest : List Char} (isExponent : IsExponent power)
    (ends : Ends isWordCharacter rest) : exponent (power ++ rest) = (power, rest) := by
  cases isExponent with
  | nothing =>
      cases rest with
      | nil => rfl
      | cons character rest =>
          have noWord := ends character rfl
          have noLetter : ¬(character = 'e' ∨ character = 'E') := by
            rintro (rfl | rfl) <;> exact absurd noWord (by decide)
          simp [exponent, noLetter]
  | @power letter signed digits isLetter isSign nonempty isDigits =>
      have noDigit : Ends Char.isDigit rest :=
        ends.mono (by simp +contextual [isWordCharacter, Char.isAlphanum])
      rw [exponent_power_append isLetter isSign nonempty isDigits, takeWhile_of_ends noDigit,
        dropWhile_of_ends noDigit, List.append_nil]

theorem ends_letter {letter : Char} (isLetter : letter = 'e' ∨ letter = 'E')
    (others : List Char) :
    Ends (fun character => character.isDigit || character == '.') (letter :: others) := by
  intro character mem
  rcases Option.some.inj mem with rfl
  rcases isLetter with rfl | rfl <;> decide

/-- What follows the digits before the exponent is neither a digit nor a dot. -/
theorem ends_exponent {power rest : List Char} (isExponent : IsExponent power)
    (ends : Ends (fun character => isWordCharacter character || character == '.') rest) :
    Ends (fun character => character.isDigit || character == '.') (power ++ rest) := by
  cases isExponent with
  | nothing =>
      apply ends.mono
      intro character continues
      rcases Bool.or_eq_true_iff.mp continues with isDigit | isDot
      · simp [isWordCharacter, Char.isAlphanum, isDigit]
      · simp [isDot]
  | power isLetter => exact ends_letter isLetter _

/-- Digits and a fraction are read whole in front of a text that does not continue them. -/
theorem numeral?_parts {whole part text : List Char}
    (isDigits : ∀ digit ∈ whole, digit.isDigit = true) (isFraction : IsFraction part)
    (digit : (whole ++ part).any Char.isDigit = true)
    (ends : Ends (fun character => character.isDigit || character == '.') text) :
    let numeral := whole ++ part ++ (exponent text).1
    numeral? (whole ++ (part ++ text)) =
      some ⟨.numeric, String.ofList numeral, numeral, (exponent text).2⟩ := by
  have wholeEnds : Ends Char.isDigit (part ++ text) := by
    cases isFraction with
    | nothing => exact ends.mono (by simp +contextual)
    | dot =>
        intro character mem
        rcases Option.some.inj mem with rfl
        decide
  simp only [numeral?, takeWhile_append_of_ends isDigits wholeEnds,
    dropWhile_append_of_ends isDigits wholeEnds, fraction_append_of_ends isFraction ends]
  rw [if_pos digit]

/-- A numeral is found if neither a word character nor a dot follows. -/
theorem numeral?_append {text rest : List Char} (isNumeral : IsNumeral text)
    (ends : Ends (fun character => isWordCharacter character || character == '.') rest) :
    numeral? (text ++ rest) = some ⟨.numeric, String.ofList text, text, rest⟩ := by
  rcases isNumeral with @⟨whole, part, power, isDigits, isFraction, isExponent, digit⟩
  have wordEnds : Ends isWordCharacter rest := ends.mono (by simp +contextual)
  have found := numeral?_parts isDigits isFraction digit (ends_exponent isExponent ends)
  rw [exponent_append_of_ends isExponent wordEnds] at found
  simpa using found

theorem head_of_isNumeral {text : List Char} (isNumeral : IsNumeral text) :
    ∃ first others, text = first :: others ∧ (first.isDigit = true ∨ first = '.') := by
  rcases isNumeral with @⟨whole, part, power, isDigits, isFraction, isExponent, digit⟩
  cases whole with
  | cons first whole => exact ⟨first, _, rfl, Or.inl (isDigits first List.mem_cons_self)⟩
  | nil =>
      cases isFraction with
      | nothing => simp at digit
      | dot => exact ⟨'.', _, rfl, Or.inr rfl⟩

theorem numeral?_of_not {character : Char} (noDigit : character.isDigit = false)
    (noDot : character ≠ '.') (others : List Char) : numeral? (character :: others) = none := by
  simp [numeral?, noDigit, fraction, noDot]

/-! ### Punctuation and comparisons -/

theorem ofSpelling_append (kind : TokenKind) (spelling rest : List Char) :
    ofSpelling kind spelling (spelling ++ rest) =
      ⟨kind, String.ofList spelling, spelling, rest⟩ := by
  simp [ofSpelling]

theorem beginsWith_append {option : List Char} (lowered : option.map Char.toLower = option)
    (rest : List Char) : beginsWith option (option ++ rest) = true := by
  rw [beginsWith_iff, List.map_append, lowered]
  exact List.prefix_append _ _

theorem symbol?_append (symbol : Symbol) (rest : List Char) :
    symbol? (symbol.text.toList ++ rest) =
      some ⟨.symbol, symbol.text, symbol.text.toList, rest⟩ := by
  have matched : longestMatch? (Symbol.all.map (·.text.toList)) (symbol.text.toList ++ rest) =
      some symbol.text.toList := by
    apply longestMatch?_eq_some
    · cases symbol <;> decide
    · cases symbol <;> decide
    · apply beginsWith_append
      cases symbol <;> decide
    · intro option mem _
      rcases List.mem_map.mp mem with ⟨other, -, rfl⟩
      cases symbol <;> cases other <;> decide
  rw [symbol?, matched, Option.map_some, ofSpelling_append, String.ofList_toList]

theorem operation?_append (operator : Operator) {rest : List Char} (ends : Ends (· == '=') rest) :
    operation? (operator.text.toList ++ rest) =
      some ⟨.operation, operator.text, operator.text.toList, rest⟩ := by
  have matched : longestMatch? (Operator.all.map (·.text.toList))
      (operator.text.toList ++ rest) = some operator.text.toList := by
    apply longestMatch?_eq_some
    · cases operator <;> decide
    · cases operator <;> decide
    · apply beginsWith_append
      cases operator <;> decide
    · intro option mem begins
      rw [beginsWith_iff] at begins
      cases rest with
      | nil => simpa using begins.length_le
      | cons character rest =>
          -- Every longer comparison ends in an equals sign.
          have different : '=' ≠ character.toLower := by
            intro same
            have noEqual := ends character rfl
            rw [eq_of_toLower_eq same.symm (by decide)] at noEqual
            exact absurd noEqual (by decide)
          rcases List.mem_map.mp mem with ⟨other, -, rfl⟩
          cases operator <;> cases other <;> simp_all [Operator.text]
  rw [operation?, matched, Option.map_some, ofSpelling_append, String.ofList_toList]

/-! ### The first character decides -/

theorem keyword?_of_not_isAlpha {character : Char} (noLetter : character.isAlpha = false)
    (others : List Char) : keyword? (character :: others) = none := by
  have none : longestMatch? (Keyword.all.map (·.text.toList)) (character :: others) = none := by
    apply longestMatch?_eq_none_of_head
    intro option mem same
    have small : (Keyword.all.map (·.text.toList)).all (·.head?.all Char.isLower) = true := by
      decide
    have isLower := List.all_eq_true.mp small option mem
    rw [same, Option.all_some] at isLower
    have codes := toNat_toLower character
    rw [isAlpha_eq, Bool.or_eq_false_iff] at noLetter
    rw [noLetter.1, if_neg (by decide), Char.toNat_inj] at codes
    rw [codes, noLetter.2] at isLower
    exact absurd isLower (by decide)
  simp [keyword?, none]

/-- Options that begin with marks match only behind one of these marks. -/
theorem longestMatch?_of_not_mem {options : List (List Char)} {marks : List Char}
    (heads : options.all (·.head?.all fun first => marks.contains first && !first.isLower) = true)
    {character : Char} (absent : character ∉ marks) (others : List Char) :
    longestMatch? options (character :: others) = none := by
  apply longestMatch?_eq_none_of_head
  intro option mem same
  have head := List.all_eq_true.mp heads option mem
  rw [same, Option.all_some, Bool.and_eq_true, List.contains_iff_mem, Bool.not_eq_true'] at head
  rcases head with ⟨isMark, noLetter⟩
  rw [← eq_of_toLower_eq rfl noLetter] at isMark
  exact absent isMark

theorem symbol?_of_not_mem {character : Char} (absent : character ∉ [',', ';', '*'])
    (others : List Char) : symbol? (character :: others) = none := by
  rw [symbol?, longestMatch?_of_not_mem (by decide) absent, Option.map_none]

theorem operation?_of_not_mem {character : Char} (absent : character ∉ ['=', '!', '>', '<'])
    (others : List Char) : operation? (character :: others) = none := by
  rw [operation?, longestMatch?_of_not_mem (by decide) absent, Option.map_none]

theorem word?_of_not_isAlpha {character : Char} (noLetter : character.isAlpha = false)
    (others : List Char) : word? (character :: others) = none := by
  simp [word?, noLetter]

/-! ### The class of a lexeme -/

/-- The character may continue a lexeme of some class. -/
def continuesLexeme (character : Char) : Bool :=
  isWordCharacter character || character == '.' || character == '\'' || character == '"' ||
    character == '='

/-- The text does not continue a lexeme that stands before it. -/
def Apart (rest : List Char) : Prop :=
  Ends continuesLexeme rest

namespace Apart

variable {rest : List Char}

theorem word (apart : Apart rest) : Ends isWordCharacter rest :=
  apart.mono (by simp +contextual [continuesLexeme])

theorem numeral (apart : Apart rest) :
    Ends (fun character => isWordCharacter character || character == '.') rest :=
  apart.mono (by simp +contextual [continuesLexeme])

theorem apostrophe (apart : Apart rest) : Ends (· == '\'') rest :=
  apart.mono (by simp +contextual [continuesLexeme])

theorem quotationMark (apart : Apart rest) : Ends (· == '"') rest :=
  apart.mono (by simp +contextual [continuesLexeme])

theorem equalsSign (apart : Apart rest) : Ends (· == '=') rest :=
  apart.mono (by simp +contextual [continuesLexeme])

end Apart

theorem read_keyword {keyword : Keyword} {word rest : List Char}
    (spelled : word.map Char.toLower = keyword.text.toList) (ends : Ends isWordCharacter rest) :
    read (word ++ rest) = .ok (some ⟨.keyword, keyword.text, word, rest⟩) := by
  simp [read, recognisers, firstFound, keyword?_append spelled ends]

theorem read_symbol (symbol : Symbol) (rest : List Char) :
    read (symbol.text.toList ++ rest) =
      .ok (some ⟨.symbol, symbol.text, symbol.text.toList, rest⟩) := by
  have noKeyword : keyword? (symbol.text.toList ++ rest) = none := by
    cases symbol <;> exact keyword?_of_not_isAlpha (by decide) _
  simp [read, recognisers, firstFound, noKeyword, symbol?_append]

/-- A character that begins neither a word nor punctuation leaves four classes. -/
theorem read_cons {character : Char} (noLetter : character.isAlpha = false)
    (noSymbol : character ∉ [',', ';', '*']) (others : List Char) :
    read (character :: others) =
      firstFound [quoted '\'' .string, fun text => .ok (numeral? text), identifier,
        fun text => .ok (operation? text)] (character :: others) := by
  simp [read, recognisers, firstFound, keyword?_of_not_isAlpha noLetter,
    symbol?_of_not_mem noSymbol]

theorem read_string (value : String) {rest : List Char} (ends : Ends (· == '\'') rest) :
    read (Quoted.enclose '\'' value.toList ++ rest) =
      .ok (some ⟨.string, value, Quoted.enclose '\'' value.toList, rest⟩) := by
  have found := quoted_enclose ends .string value
  rw [Quoted.enclose, List.cons_append] at found ⊢
  rw [read_cons (by decide) (by decide), firstFound, found]

theorem read_quotedName (value : String) {rest : List Char} (ends : Ends (· == '"') rest) :
    read (Quoted.enclose '"' value.toList ++ rest) =
      .ok (some ⟨.identifier, value, Quoted.enclose '"' value.toList, rest⟩) := by
  have found := quoted_enclose ends .identifier value
  rw [Quoted.enclose, List.cons_append] at found ⊢
  rw [read_cons (by decide) (by decide)]
  have noString (others : List Char) : quoted '\'' .string ('"' :: others) = .ok none :=
    quoted_of_ne (by decide) _ _
  have noNumeral (others : List Char) : numeral? ('"' :: others) = none :=
    numeral?_of_not (by decide) (by decide) _
  simp only [firstFound, noString, noNumeral, identifier, found]

/-- Where a numeral is found, nothing else is read. -/
theorem read_of_numeral? {text : List Char} {lexeme : Lexeme}
    (found : numeral? text = some lexeme) : read text = .ok (some lexeme) := by
  rcases head_of_isNumeral (isNumeral_of_numeral? found) with ⟨first, others, same, isFirst⟩
  have whole := (reads_of_numeral? found).append
  rw [same, List.cons_append] at whole
  subst whole
  have noLetter : first.isAlpha = false := by
    rcases isFirst with digit | rfl
    · exact isAlpha_eq_false_of_isDigit digit
    · decide
  have noSymbol : first ∉ [',', ';', '*'] := by
    intro mem
    simp only [List.mem_cons, List.not_mem_nil, or_false] at mem
    rcases mem with rfl | rfl | rfl <;> exact absurd isFirst (by decide)
  have noQuote : first ≠ '\'' := by
    rintro rfl
    exact absurd isFirst (by decide)
  rw [read_cons noLetter noSymbol]
  simp [firstFound, quoted_of_ne noQuote, found]

theorem read_numeral {text rest : List Char} (isNumeral : IsNumeral text)
    (ends : Ends (fun character => isWordCharacter character || character == '.') rest) :
    read (text ++ rest) = .ok (some ⟨.numeric, String.ofList text, text, rest⟩) :=
  read_of_numeral? (numeral?_append isNumeral ends)

theorem read_name {first : Char} {others rest : List Char} (letter : first.isAlpha = true)
    (inside : ∀ character ∈ others, isWordCharacter character = true)
    (ends : Ends isWordCharacter rest)
    (different : ∀ keyword : Keyword,
      (first :: others).map Char.toLower ≠ keyword.text.toList) :
    read (first :: others ++ rest) =
      .ok (some ⟨.identifier, String.ofList ((first :: others).map Char.toLower),
        first :: others, rest⟩) := by
  have insideAll : ∀ character ∈ first :: others, isWordCharacter character = true := by
    intro character mem
    rcases List.mem_cons.mp mem with rfl | mem
    · simp [isWordCharacter, Char.isAlphanum, letter]
    · exact inside character mem
  have noMark : first ∉ [',', ';', '*', '\'', '.', '"'] := by
    intro mem
    simp only [List.mem_cons, List.not_mem_nil, or_false] at mem
    rcases mem with rfl | rfl | rfl | rfl | rfl | rfl <;> exact absurd letter (by decide)
  have noDigit : first.isDigit = false := by
    rw [Bool.eq_false_iff]
    intro digit
    rw [isAlpha_eq_false_of_isDigit digit] at letter
    exact absurd letter (by decide)
  simp only [List.mem_cons, List.not_mem_nil, or_false, not_or] at noMark
  rcases noMark with ⟨noComma, noSemicolon, noAsterisk, noApostrophe, noDot, noQuotationMark⟩
  have noKeyword := keyword?_append_eq_none insideAll ends different
  have noSymbol : symbol? (first :: (others ++ rest)) = none :=
    symbol?_of_not_mem (by simp [noComma, noSemicolon, noAsterisk]) _
  have found := word?_append letter inside ends
  rw [List.cons_append] at found noKeyword ⊢
  simp [read, recognisers, firstFound, noKeyword, noSymbol, quoted_of_ne noApostrophe,
    numeral?_of_not noDigit noDot, identifier, quoted_of_ne noQuotationMark, found]

/-- Only comparisons begin with a character of none of the other classes. -/
theorem read_other {character : Char} (noLetter : character.isAlpha = false)
    (noDigit : character.isDigit = false)
    (noMark : character ∉ [',', ';', '*', '\'', '.', '"']) (others : List Char) :
    read (character :: others) = .ok (operation? (character :: others)) := by
  simp only [List.mem_cons, List.not_mem_nil, or_false, not_or] at noMark
  rcases noMark with ⟨noComma, noSemicolon, noAsterisk, noApostrophe, noDot, noQuotationMark⟩
  rw [read_cons noLetter (by simp [noComma, noSemicolon, noAsterisk])]
  simp only [firstFound, quoted_of_ne noApostrophe, numeral?_of_not noDigit noDot, identifier,
    quoted_of_ne noQuotationMark, word?_of_not_isAlpha noLetter]
  cases operation? (character :: others) <;> rfl

theorem read_operator (operator : Operator) (rest : List Char) :
    read (operator.text.toList ++ rest) = .ok (operation? (operator.text.toList ++ rest)) := by
  cases operator <;> exact read_other (by decide) (by decide) (by decide) _

theorem read_operation (operator : Operator) {rest : List Char} (ends : Ends (· == '=') rest) :
    read (operator.text.toList ++ rest) =
      .ok (some ⟨.operation, operator.text, operator.text.toList, rest⟩) := by
  rw [← operation?_append operator ends]
  exact read_operator operator rest

theorem read_blank {blank : Char} (white : isBlank blank = true) (others : List Char) :
    read (blank :: others) = .ok none := by
  have codes := toNat_of_isBlank white
  have noLetter : blank.isAlpha = false := by
    rw [Bool.eq_false_iff, Ne, isAlpha_iff]
    omega
  have noDigit : blank.isDigit = false := by
    rw [Bool.eq_false_iff, Ne, isDigit_iff]
    omega
  have noMark : blank ∉ [',', ';', '*', '\'', '.', '"'] ++ ['=', '!', '>', '<'] := by
    intro mem
    simp only [List.cons_append, List.nil_append, List.mem_cons, List.not_mem_nil, or_false]
      at mem
    rcases mem with rfl | rfl | rfl | rfl | rfl | rfl | rfl | rfl | rfl | rfl <;>
      exact absurd white (by decide)
  rw [List.mem_append, not_or] at noMark
  rw [read_other noLetter noDigit noMark.1, operation?_of_not_mem noMark.2]

end Lexeme

end CsvSelect.Query
