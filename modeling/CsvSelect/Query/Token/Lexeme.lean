import CsvSelect.Query.Token

/-!
# Lexemes

A recogniser reads one lexeme from the front of a text. The classes are tried in a fixed order, and
the first class that finds a lexeme decides: reserved words, punctuation, quoted texts, numerals,
names, comparisons. A quoted text without a closing delimiter ends the search with a failure.

A lexeme is made of the characters it was read from. There is at least one, and the text is those
characters followed by the rest (`Lexeme.Reads`); this is why reading a text lexeme by lexeme comes
to an end.
-/

namespace CsvSelect.Query

open Text

/-- A classified piece at the front of a text, and what follows it. -/
structure Lexeme where
  kind : TokenKind
  value : String
  text : List Char
  rest : List Char

/-- What a recogniser finds: a lexeme, nothing, or a quoted text opened by this delimiter only. -/
abbrev Recognition := Except Char (Option Lexeme)

/-- The option is the beginning of the text, apart from the case of ASCII letters in the text. -/
def beginsWith (option text : List Char) : Bool :=
  (text.take option.length).map Char.toLower == option

/--
The longest option that is the beginning of the text, apart from the case of ASCII letters in the
text. The empty option is never taken.
-/
def longestMatch? (options : List (List Char)) (text : List Char) : Option (List Char) :=
  let longest := options.foldl
    (fun best option =>
      if beginsWith option text && best.length < option.length then option else best) []
  if longest.isEmpty then none else some longest

namespace Lexeme

/-- The lexeme of this kind that `spelling` is the value of, written at the front of the text. -/
def ofSpelling (kind : TokenKind) (spelling text : List Char) : Lexeme where
  kind := kind
  value := String.ofList spelling
  text := text.take spelling.length
  rest := text.drop spelling.length

/-- A reserved word that no word character continues. -/
def keyword? (text : List Char) : Option Lexeme :=
  match longestMatch? (Keyword.all.map (·.text.toList)) text with
  | none => none
  | some spelling =>
      let lexeme := ofSpelling .keyword spelling text
      if lexeme.rest.head?.any isWordCharacter then none else some lexeme

/-- A mark of punctuation. -/
def symbol? (text : List Char) : Option Lexeme :=
  (longestMatch? (Symbol.all.map (·.text.toList)) text).map (ofSpelling .symbol · text)

/-- A comparison. -/
def operation? (text : List Char) : Option Lexeme :=
  (longestMatch? (Operator.all.map (·.text.toList)) text).map (ofSpelling .operation · text)

/-- A text between two delimiters, in which a doubled delimiter stands for one. -/
def quoted (delimiter : Char) (kind : TokenKind) : List Char → Recognition
  | [] => .ok none
  | character :: inside =>
      if character = delimiter then
        match Quoted.scanBody? delimiter [] inside with
        | some (value, rest) =>
            .ok (some ⟨kind, String.ofList value, Quoted.enclose delimiter value, rest⟩)
        | none => .error delimiter
      else .ok none

/-- A dot and the digits after it, and what follows; without a dot at the front, nothing. -/
def fraction : List Char → List Char × List Char
  | '.' :: text => ('.' :: text.takeWhile Char.isDigit, text.dropWhile Char.isDigit)
  | text => ([], text)

/-- A sign, and what follows; without one at the front, nothing. -/
def sign : List Char → List Char × List Char
  | '+' :: text => (['+'], text)
  | '-' :: text => (['-'], text)
  | text => ([], text)

/--
The letter of an exponent, a sign if there is one, and digits; if one part is missing, nothing.
-/
def exponent : List Char → List Char × List Char
  | [] => ([], [])
  | letter :: text =>
      let (signed, digits) := sign text
      let power := digits.takeWhile Char.isDigit
      if (letter = 'e' || letter = 'E') && !power.isEmpty then
        (letter :: (signed ++ power), digits.dropWhile Char.isDigit)
      else ([], letter :: text)

/--
A numeral: digits with a dot before, among or after them, of which at least one must be there, and
then an exponent if there is one.
-/
def numeral? (text : List Char) : Option Lexeme :=
  let whole := text.takeWhile Char.isDigit
  let (part, afterPart) := fraction (text.dropWhile Char.isDigit)
  if (whole ++ part).any Char.isDigit then
    let (power, rest) := exponent afterPart
    let numeral := whole ++ part ++ power
    some ⟨.numeric, String.ofList numeral, numeral, rest⟩
  else none

/-- A word: an ASCII letter and the word characters after it, taken in lower case. -/
def word? : List Char → Option Lexeme
  | [] => none
  | first :: others =>
      if first.isAlpha then
        let word := first :: others.takeWhile isWordCharacter
        some ⟨.identifier, String.ofList (word.map Char.toLower), word,
          others.dropWhile isWordCharacter⟩
      else none

/-- A name: a text between double quotes, or a word. -/
def identifier (text : List Char) : Recognition :=
  match quoted '"' .identifier text with
  | .ok none => .ok (word? text)
  | found => found

/-- The recognisers of all classes, in the order in which they are tried. -/
def recognisers : List (List Char → Recognition) :=
  [fun text => .ok (keyword? text), fun text => .ok (symbol? text), quoted '\'' .string,
    fun text => .ok (numeral? text), identifier, fun text => .ok (operation? text)]

/-- What the first of the recognisers finds that finds anything. -/
def firstFound : List (List Char → Recognition) → List Char → Recognition
  | [], _ => .ok none
  | recognise :: others, text =>
      match recognise text with
      | .ok none => firstFound others text
      | found => found

/-- The lexeme at the front of the text. -/
def read (text : List Char) : Recognition :=
  firstFound recognisers text

/-- The lexeme stands at the front of the text and has at least one character. -/
structure Reads (lexeme : Lexeme) (text : List Char) : Prop where
  ne_nil : lexeme.text ≠ []
  append : lexeme.text ++ lexeme.rest = text

theorem Reads.length_rest_lt {lexeme : Lexeme} {text : List Char} (reads : lexeme.Reads text) :
    lexeme.rest.length < text.length := by
  have positive := List.length_pos_iff.2 reads.ne_nil
  have total := congrArg List.length reads.append
  simp only [List.length_append] at total
  omega

end Lexeme

/-- The longest match is one of the options, is not empty, and begins the text. -/
theorem of_longestMatch?_eq_some {options : List (List Char)} {text spelling : List Char}
    (found : longestMatch? options text = some spelling) :
    spelling ∈ options ∧ spelling ≠ [] ∧ beginsWith spelling text = true := by
  have kept : ∀ (options : List (List Char)) (best : List Char),
      options.foldl (fun best option =>
        if beginsWith option text && best.length < option.length then option else best) best
          = best ∨
      (options.foldl (fun best option =>
        if beginsWith option text && best.length < option.length then option else best) best
          ∈ options ∧
      beginsWith (options.foldl (fun best option =>
        if beginsWith option text && best.length < option.length then option else best) best)
          text = true) := by
    intro options
    induction options with
    | nil => simp
    | cons option options ih =>
        intro best
        simp only [List.foldl_cons, List.mem_cons]
        split
        · next taken =>
            rcases ih option with same | ⟨mem, begins⟩
            · right
              rw [same]
              exact ⟨.inl rfl, by simp_all⟩
            · exact .inr ⟨.inr mem, begins⟩
        · rcases ih best with same | ⟨mem, begins⟩
          · exact .inl same
          · exact .inr ⟨.inr mem, begins⟩
  unfold longestMatch? at found
  simp only at found
  split at found
  · simp at found
  · next nonempty =>
      obtain rfl := Option.some.inj found
      rcases kept options [] with same | ⟨mem, begins⟩
      · rw [same] at nonempty
        simp at nonempty
      · exact ⟨mem, by simpa using nonempty, begins⟩

namespace Lexeme

theorem reads_ofSpelling {kind : TokenKind} {spelling text : List Char} (nonempty : spelling ≠ [])
    (begins : beginsWith spelling text = true) : (ofSpelling kind spelling text).Reads text where
  ne_nil := by
    intro none
    simp only [beginsWith, beq_iff_eq] at begins
    rw [show text.take spelling.length = [] from none] at begins
    exact nonempty begins.symm
  append := List.take_append_drop ..

theorem reads_of_keyword? {text : List Char} {lexeme : Lexeme}
    (found : keyword? text = some lexeme) : lexeme.Reads text := by
  unfold keyword? at found
  split at found
  · simp at found
  · next matched =>
      obtain ⟨-, nonempty, begins⟩ := of_longestMatch?_eq_some matched
      simp only at found
      split at found
      · simp at found
      · obtain rfl := Option.some.inj found
        exact reads_ofSpelling nonempty begins

theorem reads_of_longestMatch? {kind : TokenKind} {options : List (List Char)} {text : List Char}
    {lexeme : Lexeme}
    (found : (longestMatch? options text).map (ofSpelling kind · text) = some lexeme) :
    lexeme.Reads text := by
  obtain ⟨spelling, matched, rfl⟩ := Option.map_eq_some_iff.1 found
  obtain ⟨-, nonempty, begins⟩ := of_longestMatch?_eq_some matched
  exact reads_ofSpelling nonempty begins

theorem reads_of_quoted {delimiter : Char} {kind : TokenKind} {text : List Char} {lexeme : Lexeme}
    (found : quoted delimiter kind text = .ok (some lexeme)) : lexeme.Reads text := by
  unfold quoted at found
  split at found
  · simp at found
  · split at found
    · next same =>
        split at found
        · next scanned =>
            simp only [Except.ok.injEq, Option.some.injEq] at found
            subst found same
            refine ⟨by simp [Quoted.enclose], ?_⟩
            simpa [Quoted.enclose] using (Quoted.double_append_of_scanBody? scanned).symm
        · simp at found
    · simp at found

theorem fraction_append (text : List Char) : (fraction text).1 ++ (fraction text).2 = text := by
  unfold fraction
  split <;> simp

theorem sign_append (text : List Char) : (sign text).1 ++ (sign text).2 = text := by
  unfold sign
  split <;> simp

theorem exponent_append (text : List Char) : (exponent text).1 ++ (exponent text).2 = text := by
  unfold exponent
  split
  · simp
  · next letter text =>
      simp only
      split
      · conv => rhs; rw [← sign_append text]
        simp
      · simp

theorem reads_of_numeral? {text : List Char} {lexeme : Lexeme}
    (found : numeral? text = some lexeme) : lexeme.Reads text := by
  unfold numeral? at found
  simp only at found
  split at found
  · next digit =>
      obtain rfl := Option.some.inj found
      constructor
      · intro none
        simp only [List.append_eq_nil_iff] at none
        simp [none.1.1, none.1.2] at digit
      · simp only [List.append_assoc, exponent_append, fraction_append]
        exact List.takeWhile_append_dropWhile
  · simp at found

theorem reads_of_word? {text : List Char} {lexeme : Lexeme} (found : word? text = some lexeme) :
    lexeme.Reads text := by
  unfold word? at found
  split at found
  · simp at found
  · split at found
    · obtain rfl := Option.some.inj found
      exact ⟨by simp, by simp⟩
    · simp at found

theorem reads_of_identifier {text : List Char} {lexeme : Lexeme}
    (found : identifier text = .ok (some lexeme)) : lexeme.Reads text := by
  unfold identifier at found
  split at found
  · exact reads_of_word? (Except.ok.inj found)
  · exact reads_of_quoted found

theorem reads_of_firstFound {recognisers : List (List Char → Recognition)} {text : List Char}
    (sound : ∀ recognise ∈ recognisers, ∀ lexeme,
      recognise text = .ok (some lexeme) → lexeme.Reads text)
    {lexeme : Lexeme} (found : firstFound recognisers text = .ok (some lexeme)) :
    lexeme.Reads text := by
  induction recognisers with
  | nil => simp [firstFound] at found
  | cons recognise others ih =>
      unfold firstFound at found
      split at found
      · exact ih (fun other mem => sound other (List.mem_cons_of_mem _ mem)) found
      · exact sound recognise List.mem_cons_self lexeme found

/-- Every lexeme that is read stands at the front of the text and has a character. -/
theorem reads_of_read {text : List Char} {lexeme : Lexeme} (found : read text = .ok (some lexeme)) :
    lexeme.Reads text := by
  refine reads_of_firstFound ?_ found
  simp only [recognisers, List.mem_cons, List.not_mem_nil, or_false, forall_eq_or_imp, forall_eq,
    Except.ok.injEq]
  exact ⟨fun _ => reads_of_keyword?, fun _ => reads_of_longestMatch?, fun _ => reads_of_quoted,
    fun _ => reads_of_numeral?, fun _ => reads_of_identifier, fun _ => reads_of_longestMatch?⟩

end Lexeme

end CsvSelect.Query
