import CsvSelect.Proofs.Query.Recognition

/-!
# The forms of lexemes

Every lexeme that is read has one of seven forms (`form_of_read`), and every lexeme of such a form
is read from its own characters, whatever text stands behind them, if that text does not continue
the lexeme (`read_append_of_form`). Both directions together say what a lexeme is without regard to
the recogniser that finds it and to the text in which it was found.
-/

namespace CsvSelect.Query

open Text

namespace Lexeme

/-- The forms of a lexeme; the text behind it is left open. -/
inductive Form : Lexeme → Prop
  | keyword {keyword : Keyword} {text rest : List Char}
      (spelled : text.map Char.toLower = keyword.text.toList) :
      Form ⟨.keyword, keyword.text, text, rest⟩
  | symbol {symbol : Symbol} {rest : List Char} :
      Form ⟨.symbol, symbol.text, symbol.text.toList, rest⟩
  | string {value : String} {rest : List Char} :
      Form ⟨.string, value, Quoted.enclose '\'' value.toList, rest⟩
  | numeral {text rest : List Char} (isNumeral : IsNumeral text) :
      Form ⟨.numeric, String.ofList text, text, rest⟩
  | quotedName {value : String} {rest : List Char} :
      Form ⟨.identifier, value, Quoted.enclose '"' value.toList, rest⟩
  | name {first : Char} {others rest : List Char} (letter : first.isAlpha = true)
      (inside : ∀ character ∈ others, isWordCharacter character = true)
      (different : ∀ keyword : Keyword,
        (first :: others).map Char.toLower ≠ keyword.text.toList) :
      Form ⟨.identifier, String.ofList ((first :: others).map Char.toLower), first :: others, rest⟩
  | operation {operator : Operator} {rest : List Char} :
      Form ⟨.operation, operator.text, operator.text.toList, rest⟩

theorem Form.withRest {lexeme : Lexeme} (form : lexeme.Form) (rest : List Char) :
    Form { lexeme with rest := rest } := by
  cases form with
  | keyword spelled => exact .keyword spelled
  | symbol => exact .symbol
  | string => exact .string
  | numeral isNumeral => exact .numeral isNumeral
  | quotedName => exact .quotedName
  | name letter inside different => exact .name letter inside different
  | operation => exact .operation

/-- In front of a text that does not continue it, a lexeme is read as it stands. -/
theorem read_append_of_form {lexeme : Lexeme} (form : lexeme.Form) {rest : List Char}
    (apart : Apart rest) :
    read (lexeme.text ++ rest) = .ok (some { lexeme with rest := rest }) := by
  cases form with
  | keyword spelled => exact read_keyword spelled apart.word
  | symbol => exact read_symbol _ _
  | string => exact read_string _ apart.apostrophe
  | numeral isNumeral => exact read_numeral isNumeral apart.numeral
  | quotedName => exact read_quotedName _ apart.quotationMark
  | name letter inside different => exact read_name letter inside apart.word different
  | operation => exact read_operation _ apart.equalsSign

/-- Without letters in it, an option begins a text only if it is written there as it is. -/
theorem take_eq_of_beginsWith {option text : List Char} (begins : beginsWith option text = true)
    (noLetters : option.all (!·.isLower) = true) : text.take option.length = option := by
  have same : (text.take option.length).map Char.toLower = option := beq_iff_eq.mp begins
  calc text.take option.length
      = (text.take option.length).map Char.toLower := by
        apply (List.map_id _).symm.trans
        apply List.map_congr_left
        intro character mem
        have lowered : character.toLower ∈ option := same ▸ List.mem_map_of_mem mem
        have noLetter := List.all_eq_true.mp noLetters character.toLower lowered
        exact eq_of_toLower_eq rfl (by simpa using noLetter)
    _ = option := same

theorem form_of_keyword? {text : List Char} {lexeme : Lexeme}
    (found : keyword? text = some lexeme) : lexeme.Form := by
  simp only [keyword?] at found
  split at found
  · simp at found
  · next matched =>
      rcases of_longestMatch?_eq_some matched with ⟨mem, -, begins⟩
      rcases List.mem_map.mp mem with ⟨keyword, -, rfl⟩
      split at found
      · simp at found
      · rcases Option.some.inj found with rfl
        rw [ofSpelling, String.ofList_toList]
        exact .keyword (beq_iff_eq.mp begins)

theorem form_of_symbol? {text : List Char} {lexeme : Lexeme}
    (found : symbol? text = some lexeme) : lexeme.Form := by
  rcases Option.map_eq_some_iff.mp found with ⟨spelling, matched, rfl⟩
  rcases of_longestMatch?_eq_some matched with ⟨mem, -, begins⟩
  rcases List.mem_map.mp mem with ⟨symbol, -, rfl⟩
  have noLetters : symbol.text.toList.all (!·.isLower) = true := by
    cases symbol <;> decide
  rw [ofSpelling, String.ofList_toList, take_eq_of_beginsWith begins noLetters]
  exact .symbol

theorem form_of_operation? {text : List Char} {lexeme : Lexeme}
    (found : operation? text = some lexeme) : lexeme.Form := by
  rcases Option.map_eq_some_iff.mp found with ⟨spelling, matched, rfl⟩
  rcases of_longestMatch?_eq_some matched with ⟨mem, -, begins⟩
  rcases List.mem_map.mp mem with ⟨operator, -, rfl⟩
  have noLetters : operator.text.toList.all (!·.isLower) = true := by
    cases operator <;> decide
  rw [ofSpelling, String.ofList_toList, take_eq_of_beginsWith begins noLetters]
  exact .operation

theorem eq_of_quoted {delimiter : Char} {kind : TokenKind} {text : List Char} {lexeme : Lexeme}
    (found : quoted delimiter kind text = .ok (some lexeme)) :
    ∃ value rest, lexeme = ⟨kind, value, Quoted.enclose delimiter value.toList, rest⟩ := by
  simp only [quoted] at found
  split at found
  · simp at found
  · split at found
    · split at found
      · next value rest _ =>
          simp only [Except.ok.injEq, Option.some.injEq] at found
          exact ⟨String.ofList value, rest, by rw [← found, String.toList_ofList]⟩
      · simp at found
    · simp at found

theorem form_of_numeral? {text : List Char} {lexeme : Lexeme}
    (found : numeral? text = some lexeme) : lexeme.Form := by
  have isNumeral := isNumeral_of_numeral? found
  simp only [numeral?] at found
  split at found
  · rcases Option.some.inj found with rfl
    exact .numeral isNumeral
  · simp at found

/-- A word that is read as a name is no reserved word, since those are tried first. -/
theorem form_of_word? {text : List Char} {lexeme : Lexeme} (noKeyword : keyword? text = none)
    (found : word? text = some lexeme) : lexeme.Form := by
  simp only [word?] at found
  split at found
  · simp at found
  · next first others =>
      split at found
      · next letter =>
          rcases Option.some.inj found with rfl
          apply Form.name letter
          · exact fun character mem => List.mem_takeWhile_imp mem
          · intro keyword spelled
            have whole := keyword?_append spelled (ends_dropWhile isWordCharacter others)
            rw [List.cons_append, List.takeWhile_append_dropWhile, noKeyword] at whole
            simp at whole
      · simp at found

theorem exists_of_firstFound {recognisers : List (List Char → Recognition)} {text : List Char}
    {recognition : Recognition} (something : recognition ≠ .ok none)
    (found : firstFound recognisers text = recognition) :
    ∃ recognise ∈ recognisers, recognise text = recognition := by
  induction recognisers with
  | nil => exact absurd found.symm something
  | cons recognise others ih =>
      simp only [firstFound] at found
      split at found
      · rcases ih found with ⟨other, mem, same⟩
        exact ⟨other, List.mem_cons_of_mem _ mem, same⟩
      · exact ⟨recognise, List.mem_cons_self, found⟩

/-- Whatever is read has one of the forms. -/
theorem form_of_read {text : List Char} {lexeme : Lexeme}
    (found : read text = .ok (some lexeme)) : lexeme.Form := by
  cases keyword : keyword? text with
  | some word =>
      have first : read text = .ok (some word) := by
        simp [read, recognisers, firstFound, keyword]
      rw [first, Except.ok.injEq, Option.some.injEq] at found
      exact found ▸ form_of_keyword? keyword
  | none =>
      rcases exists_of_firstFound (by simp) found with ⟨recognise, mem, found⟩
      simp only [recognisers, List.mem_cons, List.not_mem_nil, or_false] at mem
      rcases mem with rfl | rfl | rfl | rfl | rfl | rfl
      · exact form_of_keyword? (Except.ok.inj found)
      · exact form_of_symbol? (Except.ok.inj found)
      · rcases eq_of_quoted found with ⟨value, rest, rfl⟩
        exact .string
      · exact form_of_numeral? (Except.ok.inj found)
      · simp only [identifier] at found
        split at found
        · exact form_of_word? keyword (Except.ok.inj found)
        · rcases eq_of_quoted found with ⟨value, rest, rfl⟩
          exact .quotedName
      · exact form_of_operation? (Except.ok.inj found)

end Lexeme

end CsvSelect.Query
