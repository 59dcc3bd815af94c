import CsvSelect.Proofs.Query.Munch

/-!
# Numerals read by index

A numeral can also be found in one pass over the characters of a query, from an index onwards. The
pass remembers whether it has met a digit, a dot and an exponent. At the letter of an exponent it
looks ahead for a digit, behind a sign if there is one, and then steps over the letter and the sign.

This file writes the pass down with every character taken by its index, so that it has no result if
a character is taken that the query does not have (`NumeralScan.run`). The pass always has a result,
and it is the numeral that is read from what is left of the query (`numeralAt?_eq`). The induction
follows the parts of a numeral: a run of digits, the dot, the exponent.
-/

namespace CsvSelect.Query

open Text

/-! ### The pass -/

/-- A place in a query: the number of characters before it, and its position. -/
structure Cursor where
  index : Nat
  location : Location := {}

namespace Cursor

def advance (cursor : Cursor) (character : Char) : Cursor where
  index := cursor.index + 1
  location := cursor.location.after character

/-- The place behind a text that begins here. -/
def afterText (cursor : Cursor) (text : List Char) : Cursor where
  index := cursor.index + text.length
  location := cursor.location.afterText text

/-- The place so many characters on, unless one of them is outside the query. -/
def advance? (query : List Char) : Nat → Cursor → Option Cursor
  | 0, cursor => some cursor
  | steps + 1, cursor =>
      match query[cursor.index]? with
      | none => none
      | some character => advance? query steps (cursor.advance character)

end Cursor

/-- The characters from one index up to another, unless they are not all in the query. -/
def slice? (query : List Char) (start stop : Nat) : Option (List Char) :=
  if start ≤ stop ∧ stop ≤ query.length then some ((query.drop start).take (stop - start))
  else none

/-- How far the pass has come, and what it has met on the way. -/
structure NumeralScan where
  cursor : Cursor
  digit : Bool := false
  dot : Bool := false
  exponent : Bool := false

namespace NumeralScan

inductive Turn where
  | finish
  | onward (scan : NumeralScan)
  /-- A character outside the query was taken. -/
  | outside

/-- The number of characters from the letter of an exponent, which has this index, to its digits. -/
def markCount (query : List Char) (index : Nat) : Nat :=
  if query[index + 1]? = some '+' ∨ query[index + 1]? = some '-' then 2 else 1

/-- What the pass does at the letter of an exponent. -/
def exponentTurn (query : List Char) (scan : NumeralScan) : Turn :=
  let steps := markCount query scan.cursor.index
  if query[scan.cursor.index + steps]?.any Char.isDigit then
    match scan.cursor.advance? query steps with
    | none => .outside
    | some cursor => .onward { scan with cursor, dot := true, exponent := true }
  else .finish

/-- What the pass does at the next character. -/
def turn (query : List Char) (scan : NumeralScan) : Turn :=
  match query[scan.cursor.index]? with
  | none => .finish
  | some character =>
      if character.isDigit then
        .onward { scan with cursor := scan.cursor.advance character, digit := true }
      else if character = '.' then
        if scan.dot then .finish
        else .onward { scan with cursor := scan.cursor.advance character, dot := true }
      else if (character = 'e' ∨ character = 'E') ∧ scan.digit ∧ !scan.exponent then
        scan.exponentTurn query
      else .finish

theorem index_of_advance? {query : List Char} {steps : Nat} {cursor next : Cursor}
    (advanced : cursor.advance? query steps = some next) : next.index = cursor.index + steps := by
  induction steps generalizing cursor with
  | zero =>
      rw [Cursor.advance?, Option.some.injEq] at advanced
      rw [← advanced, Nat.add_zero]
  | succ steps ih =>
      rw [Cursor.advance?] at advanced
      split at advanced
      · simp at advanced
      · have index := ih advanced
        simp only [Cursor.advance] at index
        omega

theorem index_lt_of_exponentTurn {query : List Char} {scan next : NumeralScan}
    (step : scan.exponentTurn query = .onward next) : scan.cursor.index < next.cursor.index := by
  simp only [exponentTurn] at step
  split at step
  · split at step
    · simp at step
    · next advanced =>
        have positive : 0 < markCount query scan.cursor.index := by
          rw [markCount]
          split <;> decide
        rw [← Turn.onward.inj step, index_of_advance? advanced]
        exact Nat.lt_add_of_pos_right positive
  · simp at step

/-- Every turn that goes on takes a character of the query. -/
theorem index_lt_of_turn {query : List Char} {scan next : NumeralScan}
    (step : scan.turn query = .onward next) :
    scan.cursor.index < next.cursor.index ∧ scan.cursor.index < query.length := by
  simp only [turn] at step
  split at step
  · simp at step
  · next found =>
      refine ⟨?_, (List.getElem?_eq_some_iff.mp found).1⟩
      split at step
      · rcases Turn.onward.inj step with rfl
        exact Nat.lt_succ_self _
      · split at step
        · split at step
          · simp at step
          · rcases Turn.onward.inj step with rfl
            exact Nat.lt_succ_self _
        · split at step
          · exact index_lt_of_exponentTurn step
          · simp at step

/-- The pass to its end, unless a character outside the query is taken on the way. -/
def run (query : List Char) (scan : NumeralScan) : Option NumeralScan :=
  match _step : scan.turn query with
  | .finish => some scan
  | .outside => none
  | .onward next => run query next
termination_by query.length - scan.cursor.index
decreasing_by
  have := index_lt_of_turn _step
  omega

end NumeralScan

/--
The numeral that begins at the cursor, as a token, with the place behind it, if there is one. There
is no result if a character outside the query is taken.
-/
def numeralAt? (query : List Char) (cursor : Cursor) : Option (Option (Token × Cursor)) :=
  match NumeralScan.run query { cursor } with
  | none => none
  | some scan =>
      if scan.digit then
        match slice? query cursor.index scan.cursor.index with
        | none => none
        | some spelling =>
            some (some (⟨.numeric, String.ofList spelling, cursor.location⟩, scan.cursor))
      else some none

/-! ### Places and what is left -/

@[simp]
theorem Cursor.afterText_nil (cursor : Cursor) : cursor.afterText [] = cursor := rfl

@[simp]
theorem Cursor.afterText_cons (cursor : Cursor) (character : Char) (text : List Char) :
    cursor.afterText (character :: text) = (cursor.advance character).afterText text := by
  simp [afterText, advance, Location.afterText, Nat.add_assoc, Nat.add_comm 1]

theorem Cursor.afterText_append (cursor : Cursor) (text more : List Char) :
    cursor.afterText (text ++ more) = (cursor.afterText text).afterText more := by
  simp [afterText, Nat.add_assoc]

section

variable {query text : List Char} {index : Nat} (left : query.drop index = text)
include left

theorem getElem?_of_drop (offset : Nat) : query[index + offset]? = text[offset]? := by
  rw [← left, List.getElem?_drop]

theorem drop_of_drop_append {front rest : List Char} (split : text = front ++ rest) :
    query.drop (index + front.length) = rest := by
  rw [← List.drop_drop, left, split, List.drop_left]

end

/-- Behind one character the characters after it are left. -/
theorem drop_succ_of_drop_cons {query rest : List Char} {index : Nat} {character : Char}
    (left : query.drop index = character :: rest) : query.drop (index + 1) = rest :=
  drop_of_drop_append left (List.singleton_append (l := rest)).symm

theorem Cursor.advance?_eq {query front rest : List Char} {cursor : Cursor}
    (left : query.drop cursor.index = front ++ rest) :
    cursor.advance? query front.length = some (cursor.afterText front) := by
  induction front generalizing cursor with
  | nil => rfl
  | cons character front ih =>
      have here : query[cursor.index]? = some character := getElem?_of_drop left 0
      have further : query.drop (cursor.advance character).index = front ++ rest :=
        drop_succ_of_drop_cons left
      rw [List.length_cons, advance?, afterText_cons, ← ih further]
      simp only [here]

theorem slice?_eq {query front rest : List Char} {start : Nat}
    (left : query.drop start = front ++ rest) (nonempty : front ≠ []) :
    slice? query start (start + front.length) = some front := by
  have lengths := congrArg List.length left
  have positive := List.length_pos_iff.mpr nonempty
  rw [List.length_drop, List.length_append] at lengths
  have inside : start ≤ start + front.length ∧ start + front.length ≤ query.length := by
    omega
  rw [slice?, if_pos inside, left, Nat.add_sub_cancel_left, List.take_left]

namespace NumeralScan

variable {query text rest : List Char} {scan next : NumeralScan}

/-! ### One turn -/

theorem turn_digit {character : Char} (left : query.drop scan.cursor.index = character :: rest)
    (isDigit : character.isDigit = true) :
    scan.turn query =
      .onward { scan with cursor := scan.cursor.advance character, digit := true } := by
  have here : query[scan.cursor.index]? = some character := getElem?_of_drop left 0
  simp only [turn, here, isDigit, if_true]

theorem turn_dot (left : query.drop scan.cursor.index = '.' :: rest) (new : scan.dot = false) :
    scan.turn query = .onward { scan with cursor := scan.cursor.advance '.', dot := true } := by
  have here : query[scan.cursor.index]? = some '.' := getElem?_of_drop left 0
  have noDigit : Char.isDigit '.' = false := by decide
  simp [turn, here, noDigit, new]

/-- The letter of an exponent and its sign are the front of what is left. -/
theorem cons_sign_append (letter : Char) (rest : List Char) :
    letter :: (Lexeme.sign rest).1 ++ (Lexeme.sign rest).2 = letter :: rest := by
  rw [List.cons_append, Lexeme.sign_append]

/-- The look-ahead passes the sign of an exponent, if it has one. -/
theorem markCount_eq {letter : Char} {index : Nat} (left : query.drop index = letter :: rest) :
    markCount query index = (letter :: (Lexeme.sign rest).1).length := by
  have behind : query[index + 1]? = rest[0]? := getElem?_of_drop left 1
  rw [markCount, behind]
  cases rest with
  | nil => rfl
  | cons first rest =>
      by_cases plus : first = '+'
      · subst plus
        rfl
      · by_cases minus : first = '-'
        · subst minus
          rfl
        · simp [Lexeme.sign, plus, minus]

/-- At the letter of an exponent the pass goes on to the digits, if there are any. -/
theorem turn_letter {letter : Char} (left : query.drop scan.cursor.index = letter :: rest)
    (isLetter : letter = 'e' ∨ letter = 'E') (seen : scan.digit = true)
    (new : scan.exponent = false) :
    scan.turn query =
      if (Lexeme.sign rest).2.head?.any Char.isDigit then
        .onward { scan with
          cursor := scan.cursor.afterText (letter :: (Lexeme.sign rest).1)
          dot := true
          exponent := true }
      else .finish := by
  have here : query[scan.cursor.index]? = some letter := getElem?_of_drop left 0
  have noDigit : letter.isDigit = false := by
    rcases isLetter with rfl | rfl <;> decide
  have noDot : letter ≠ '.' := by
    rcases isLetter with rfl | rfl <;> decide
  have split := (cons_sign_append letter rest).symm
  have ahead : query[scan.cursor.index + markCount query scan.cursor.index]? =
      (Lexeme.sign rest).2.head? := by
    rw [markCount_eq left, List.head?_eq_getElem?]
    exact getElem?_of_drop (drop_of_drop_append left split) 0
  have advanced : scan.cursor.advance? query (markCount query scan.cursor.index) =
      some (scan.cursor.afterText (letter :: (Lexeme.sign rest).1)) := by
    rw [markCount_eq left]
    exact Cursor.advance?_eq (left.trans split)
  simp [turn, here, noDigit, noDot, isLetter, seen, new, exponentTurn, ahead, advanced]

/-- Where nothing goes on, the pass stops. -/
theorem turn_finish (left : query.drop scan.cursor.index = text) (noDigit : Ends Char.isDigit text)
    (noDot : scan.dot = true ∨ text.head? ≠ some '.')
    (noLetter : scan.digit = false ∨ scan.exponent = true ∨
      ∀ letter ∈ text.head?, ¬(letter = 'e' ∨ letter = 'E')) :
    scan.turn query = .finish := by
  have here : query[scan.cursor.index]? = text[0]? := getElem?_of_drop left 0
  cases text with
  | nil => simp [turn, here]
  | cons character rest =>
      have notDigit := noDigit character rfl
      have notExponent :
          ¬((character = 'e' ∨ character = 'E') ∧ scan.digit ∧ !scan.exponent) := by
        rintro ⟨isLetter, seen, new⟩
        rcases noLetter with unseen | old | none
        · simp [unseen] at seen
        · simp [old] at new
        · exact none character rfl isLetter
      have stopsAtDot : character = '.' → scan.dot = true := by
        rintro rfl
        exact noDot.resolve_right (fun other => other rfl)
      simp only [turn, here, List.getElem?_cons_zero, notDigit, if_neg notExponent]
      by_cases isDot : character = '.'
      · simp [isDot, stopsAtDot isDot]
      · simp [isDot]

/-! ### The pass over the parts of a numeral -/

/-- An exponent needs a digit behind the letter and the sign. -/
theorem exponent_cons (letter : Char) (rest : List Char) :
    (Lexeme.exponent (letter :: rest)).1 =
      if (letter = 'e' ∨ letter = 'E') ∧ (Lexeme.sign rest).2.head?.any Char.isDigit then
        letter :: ((Lexeme.sign rest).1 ++ (Lexeme.sign rest).2.takeWhile Char.isDigit)
      else [] := by
  have ahead : (!((Lexeme.sign rest).2.takeWhile Char.isDigit).isEmpty) =
      (Lexeme.sign rest).2.head?.any Char.isDigit := by
    cases (Lexeme.sign rest).2 with
    | nil => rfl
    | cons digit digits => cases isDigit : digit.isDigit <;> simp [isDigit]
  simp only [Lexeme.exponent, ahead, Bool.and_eq_true, Bool.or_eq_true, decide_eq_true_eq]
  split <;> rfl

/-- The pass comes to its end behind this text, and has then met a digit or not. -/
def Finishes (query : List Char) (scan : NumeralScan) (front : List Char) (digit : Bool) : Prop :=
  ∃ final, run query scan = some final ∧ final.cursor = scan.cursor.afterText front ∧
    final.digit = digit

theorem finishes_of_finish {digit : Bool} (stops : scan.turn query = .finish)
    (met : scan.digit = digit) : Finishes query scan [] digit := by
  refine ⟨scan, ?_, rfl, met⟩
  rw [run]
  split <;> simp_all

theorem finishes_of_onward {front more : List Char} {digit : Bool}
    (step : scan.turn query = .onward next) (passed : next.cursor = scan.cursor.afterText front)
    (finishes : Finishes query next more digit) : Finishes query scan (front ++ more) digit := by
  rcases finishes with ⟨final, ran, cursor, same⟩
  refine ⟨final, ?_, by rw [cursor, passed, Cursor.afterText_append], same⟩
  rw [run]
  split <;> simp_all

/-- The pass behind a run of digits. -/
def afterDigits (scan : NumeralScan) (digits : List Char) : NumeralScan :=
  { scan with
    cursor := scan.cursor.afterText digits
    digit := scan.digit || digits.any Char.isDigit }

theorem finishes_run {digits front : List Char} {digit : Bool}
    (isDigits : ∀ character ∈ digits, character.isDigit = true)
    (left : query.drop scan.cursor.index = digits ++ rest)
    (finishes : Finishes query (scan.afterDigits digits) front digit) :
    Finishes query scan (digits ++ front) digit := by
  induction digits generalizing scan with
  | nil => simpa [afterDigits] using finishes
  | cons character digits ih =>
      rcases List.forall_mem_cons.mp isDigits with ⟨isDigit, areDigits⟩
      have step := turn_digit left isDigit
      apply finishes_of_onward step (Cursor.afterText_cons _ _ []).symm
      apply ih areDigits (drop_succ_of_drop_cons left)
      simpa [afterDigits, isDigit] using finishes

section

variable (left : query.drop scan.cursor.index = text)
include left

/-- The digits in front are passed, and from then on a digit has been met if there are any. -/
theorem finishes_digits {front : List Char} {digit : Bool}
    (finishes : Finishes query (scan.afterDigits (text.takeWhile Char.isDigit)) front digit) :
    Finishes query scan (text.takeWhile Char.isDigit ++ front) digit := by
  have isDigits : ∀ character ∈ text.takeWhile Char.isDigit, character.isDigit = true :=
    fun _ mem => List.mem_takeWhile_imp mem
  exact finishes_run isDigits (left.trans List.takeWhile_append_dropWhile.symm) finishes

theorem left_afterDigits :
    query.drop (scan.afterDigits (text.takeWhile Char.isDigit)).cursor.index =
      text.dropWhile Char.isDigit :=
  drop_of_drop_append left List.takeWhile_append_dropWhile.symm

/-- In an exponent nothing is passed but digits. -/
theorem finishes_power (seen : scan.digit = true) (afterDot : scan.dot = true)
    (inExponent : scan.exponent = true) :
    Finishes query scan (text.takeWhile Char.isDigit) true := by
  have stops := turn_finish (left_afterDigits left) (ends_dropWhile Char.isDigit text)
    (Or.inl afterDot) (Or.inr (Or.inl inExponent))
  have finishes := finishes_digits left (finishes_of_finish stops rfl)
  simpa [afterDigits, seen] using finishes

/-- Behind the mantissa the pass takes the exponent, if a digit has been met. -/
theorem finishes_exponent (noDigit : Ends Char.isDigit text)
    (noDot : scan.dot = true ∨ text.head? ≠ some '.') (new : scan.exponent = false) :
    Finishes query scan (if scan.digit then (Lexeme.exponent text).1 else []) scan.digit := by
  cases seen : scan.digit with
  | false => exact finishes_of_finish (turn_finish left noDigit noDot (Or.inl seen)) seen
  | true =>
      rw [if_pos rfl]
      cases text with
      | nil =>
          have stops := turn_finish left noDigit noDot (Or.inr (Or.inr (by simp)))
          exact finishes_of_finish stops seen
      | cons letter rest =>
          rw [exponent_cons]
          by_cases isLetter : letter = 'e' ∨ letter = 'E'
          · have step := turn_letter left isLetter seen new
            by_cases ahead : (Lexeme.sign rest).2.head?.any Char.isDigit = true
            · rw [if_pos ahead] at step
              rw [if_pos ⟨isLetter, ahead⟩, ← List.cons_append]
              apply finishes_of_onward step rfl
              have behind := drop_of_drop_append left (cons_sign_append letter rest).symm
              exact finishes_power behind seen rfl rfl
            · rw [if_neg ahead] at step
              rw [if_neg fun complete => ahead complete.2]
              exact finishes_of_finish step seen
          · rw [if_neg fun complete => isLetter complete.1]
            have stops := turn_finish left noDigit noDot
              (Or.inr (Or.inr fun other same => Option.some.inj same ▸ isLetter))
            exact finishes_of_finish stops seen

/-- Behind the dot the pass takes digits and the exponent. -/
theorem finishes_fraction (afterDot : scan.dot = true) (new : scan.exponent = false) :
    let digits := text.takeWhile Char.isDigit
    let met := scan.digit || digits.any Char.isDigit
    Finishes query scan
      (digits ++ if met then (Lexeme.exponent (text.dropWhile Char.isDigit)).1 else []) met :=
  finishes_digits left (finishes_exponent (left_afterDigits left) (ends_dropWhile _ _)
    (Or.inl afterDot) new)

/-- From the beginning the pass takes a whole numeral, if it meets a digit at all. -/
theorem finishes_numeral (noDigit : scan.digit = false) (noDot : scan.dot = false)
    (new : scan.exponent = false) :
    let whole := text.takeWhile Char.isDigit
    let fraction := Lexeme.fraction (text.dropWhile Char.isDigit)
    let met := (whole ++ fraction.1).any Char.isDigit
    Finishes query scan
      (whole ++ fraction.1 ++ if met then (Lexeme.exponent fraction.2).1 else []) met := by
  intro whole fraction met
  rw [List.append_assoc]
  apply finishes_digits left
  have behind := left_afterDigits left
  have noFurther := ends_dropWhile Char.isDigit text
  -- A dot is passed at most once: `finishes_fraction` is about a pass that has met one.
  by_cases dotted : (text.dropWhile Char.isDigit).head? = some '.'
  · rcases List.head?_eq_some_iff.mp dotted with ⟨rest, split⟩
    have parts : fraction = ('.' :: rest.takeWhile Char.isDigit, rest.dropWhile Char.isDigit) := by
      simp only [fraction, split, Lexeme.fraction]
    rw [split] at behind
    have sameMet : met =
        ((scan.afterDigits whole).digit || (rest.takeWhile Char.isDigit).any Char.isDigit) := by
      have dot : Char.isDigit '.' = false := by decide
      simp [met, parts, afterDigits, noDigit, dot]
    have further := drop_succ_of_drop_cons behind
    have step := turn_dot behind noDot
    have passed := Cursor.afterText_cons (scan.afterDigits whole).cursor '.' []
    rw [parts, sameMet]
    change Finishes query _ (['.'] ++ (rest.takeWhile Char.isDigit ++ _)) _
    exact finishes_of_onward step passed.symm (finishes_fraction further rfl new)
  · have parts : fraction = ([], text.dropWhile Char.isDigit) := by
      simp only [fraction, Lexeme.fraction]
      split
      · next same => exact absurd (by rw [same, List.head?_cons]) dotted
      · rfl
    have sameMet : met = (scan.afterDigits whole).digit := by
      simp [met, parts, afterDigits, noDigit]
    rw [parts, sameMet]
    exact finishes_exponent behind noFurther (Or.inr dotted) new

end

end NumeralScan

/-- No character outside the query is taken, and the numeral is the one that is read. -/
theorem numeralAt?_eq (query : List Char) (cursor : Cursor) :
    numeralAt? query cursor =
      some ((Lexeme.numeral? (query.drop cursor.index)).map fun lexeme =>
        (⟨.numeric, lexeme.value, cursor.location⟩, cursor.afterText lexeme.text)) := by
  have passed := @NumeralScan.finishes_numeral query _ { cursor } rfl rfl rfl rfl
  rcases passed with ⟨final, ran, place, met⟩
  simp only [numeralAt?, ran, met]
  -- The flag of the pass is the condition in the definition of `Lexeme.numeral?`.
  cases found : Lexeme.numeral? (query.drop cursor.index) with
  | none =>
      simp only [Lexeme.numeral?] at found
      split at found
      · simp at found
      · next noDigit => rw [if_neg noDigit, Option.map_none]
  | some lexeme =>
      have reads := Lexeme.reads_of_numeral? found
      simp only [Lexeme.numeral?] at found
      split at found
      · next digit =>
          rcases Option.some.inj found with rfl
          rw [if_pos digit] at place ⊢
          have sliced := slice?_eq reads.append.symm reads.ne_nil
          simp only [place, Cursor.afterText, sliced, Option.map_some]
      · simp at found

/--
In one pass over the characters, none of which is taken outside the query, a numeral is found
exactly if one stands at the cursor. Then it is the longest one, and the cursor moves right behind
it.
-/
theorem numeralAt?_longest (query : List Char) (cursor : Cursor) :
    let text := query.drop cursor.index
    ((Lexeme.numeral? text).isSome ↔ ∃ front ∈ Numeral.expression.matches', front <+: text) ∧
    (∀ lexeme, Lexeme.numeral? text = some lexeme ↔
      ∃ front, LongestFront Numeral.expression.matches' text front ∧
        lexeme = ⟨.numeric, String.ofList front, front, text.drop front.length⟩) ∧
    numeralAt? query cursor =
      some ((Lexeme.numeral? text).map fun lexeme =>
        (⟨.numeric, lexeme.value, cursor.location⟩, cursor.afterText lexeme.text)) :=
  ⟨Lexeme.isSome_numeral?_iff, fun _ => Lexeme.numeral?_eq_some_iff, numeralAt?_eq query cursor⟩

example : numeralAt? "7 <1.e+5.6".toList { index := 3, location := ⟨1, 4⟩ } =
    some (some (⟨.numeric, "1.e+5", ⟨1, 4⟩⟩, ⟨8, ⟨1, 9⟩⟩)) := by
  rw [numeralAt?_eq]
  rfl

end CsvSelect.Query
