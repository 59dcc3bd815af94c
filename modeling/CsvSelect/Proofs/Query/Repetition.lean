import CsvSelect.Proofs.Query.Failures
import CsvSelect.Proofs.Query.Scanning

/-!
# Calling again

A lexer is asked for one token after the other, and a list of tokens may be read again and again.
Each call goes on where the one before stopped, even if that one failed. This file shows that the
answers of such calls come to rest: from some call on, which is bounded by the length of the text or
of the list, every call gives the same answer.

The two are instances of one argument. A call either leaves less behind than there was, or the next
call repeats it (`Final`). The first can only happen as often as there is something left, and from
the second on nothing changes any more (`exists_final`).
-/

namespace CsvSelect.Query

open Text

/-! ### Calls of a function with a state -/

namespace Repeated

variable {State Answer : Type} {call : State → Answer × State}

/-- The state after a number of calls. -/
def after (call : State → Answer × State) (start : State) : Nat → State
  | 0 => start
  | calls + 1 => (call (after call start calls)).2

/-- The answer of a call. The first call has the number zero. -/
def answer (call : State → Answer × State) (start : State) (number : Nat) : Answer :=
  (call (after call start number)).1

/-- The call in this state is repeated by the next one. -/
def Final (call : State → Answer × State) (state : State) : Prop :=
  call (call state).2 = call state

theorem after_succ (call : State → Answer × State) (start : State) (calls : Nat) :
    after call start (calls + 1) = after call (call start).2 calls := by
  induction calls with
  | zero => rfl
  | succ calls ih =>
      rw [after, ih]
      rfl

theorem after_add (call : State → Answer × State) (start : State) (calls more : Nat) :
    after call start (calls + more) = after call (after call start calls) more := by
  induction more with
  | zero => rfl
  | succ more ih =>
      rw [← Nat.add_assoc, after, ih]
      rfl

theorem Final.call_after {state : State} (final : Final call state) (calls : Nat) :
    call (after call state calls) = call state := by
  induction calls with
  | zero => rfl
  | succ calls ih =>
      rw [after, ih]
      exact final

/-- Behind a final call all answers are the same. -/
theorem Final.answer_eq {start : State} {settled number : Nat}
    (final : Final call (after call start settled)) (later : settled ≤ number) :
    answer call start number = answer call start settled := by
  rcases Nat.exists_eq_add_of_le later with ⟨more, rfl⟩
  rw [answer, after_add, final.call_after more]
  rfl

/-- If every call but a final one leaves less behind, then one of the first calls is final. -/
theorem exists_final (left : State → Nat)
    (moves : ∀ state, ¬Final call state → left (call state).2 < left state) (start : State) :
    ∃ settled ≤ left start, Final call (after call start settled) ∧
      ∀ number < settled, ¬Final call (after call start number) := by
  induction bound : left start using Nat.strong_induction_on generalizing start with
  | _ amount ih =>
      by_cases final : Final call start
      · exact ⟨0, Nat.zero_le _, final, by simp⟩
      · have less := moves start final
        rcases ih (left (call start).2) (bound ▸ less) (call start).2 rfl with
          ⟨settled, atMost, later, before⟩
        refine ⟨settled + 1, by omega, ?_, ?_⟩
        · rw [after_succ]
          exact later
        · intro number inside
          cases number with
          | zero => exact final
          | succ number =>
              rw [after_succ]
              exact before number (Nat.lt_of_succ_lt_succ inside)

end Repeated

open Repeated

/-! ### Asking for tokens -/

namespace Lexer

theorem skipBlanks_skipBlanks (lexer : Lexer) : lexer.skipBlanks.skipBlanks = lexer.skipBlanks := by
  have ends := ends_dropWhile isBlank lexer.rest
  simp only [skipBlanks, takeWhile_of_ends ends, dropWhile_of_ends ends, Location.afterText_nil]

/-- Blanks that have been passed do not matter for the next call. -/
theorem next_skipBlanks (lexer : Lexer) : lexer.skipBlanks.next = lexer.next := by
  simp only [next, skipBlanks_skipBlanks]

/-- The cursor of the lexer was moved over some text, at least one character. -/
def Advances (lexer following : Lexer) : Prop :=
  ∃ passed, passed ≠ [] ∧ lexer.rest = passed ++ following.rest ∧
    following.location = lexer.location.afterText passed

/-- A call without a token passes the blanks and nothing else. -/
theorem snd_next_of_no_token {lexer : Lexer} (none : ∀ token, lexer.next.1 ≠ .ok (some token)) :
    lexer.next.2 = lexer.skipBlanks := by
  revert none
  simp only [next]
  split
  · intro _
    rfl
  · split
    · intro none
      exact absurd rfl (none _)
    · intro _
      rfl
    · intro _
      rfl

theorem final_of_no_token {lexer : Lexer} (none : ∀ token, lexer.next.1 ≠ .ok (some token)) :
    Final next lexer := by
  rw [Final, snd_next_of_no_token none, next_skipBlanks]

theorem advances_of_next {lexer following : Lexer} {token : Token}
    (read : lexer.next = (.ok (some token), following)) : lexer.Advances following := by
  rcases exists_lexeme_of_next read with ⟨lexeme, found, -, rfl⟩
  have reads := Lexeme.reads_of_read found
  refine ⟨lexer.rest.takeWhile isBlank ++ lexeme.text, ?_, ?_, ?_⟩
  · simp [reads.ne_nil]
  · rw [pass, List.append_assoc, reads.append]
    exact List.takeWhile_append_dropWhile.symm
  · rw [Location.afterText_append]
    rfl

theorem Advances.length_lt {lexer following : Lexer} (advances : lexer.Advances following) :
    following.rest.length < lexer.rest.length := by
  rcases advances with ⟨passed, nonempty, whole, -⟩
  have positive := List.length_pos_iff.mpr nonempty
  rw [whole, List.length_append]
  omega

/-- A call is final or yields a token. -/
theorem exists_token_of_not_final {lexer : Lexer} (notFinal : ¬Final next lexer) :
    ∃ token, lexer.next = (.ok (some token), lexer.next.2) := by
  by_contra none
  apply notFinal
  apply final_of_no_token
  intro token same
  exact none ⟨token, Prod.ext same rfl⟩

theorem not_final_of_token {lexer : Lexer} {token : Token}
    (answered : lexer.next.1 = .ok (some token)) : ¬Final next lexer := by
  intro final
  have again : lexer.next.2.next = (.ok (some token), lexer.next.2) := by
    rw [final]
    exact Prod.ext answered rfl
  exact Nat.lt_irrefl _ (advances_of_next again).length_lt

/-- Calls that all yield tokens yield those that are read together. -/
theorem exists_tokens_of_calls (lexer : Lexer) {calls : Nat}
    (yields : ∀ number < calls, ¬Final next (after next lexer number)) :
    ∃ tokens : List Token, tokens.length = calls ∧
      (∀ number (inside : number < tokens.length),
        answer next lexer number = .ok (some tokens[number])) ∧
      lexer.readAll [] = (after next lexer calls).readAll tokens.reverse := by
  induction calls with
  | zero => exact ⟨[], rfl, by simp, rfl⟩
  | succ calls ih =>
      rcases ih fun number inside => yields number (Nat.lt_succ_of_lt inside) with
        ⟨tokens, rfl, answers, all⟩
      rcases exists_token_of_not_final (yields tokens.length (Nat.lt_succ_self _)) with
        ⟨token, step⟩
      refine ⟨tokens ++ [token], by simp, ?_, ?_⟩
      · intro number inside
        rcases Nat.lt_or_ge number tokens.length with before | behind
        · rw [List.getElem_append_left before]
          exact answers number before
        · have last : number = tokens.length := by
            rw [List.length_append, List.length_singleton] at inside
            omega
          subst last
          rw [List.getElem_concat_length rfl]
          exact congrArg Prod.fst step
      · rw [all, readAll_of_next_some step, List.reverse_append]
        rfl

/--
The calls of a lexer yield finitely many tokens, at most one for each character, and each of them
moves the cursor on. The call after them finds the end or an error, and so does every later one, in
the same way. All tokens together are read if it is the end; otherwise the error is the answer.
-/
theorem calls_come_to_rest (source : String) :
    ∃ (tokens : List Token) (last : Except LexError (Option Token)),
      tokens.length ≤ source.length ∧ (∀ token, last ≠ .ok (some token)) ∧
      (∀ number, answer next (ofString source) number =
        tokens[number]?.elim last fun token => .ok (some token)) ∧
      (∀ number < tokens.length, (after next (ofString source) number).Advances
        (after next (ofString source) (number + 1))) ∧
      lex source = last.map fun _ => tokens := by
  have moves : ∀ lexer : Lexer, ¬Final next lexer →
      lexer.next.2.rest.length < lexer.rest.length := by
    intro lexer notFinal
    rcases exists_token_of_not_final notFinal with ⟨token, step⟩
    exact (advances_of_next step).length_lt
  rcases exists_final (fun lexer : Lexer => lexer.rest.length) moves (ofString source) with
    ⟨settled, bound, final, before⟩
  rcases exists_tokens_of_calls (ofString source) before with ⟨tokens, rfl, answers, all⟩
  have noToken : ∀ token, answer next (ofString source) tokens.length ≠ .ok (some token) :=
    fun token answered => not_final_of_token answered final
  refine ⟨tokens, answer next (ofString source) tokens.length, ?_, noToken, ?_, ?_, ?_⟩
  · rw [← String.length_toList]
    exact bound
  · intro number
    rcases Nat.lt_or_ge number tokens.length with inside | later
    · rw [answers number inside, List.getElem?_eq_getElem inside]
      rfl
    · rw [final.answer_eq later, List.getElem?_eq_none later]
      rfl
  · intro number inside
    rcases exists_token_of_not_final (before number inside) with ⟨token, step⟩
    exact advances_of_next step
  · rw [lex, all]
    rw [answer] at noToken ⊢
    rcases step : (after next (ofString source) tokens.length).next with ⟨found | token?, following⟩
    · rw [readAll_of_next_error step]
      rfl
    · cases token? with
      | none =>
          rw [readAll_of_next_none step, List.reverse_reverse]
          rfl
      | some token => exact absurd (congrArg Prod.fst step) (noToken token)

end Lexer

/-! ### Reading statements -/

/-- The next token is the reserved word `SELECT`. -/
def BeginsWithSelect (tokens : List Token) : Prop :=
  ∃ token ∈ tokens.head?, token.isKeyword .SELECT

/-- The number of tokens that lie behind the parser after some calls. -/
def position (tokens : List Token) (calls : Nat) : Nat :=
  tokens.length - (after parseTokens tokens calls).length

/-- Without `SELECT` nothing is read, and the error is the one that reading again brings. -/
theorem parseTokens_of_no_select {tokens : List Token} (noSelect : ¬BeginsWithSelect tokens) :
    parseTokens tokens = unexpected .statement tokens := by
  cases tokens with
  | nil => rfl
  | cons token rest =>
      have different : ¬token.isKeyword .SELECT := fun select => noSelect ⟨token, rfl, select⟩
      rw [parseTokens, if_neg different]

theorem snd_unexpected {Answer : Type} (expected : Expected) (tokens : List Token) :
    (unexpected expected tokens : Parsed Answer).2 = tokens := by
  cases tokens <;> rfl

theorem snd_parseTokens_of_no_select {tokens : List Token} (noSelect : ¬BeginsWithSelect tokens) :
    (parseTokens tokens).2 = tokens := by
  rw [parseTokens_of_no_select noSelect, snd_unexpected]

theorem final_of_no_select {tokens : List Token} (noSelect : ¬BeginsWithSelect tokens) :
    Final parseTokens tokens := by
  rw [Final, snd_parseTokens_of_no_select noSelect]

theorem snd_parseTokens_of_ok {tokens : List Token} {statement : Statement}
    (read : (parseTokens tokens).1 = .ok statement) : (parseTokens tokens).2 = [] :=
  (sentence_of_parseTokens (Prod.ext read rfl)).1

/-- A call goes over some tokens, and over `SELECT` at least. -/
theorem exists_passed (tokens : List Token) :
    ∃ passed, tokens = passed ++ (parseTokens tokens).2 ∧
      (BeginsWithSelect tokens → passed ≠ []) := by
  by_cases select : BeginsWithSelect tokens
  · rcases select with ⟨token, mem, isSelect⟩
    rcases List.head?_eq_some_iff.mp mem with ⟨rest, rfl⟩
    rcases read : parseTokens (token :: rest) with ⟨error | statement, left⟩
    · rw [parseTokens, if_pos isSelect] at read
      rcases refusedAt_of_parseSelection read with ⟨passed, rfl, -, -⟩
      exact ⟨token :: passed, rfl, fun _ => List.cons_ne_nil _ _⟩
    · rcases (sentence_of_parseTokens read).1 with rfl
      exact ⟨token :: rest, (List.append_nil _).symm, fun _ => List.cons_ne_nil _ _⟩
  · exact ⟨[], (snd_parseTokens_of_no_select select).symm, fun begins => absurd begins select⟩

theorem length_snd_parseTokens_lt {tokens : List Token} (select : BeginsWithSelect tokens) :
    (parseTokens tokens).2.length < tokens.length := by
  rcases exists_passed tokens with ⟨passed, whole, nonempty⟩
  have positive := List.length_pos_iff.mpr (nonempty select)
  have lengths := congrArg List.length whole
  rw [List.length_append] at lengths
  omega

/-- What is left after some calls is the end of the list, from the position on. -/
theorem after_eq_drop (tokens : List Token) (calls : Nat) :
    after parseTokens tokens calls = tokens.drop (position tokens calls) := by
  suffices suffix : after parseTokens tokens calls <:+ tokens from
    List.suffix_iff_eq_drop.mp suffix
  induction calls with
  | zero => exact List.suffix_refl tokens
  | succ calls ih =>
      rcases exists_passed (after parseTokens tokens calls) with ⟨passed, whole, -⟩
      exact List.IsSuffix.trans ⟨passed, whole.symm⟩ ih

theorem length_after_le (tokens : List Token) (calls : Nat) :
    (after parseTokens tokens calls).length ≤ tokens.length := by
  rw [after_eq_drop, List.length_drop]
  exact Nat.sub_le _ _

theorem length_after_succ_le (tokens : List Token) (calls : Nat) :
    (after parseTokens tokens (calls + 1)).length ≤ (after parseTokens tokens calls).length := by
  rcases exists_passed (after parseTokens tokens calls) with ⟨passed, whole, -⟩
  have lengths := congrArg List.length whole
  rw [List.length_append] at lengths
  rw [after]
  omega

/-- When a statement has been read nothing is left, and every later call fails. -/
theorem answer_of_earlier_ok {tokens : List Token} {first second : Nat} {statement : Statement}
    (read : answer parseTokens tokens first = .ok statement) (later : first < second) :
    answer parseTokens tokens second = .error (.unexpectedEnd .statement) := by
  have nothing : after parseTokens tokens (first + 1) = [] := snd_parseTokens_of_ok read
  have final : Final parseTokens (after parseTokens tokens (first + 1)) := by
    rw [nothing]
    rfl
  rw [final.answer_eq later, answer, nothing]
  rfl

theorem exists_error_of_final {tokens : List Token} (final : Final parseTokens tokens) :
    ∃ error, (parseTokens tokens).1 = .error error := by
  cases answered : (parseTokens tokens).1 with
  | error error => exact ⟨error, rfl⟩
  | ok statement =>
      have again : (parseTokens []).1 = .ok statement := by
        rw [← snd_parseTokens_of_ok answered, final, answered]
      simp [parseTokens, unexpected] at again

/--
Calls that read statements from one list of tokens never go back, and never beyond its end. At most
one of them succeeds, and it reads up to the end. A call that does not find `SELECT` stays where it
is and fails, as does every later one, with the same error; every other call goes on. So from some
call on, which is bounded by the number of tokens, all calls fail with the same error.
-/
theorem parseTokens_come_to_rest (tokens : List Token) :
    (∀ calls, after parseTokens tokens calls = tokens.drop (position tokens calls) ∧
      position tokens calls ≤ position tokens (calls + 1) ∧
      position tokens calls ≤ tokens.length) ∧
    (∀ first second statement other, answer parseTokens tokens first = .ok statement →
      answer parseTokens tokens second = .ok other → first = second) ∧
    (∀ number statement, answer parseTokens tokens number = .ok statement →
      position tokens (number + 1) = tokens.length) ∧
    (∀ number, ¬BeginsWithSelect (after parseTokens tokens number) →
      position tokens (number + 1) = position tokens number ∧
      ∃ error, ∀ later ≥ number, answer parseTokens tokens later = .error error) ∧
    (∀ number, BeginsWithSelect (after parseTokens tokens number) →
      position tokens number < position tokens (number + 1)) ∧
    ∃ settled ≤ tokens.length, ∃ error, ∀ number ≥ settled,
      answer parseTokens tokens number = .error error := by
  refine ⟨?_, ?_, ?_, ?_, ?_, ?_⟩
  · intro calls
    refine ⟨after_eq_drop tokens calls, ?_, Nat.sub_le _ _⟩
    exact Nat.sub_le_sub_left (length_after_succ_le tokens calls) _
  · intro first second statement other read again
    rcases Nat.lt_trichotomy first second with earlier | same | later
    · rw [answer_of_earlier_ok read earlier] at again
      simp at again
    · exact same
    · rw [answer_of_earlier_ok again later] at read
      simp at read
  · intro number statement read
    rw [position, after, snd_parseTokens_of_ok read]
    rfl
  · intro number noSelect
    have final := final_of_no_select noSelect
    rcases exists_error_of_final final with ⟨error, failed⟩
    refine ⟨?_, error, ?_⟩
    · rw [position, after, snd_parseTokens_of_no_select noSelect, position]
    · intro later behind
      rw [final.answer_eq behind]
      exact failed
  · intro number select
    have less := length_snd_parseTokens_lt select
    have atMost := length_after_le tokens number
    rw [position, position, after]
    omega
  · have moves : ∀ rest : List Token, ¬Final parseTokens rest →
        (parseTokens rest).2.length < rest.length := by
      intro rest notFinal
      apply length_snd_parseTokens_lt
      by_contra noSelect
      exact notFinal (final_of_no_select noSelect)
    rcases exists_final List.length moves tokens with ⟨settled, bound, final, -⟩
    rcases exists_error_of_final final with ⟨error, failed⟩
    refine ⟨settled, bound, error, ?_⟩
    intro number later
    rw [final.answer_eq later]
    exact failed

end CsvSelect.Query
