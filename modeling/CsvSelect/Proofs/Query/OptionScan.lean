import CsvSelect.Proofs.Query.NumeralScan

/-!
# Options compared in one pass

Which of several options stands at a place in a query can also be found in one pass over the
characters from there. The pass collects the characters in lower case and keeps a mark at every
option. After each character it looks at the options that are still in the running: an option that
is the collected text has matched and drops out, and one that does not begin with the collected text
drops out, too. The pass is over when all options have dropped out, or at the end of the query.

This file writes the pass down (`OptionScan.run`) and proves that it finds the longest option that
stands there (`longestMatchAt?_longest`). The invariant is `OptionScan.Tracks`: an option is in the
running exactly as long as the collected text is a beginning of it and not all of it, and the match
in hand is the longest option at the front of the collected text. When all options have dropped out,
more text would not change this, so the pass does not end too early.
-/

namespace CsvSelect.Query

open Text

/-! ### The pass -/

/-- The length of the text as it is counted in bytes. -/
def byteCount (text : List Char) : Nat :=
  (String.ofList text).utf8ByteSize

/-- An option, and the mark that it has dropped out of the running. -/
structure Candidate where
  option : List Char
  out : Bool := false

/-- The characters collected so far, the options, and the longest one that has matched. -/
structure OptionScan where
  collected : List Char := []
  candidates : List Candidate
  best : Option (List Char) := none

namespace OptionScan

/-- An option that has matched takes the place of a shorter one. -/
def improve (best : Option (List Char)) (option : List Char) : Option (List Char) :=
  if best.all (byteCount · < byteCount option) then some option else best

/-- What becomes of an option and of the match in hand behind the collected text. -/
def judge (collected : List Char) (best : Option (List Char)) (candidate : Candidate) :
    Candidate × Option (List Char) :=
  if candidate.out then (candidate, best)
  else if candidate.option = collected then
    ({ candidate with out := true }, improve best candidate.option)
  else if collected.isPrefixOf candidate.option then (candidate, best)
  else ({ candidate with out := true }, best)

/-- The options are judged one after the other, each with the match that the others left. -/
def judgeAll (collected : List Char) (best : Option (List Char)) :
    List Candidate → List Candidate × Option (List Char)
  | [] => ([], best)
  | candidate :: others =>
      let (judged, better) := judge collected best candidate
      let (judgedOthers, longest) := judgeAll collected better others
      (judged :: judgedOthers, longest)

def collect (scan : OptionScan) (character : Char) : OptionScan :=
  let collected := scan.collected ++ [character.toLower]
  let (candidates, best) := judgeAll collected scan.best scan.candidates
  { collected, candidates, best }

/-- The match that is in hand when the pass over the query from the index on is over. -/
def run (query : List Char) (index : Nat) (scan : OptionScan) : Option (List Char) :=
  match _here : query[index]? with
  | none => scan.best
  | some character =>
      let next := scan.collect character
      if next.candidates.all Candidate.out then next.best else run query (index + 1) next
termination_by query.length - index
decreasing_by
  have inside := (List.getElem?_eq_some_iff.mp _here).1
  omega

end OptionScan

/-- The option that the pass finds at an index of the query. -/
def longestMatchAt? (options : List (List Char)) (query : List Char) (index : Nat) :
    Option (List Char) :=
  OptionScan.run query index { candidates := options.map fun option => { option } }

/-! ### The longest option -/

/-- The answer is the longest option at the front of the text, or there is no option there. -/
def IsLongestOption (options : List (List Char)) (text : List Char) : Option (List Char) → Prop
  | none => ∀ option ∈ options, ¬option <+: text
  | some option => LongestFront {option | option ∈ options} text option

namespace IsLongestOption

variable {options : List (List Char)} {text other : List Char} {answer : Option (List Char)}

theorem unique {otherAnswer : Option (List Char)} (longest : IsLongestOption options text answer)
    (otherLongest : IsLongestOption options text otherAnswer) : answer = otherAnswer := by
  cases answer with
  | none =>
      cases otherAnswer with
      | none => rfl
      | some option => exact absurd otherLongest.stands (longest option otherLongest.mem)
  | some option =>
      cases otherAnswer with
      | none => exact absurd longest.stands (otherLongest option longest.mem)
      | some otherOption => rw [LongestFront.unique longest otherLongest]

/-- What counts of a text is which options stand at its front. -/
theorem congr (same : ∀ option ∈ options, option <+: text ↔ option <+: other)
    (longest : IsLongestOption options text answer) : IsLongestOption options other answer := by
  cases answer with
  | none =>
      intro option mem stands
      exact longest option mem ((same option mem).mpr stands)
  | some option =>
      refine ⟨(same option longest.mem).mp longest.stands, longest.mem, ?_⟩
      intro rival mem stands
      exact longest.longest rival mem ((same rival mem).mpr stands)

end IsLongestOption

/-- Comparing every option with the front of the text finds the longest one. -/
theorem isLongestOption_longestMatch? {options : List (List Char)}
    (proper : ∀ option ∈ options, option ≠ []) (text : List Char) :
    IsLongestOption options (text.map Char.toLower) (longestMatch? options text) := by
  cases found : longestMatch? options text with
  | none =>
      intro option mem stands
      have begins := beginsWith_iff.mpr stands
      exact proper option mem (longestMatch?_eq_none_iff.mp found option mem begins)
  | some option =>
      rcases of_longestMatch?_eq_some found with ⟨mem, -, begins⟩
      refine ⟨beginsWith_iff.mp begins, mem, ?_⟩
      intro rival rivalMem stands
      exact length_le_of_longestMatch? found rivalMem (beginsWith_iff.mpr stands)

/-! ### One character -/

/-- A proper beginning of a text has fewer bytes. -/
theorem byteCount_lt_of_prefix {front text : List Char} (stands : front <+: text)
    (different : front ≠ text) : byteCount front < byteCount text := by
  rcases stands with ⟨rest, rfl⟩
  have nonempty : String.ofList rest ≠ "" := by
    intro none
    have nothing : rest = [] := by simpa using none
    exact different (by rw [nothing, List.append_nil])
  have positive : 0 < (String.ofList rest).utf8ByteSize := by
    rw [Nat.pos_iff_ne_zero, Ne, String.utf8ByteSize_eq_zero_iff]
    exact nonempty
  rw [byteCount, byteCount, String.ofList_append, String.utf8ByteSize_append]
  omega

namespace OptionScan

variable {collected : List Char} {best : Option (List Char)} {options : List (List Char)}

/-- The collected text exceeds every match before it, or repeats it. -/
theorem improve_eq (shorter : ∀ kept ∈ best, kept <+: collected) :
    improve best collected = some collected := by
  cases best with
  | none => rfl
  | some kept =>
      by_cases same : kept = collected
      · simp [improve, same]
      · simp [improve, byteCount_lt_of_prefix (shorter kept rfl) same]

/-- What becomes of an option does not depend on the match in hand. -/
theorem judge_fst (candidate : Candidate) :
    (judge collected best candidate).1 = (judge collected none candidate).1 := by
  simp only [judge]
  split
  · rfl
  · split
    · rfl
    · split <;> rfl

theorem option_judge (candidate : Candidate) :
    (judge collected best candidate).1.option = candidate.option := by
  simp only [judge]
  split
  · rfl
  · split
    · rfl
    · split <;> rfl

theorem out_judge (candidate : Candidate) :
    (judge collected best candidate).1.out = false ↔
      candidate.out = false ∧ collected <+: candidate.option ∧ candidate.option ≠ collected := by
  simp only [judge, ← List.isPrefixOf_iff_prefix]
  split
  · next out => simp [out]
  · next running =>
      split
      · next matched => simp [matched]
      · next different => split <;> simp_all

theorem judge_snd (shorter : ∀ kept ∈ best, kept <+: collected) (candidate : Candidate) :
    (judge collected best candidate).2 =
      if candidate.out = false ∧ candidate.option = collected then some collected else best := by
  simp only [judge]
  split
  · next out => simp [out]
  · next running =>
      split
      · next matched => simp [running, matched, improve_eq shorter]
      · next different => split <;> simp [different]

theorem judgeAll_fst (candidates : List Candidate) :
    (judgeAll collected best candidates).1 =
      candidates.map fun candidate => (judge collected none candidate).1 := by
  induction candidates generalizing best with
  | nil => rfl
  | cons candidate others ih =>
      simp only [judgeAll, List.map_cons, ih]
      rw [judge_fst candidate]

/-- The collected text becomes the match if it is an option that is in the running. -/
theorem judgeAll_snd (shorter : ∀ kept ∈ best, kept <+: collected) (candidates : List Candidate) :
    (judgeAll collected best candidates).2 =
      if ∃ candidate ∈ candidates, candidate.out = false ∧ candidate.option = collected then
        some collected
      else best := by
  induction candidates generalizing best with
  | nil => simp [judgeAll]
  | cons candidate others ih =>
      have first := judge_snd shorter candidate
      simp only [judgeAll]
      split at first
      · next matched =>
          rw [ih (by simp [first]), first, ite_self, if_pos ⟨candidate, by simp, matched⟩]
      · next passed =>
          rw [ih (by rwa [first]), first]
          simp [passed]

/-- What the pass knows behind the collected text. -/
structure Tracks (scan : OptionScan) (options : List (List Char)) : Prop where
  sameOptions : scan.candidates.map Candidate.option = options
  running : ∀ candidate ∈ scan.candidates, candidate.out = false ↔
    scan.collected <+: candidate.option ∧ candidate.option ≠ scan.collected
  best : IsLongestOption options scan.collected scan.best

theorem tracks_start (proper : ∀ option ∈ options, option ≠ []) :
    Tracks { candidates := options.map fun option => { option } } options where
  sameOptions := by
    rw [List.map_map]
    exact List.map_id _
  running := by
    intro candidate mem
    rcases List.mem_map.mp mem with ⟨option, optionMem, rfl⟩
    simp [proper option optionMem]
  best := by
    intro option mem stands
    exact proper option mem (List.prefix_nil.mp stands)

section

variable {scan : OptionScan} (tracks : scan.Tracks options) (character : Char)
include tracks

theorem Tracks.shorter : ∀ kept ∈ scan.best, kept <+: scan.collected ++ [character.toLower] := by
  intro kept mem
  have longest := tracks.best
  rw [Option.mem_def.mp mem] at longest
  exact longest.stands.trans (List.prefix_append _ _)

/-- An option that has just been completed was in the running. -/
theorem Tracks.exists_matched_iff :
    (∃ candidate ∈ scan.candidates, candidate.out = false ∧
        candidate.option = scan.collected ++ [character.toLower]) ↔
      scan.collected ++ [character.toLower] ∈ options := by
  rw [← tracks.sameOptions, List.mem_map]
  constructor
  · rintro ⟨candidate, mem, -, same⟩
    exact ⟨candidate, mem, same⟩
  · rintro ⟨candidate, mem, same⟩
    refine ⟨candidate, mem, (tracks.running candidate mem).mpr ?_, same⟩
    rw [same]
    exact ⟨List.prefix_append _ _, by simp⟩

/-- One more character is collected. -/
theorem Tracks.collect : (scan.collect character).Tracks options where
  sameOptions := by
    simp only [OptionScan.collect, judgeAll_fst, List.map_map, ← tracks.sameOptions]
    apply List.map_congr_left
    intro candidate mem
    exact option_judge candidate
  running := by
    intro candidate mem
    simp only [OptionScan.collect, judgeAll_fst] at mem ⊢
    rcases List.mem_map.mp mem with ⟨before, beforeMem, rfl⟩
    rw [out_judge, option_judge, tracks.running before beforeMem]
    constructor
    · exact And.right
    · rintro ⟨stands, different⟩
      have proper : scan.collected <+: before.option := (List.prefix_append _ _).trans stands
      refine ⟨⟨proper, ?_⟩, stands, different⟩
      intro same
      have lengths := stands.length_le
      rw [same, List.length_append, List.length_singleton] at lengths
      omega
  best := by
    simp only [OptionScan.collect, judgeAll_snd (tracks.shorter character),
      tracks.exists_matched_iff]
    split
    · next matched =>
        refine ⟨List.prefix_rfl, matched, ?_⟩
        intro rival _ stands
        exact stands.length_le
    · next passed =>
        apply tracks.best.congr
        intro option mem
        rw [List.prefix_concat_iff]
        constructor
        · exact Or.inr
        · rintro (rfl | stands)
          · exact absurd mem passed
          · exact stands

end

/-! ### The whole pass -/

/-- When all options have dropped out, further text does not matter. -/
theorem Tracks.append {scan : OptionScan} (tracks : scan.Tracks options)
    (finished : scan.candidates.all Candidate.out = true) (text : List Char) :
    IsLongestOption options (scan.collected ++ text) scan.best := by
  apply tracks.best.congr
  intro option mem
  constructor
  · intro stands
    exact stands.trans (List.prefix_append _ _)
  · intro stands
    rcases List.prefix_or_prefix_of_prefix stands (List.prefix_append scan.collected text) with
      early | late
    · exact early
    · rw [← tracks.sameOptions] at mem
      rcases List.mem_map.mp mem with ⟨candidate, candidateMem, rfl⟩
      have out : candidate.out = true := List.all_eq_true.mp finished candidate candidateMem
      by_contra different
      have running := (tracks.running candidate candidateMem).mpr
        ⟨late, fun same => different (same ▸ List.prefix_rfl)⟩
      simp [out] at running

/-- The pass ends with the longest option at the front of what is collected and what is left. -/
theorem Tracks.run {query : List Char} {index : Nat} {scan : OptionScan}
    (tracks : scan.Tracks options) :
    IsLongestOption options (scan.collected ++ (query.drop index).map Char.toLower)
      (run query index scan) := by
  induction left : query.drop index generalizing index scan with
  | nil =>
      have ended : query[index]? = none := by
        rw [List.getElem?_eq_none_iff]
        exact List.drop_eq_nil_iff.mp left
      rw [OptionScan.run]
      split
      · simpa using tracks.best
      · next found => simp [ended] at found
  | cons character rest ih =>
      have here : query[index]? = some character := getElem?_of_drop left 0
      have further := tracks.collect character
      have split : scan.collected ++ (character :: rest).map Char.toLower =
          (scan.collect character).collected ++ rest.map Char.toLower := by
        simp [OptionScan.collect]
      rw [OptionScan.run, split]
      split
      · next ended => simp [here] at ended
      · next other found =>
          obtain rfl : character = other := Option.some.inj (here.symm.trans found)
          simp only
          split
          · next finished => exact further.append finished _
          · exact ih further (drop_succ_of_drop_cons left)

end OptionScan

/--
One pass over the characters finds the longest of the options that stand at the index, whatever the
case of the letters there, and nothing if there is none. So does the comparison of every option with
what is left of the query.
-/
theorem longestMatchAt?_longest {options : List (List Char)}
    (proper : ∀ option ∈ options, option ≠ []) (query : List Char) (index : Nat) :
    let text := (query.drop index).map Char.toLower
    (∀ option, longestMatchAt? options query index = some option ↔
      LongestFront {option | option ∈ options} text option) ∧
    (longestMatchAt? options query index = none ↔ ∀ option ∈ options, ¬option <+: text) ∧
    longestMatchAt? options query index = longestMatch? options (query.drop index) := by
  intro text
  have longest : IsLongestOption options text (longestMatchAt? options query index) :=
    (OptionScan.tracks_start proper).run
  have compared := isLongestOption_longestMatch? proper (query.drop index)
  refine ⟨?_, ?_, longest.unique compared⟩
  · intro option
    constructor
    · intro found
      rwa [found] at longest
    · intro front
      have given : IsLongestOption options text (some option) := front
      exact longest.unique given
  · constructor
    · intro found
      rwa [found] at longest
    · intro nothing
      have given : IsLongestOption options text none := nothing
      exact longest.unique given

/-- Options of which some begin others, and one is there twice. -/
def nestedOptions : List (List Char) :=
  ["or", "order", "o", "or", "orders"].map String.toList

/-- The pass goes beyond the first matches, and comes back to one where it goes on in vain. -/
theorem longestMatchAt?_nestedOptions :
    (∀ option ∈ nestedOptions, option ≠ []) ∧
      longestMatchAt? nestedOptions "1 ORDer;".toList 2 = some "order".toList ∧
      longestMatchAt? nestedOptions "1 ORD".toList 2 = some "or".toList ∧
      longestMatchAt? nestedOptions "1 ORD".toList 5 = none := by
  have proper : ∀ option ∈ nestedOptions, option ≠ [] := by decide
  rcases longestMatchAt?_longest proper "1 ORDer;".toList 2 with ⟨whole, -, -⟩
  rcases longestMatchAt?_longest proper "1 ORD".toList 2 with ⟨cut, -, -⟩
  rcases longestMatchAt?_longest proper "1 ORD".toList 5 with ⟨-, ended, -⟩
  refine ⟨proper, (whole _).mpr ⟨by decide, ?_, ?_⟩, (cut _).mpr ⟨by decide, ?_, ?_⟩, ?_⟩
  · exact (by decide : "order".toList ∈ nestedOptions)
  · exact (by decide : ∀ rival ∈ nestedOptions, rival <+: "order;".toList → rival.length ≤ 5)
  · exact (by decide : "or".toList ∈ nestedOptions)
  · exact (by decide : ∀ rival ∈ nestedOptions, rival <+: "ord".toList → rival.length ≤ 2)
  · exact ended.mpr (by decide)

end CsvSelect.Query
