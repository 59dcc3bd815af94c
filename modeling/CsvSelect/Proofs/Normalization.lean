import Mathlib.Data.List.Forall2
import CsvSelect.Proofs.Query.Recognition
import CsvSelect.Proofs.Selection.Independence
import CsvSelect.Proofs.Tables
import CsvSelect.Proofs.Text.Integers

/-!
# What normalisation changes

Normalisation shortens the cells whose fraction is zero and leaves all others alone. Two conditions
decide this, and they need not be about the same dot: a decimal stands somewhere in the cell, and
the text between the first dot and the next is a zero (`ZeroFraction`). So `1.0.0` is shortened, and
so is `a.0.1.5`, whose first dot follows no digit; `a.0` and `6.00` are not.

What is left of such a cell has no dot, so there is nothing to shorten any more. Therefore it does
not matter how often a table is normalised.
-/

namespace CsvSelect

open Text Query

/-! ### Decimals -/

theorem hasDecimal_cons {rest : List Char} (decimal : hasDecimal rest = true) (first : Char) :
    hasDecimal (first :: rest) = true := by
  match rest with
  | [] => simp [hasDecimal] at decimal
  | [_] => simp [hasDecimal] at decimal
  | _ :: _ :: _ => rw [hasDecimal, decimal, Bool.or_true]

/-- A cell has a decimal if a dot between two digits stands somewhere in it. -/
theorem hasDecimal_iff {characters : List Char} :
    hasDecimal characters = true ↔
      ∃ before left right behind, left.isDigit = true ∧ right.isDigit = true ∧
        characters = before ++ left :: '.' :: right :: behind := by
  constructor
  · intro decimal
    induction characters with
    | nil => simp [hasDecimal] at decimal
    | cons left rest ih =>
        match rest with
        | [] => simp [hasDecimal] at decimal
        | [_] => simp [hasDecimal] at decimal
        | dot :: right :: behind =>
            rw [hasDecimal, Bool.or_eq_true] at decimal
            rcases decimal with here | later
            · simp only [Bool.and_eq_true, beq_iff_eq] at here
              rcases here with ⟨⟨isLeft, rfl⟩, isRight⟩
              exact ⟨[], left, right, behind, isLeft, isRight, rfl⟩
            · rcases ih later with ⟨before, first, second, others, isFirst, isSecond, same⟩
              exact ⟨left :: before, first, second, others, isFirst, isSecond, by rw [same]; rfl⟩
  · rintro ⟨before, left, right, behind, isLeft, isRight, rfl⟩
    induction before with
    | nil => simp [hasDecimal, isLeft, isRight]
    | cons first before ih => exact hasDecimal_cons ih first

/-! ### Cells with a zero fraction -/

/--
A decimal stands somewhere in the cell, the first dot stands behind `whole`, and what stands between
it and the next dot, or the end, is a single zero.
-/
structure ZeroFraction (cell whole : String) : Prop where
  decimal : ∃ before left right behind, left.isDigit = true ∧ right.isDigit = true ∧
    cell.toList = before ++ left :: '.' :: right :: behind
  first : '.' ∉ whole.toList
  zero : ∃ behind, cell.toList = whole.toList ++ '.' :: '0' :: behind ∧
    ∀ next ∈ behind.head?, next = '.'

namespace ZeroFraction

variable {cell whole : String}

theorem mem_dot (fraction : ZeroFraction cell whole) : '.' ∈ cell.toList := by
  rcases fraction.zero with ⟨behind, split, -⟩
  simp [split]

theorem ne (fraction : ZeroFraction cell whole) : whole ≠ cell := by
  rintro rfl
  exact fraction.first fraction.mem_dot

end ZeroFraction

/-- The characters before the first dot, and those from it on. -/
theorem split_at_dot {whole : List Char} (noDot : '.' ∉ whole) (rest : List Char) :
    (whole ++ '.' :: rest).takeWhile (· != '.') = whole ∧
      (whole ++ '.' :: rest).dropWhile (· != '.') = '.' :: rest := by
  have inside : ∀ character ∈ whole, (character != '.') = true := by
    intro character mem
    rw [bne_iff_ne]
    rintro rfl
    exact noDot mem
  have ends : Ends (· != '.') ('.' :: rest) := by
    rintro character mem
    rcases Option.some.inj mem with rfl
    rfl
  exact ⟨takeWhile_append_of_ends inside ends, dropWhile_append_of_ends inside ends⟩

theorem not_mem_takeWhile_dot (characters : List Char) :
    '.' ∉ characters.takeWhile (· != '.') := by
  intro mem
  exact absurd (List.mem_takeWhile_imp mem) (by decide)

/-- A cell is shortened exactly if it has a zero fraction, to what stands before its first dot. -/
theorem integralPart?_eq_some_iff {cell whole : String} :
    integralPart? cell = some whole ↔ ZeroFraction cell whole := by
  rw [integralPart?]
  simp only [Option.ite_none_right_eq_some, Option.some.injEq, Bool.and_eq_true, beq_iff_eq]
  constructor
  · rintro ⟨⟨decimal, zero⟩, rfl⟩
    have noDot := not_mem_takeWhile_dot cell.toList
    have parts := List.takeWhile_append_dropWhile (p := (· != '.')) (l := cell.toList)
    have stops := ends_dropWhile (· != '.') cell.toList
    generalize cell.toList.dropWhile (· != '.') = fromDot at parts stops zero
    cases fromDot with
    | nil =>
        rw [List.append_nil] at parts
        rw [parts] at noDot
        exact absurd (mem_dot_of_hasDecimal decimal) noDot
    | cons dot fraction =>
        have isDot : dot = '.' := by simpa using stops dot rfl
        subst isDot
        have pieces := List.takeWhile_append_dropWhile (p := (· != '.')) (l := fraction)
        rw [List.drop_one, List.tail_cons] at zero
        rw [zero, List.singleton_append] at pieces
        refine ⟨hasDecimal_iff.mp decimal, ?_, fraction.dropWhile (· != '.'), ?_, ?_⟩
        · rw [String.toList_ofList]
          exact noDot
        · rw [String.toList_ofList, pieces, parts]
        · intro next mem
          simpa using ends_dropWhile (· != '.') fraction next mem
  · rintro ⟨decimal, noDot, behind, split, closed⟩
    rcases split_at_dot noDot ('0' :: behind) with ⟨before, fromDot⟩
    have ends : Ends (· != '.') behind := by
      intro next mem
      simp [closed next mem]
    rw [split, before, fromDot, ← split]
    have zero : ∀ character ∈ ['0'], (character != '.') = true := by simp
    exact ⟨⟨hasDecimal_iff.mpr decimal, takeWhile_append_of_ends zero ends⟩, String.ofList_toList⟩

/-! ### What becomes of a cell -/

theorem normalizeCell_of_zeroFraction {cell whole : String} (fraction : ZeroFraction cell whole) :
    normalizeCell cell = whole := by
  rw [normalizeCell, integralPart?_eq_some_iff.mpr fraction, Option.getD_some]

theorem normalizeCell_ne_iff {cell : String} :
    normalizeCell cell ≠ cell ↔ ∃ whole, ZeroFraction cell whole := by
  constructor
  · intro changed
    cases found : integralPart? cell with
    | none =>
        rw [normalizeCell, found, Option.getD_none] at changed
        exact absurd rfl changed
    | some whole => exact ⟨whole, integralPart?_eq_some_iff.mp found⟩
  · rintro ⟨whole, fraction⟩
    rw [normalizeCell_of_zeroFraction fraction]
    exact fraction.ne

theorem not_mem_dot_of_natural? {limit number : Nat} {digits : List Char}
    (read : natural? limit digits = some number) : '.' ∉ digits := by
  intro mem
  have isDigits := (natural?_eq_some_iff.mp read).2.1
  exact absurd (List.all_eq_true.mp isDigits '.' mem) (by decide)

/-- A cell that denotes an integer has no dot. -/
theorem not_mem_dot_of_integer? {cell : String} {number : Int}
    (read : integer? cell = some number) : '.' ∉ cell.toList := by
  rw [integer?, integerOfChars?.eq_def] at read
  split at read
  · next digits spelled =>
      rcases Option.map_eq_some_iff.mp read with ⟨magnitude, found, -⟩
      rcases Option.bind_eq_some_iff.mp found with ⟨unsigned, found, -⟩
      simpa [spelled] using not_mem_dot_of_natural? found
  · next digits spelled =>
      rcases Option.map_eq_some_iff.mp read with ⟨magnitude, found, -⟩
      simpa [spelled] using not_mem_dot_of_natural? found
  · rcases Option.map_eq_some_iff.mp read with ⟨magnitude, found, -⟩
    exact not_mem_dot_of_natural? found

/-- A number before `.0` is what is left of it. -/
theorem zeroFraction_of_number {cell whole : String} {sign digits : List Char}
    (isSign : sign ∈ [[], ['+'], ['-']]) (nonempty : digits ≠ [])
    (isDigits : ∀ digit ∈ digits, digit.isDigit = true) (left : whole.toList = sign ++ digits)
    (spelled : cell.toList = sign ++ digits ++ ['.', '0']) : ZeroFraction cell whole where
  decimal := by
    have last := isDigits _ (List.getLast_mem nonempty)
    refine ⟨sign ++ digits.dropLast, digits.getLast nonempty, '0', [], last, by decide, ?_⟩
    rw [spelled, List.append_assoc, List.append_assoc]
    conv => lhs; rw [← List.dropLast_concat_getLast nonempty]
    simp
  first := by
    rw [left, List.mem_append, not_or]
    constructor
    · simp only [List.mem_cons, List.not_mem_nil, or_false] at isSign
      rcases isSign with rfl | rfl | rfl <;> decide
    · intro mem
      exact absurd (isDigits '.' mem) (by decide)
  zero := ⟨[], by rw [spelled, left], by simp⟩

/-- What normalisation makes of a cell. -/
structure Normalizes (cell new : String) : Prop where
  changed_iff : new ≠ cell ↔ ∃ whole, ZeroFraction cell whole
  eq_whole : ∀ whole, ZeroFraction cell whole → new = whole
  eq_of_integer : ∀ number, integer? cell = some number → new = cell
  eq_number : ∀ sign ∈ [[], ['+'], ['-']], ∀ digits ≠ [], (∀ digit ∈ digits, digit.isDigit = true) →
    cell.toList = sign ++ digits ++ ['.', '0'] → new.toList = sign ++ digits
  settled : ∀ whole, ¬ZeroFraction new whole

theorem normalizes_normalizeCell (cell : String) : Normalizes cell (normalizeCell cell) where
  changed_iff := normalizeCell_ne_iff
  eq_whole := fun _ => normalizeCell_of_zeroFraction
  eq_of_integer := by
    intro number read
    by_contra changed
    rcases normalizeCell_ne_iff.mp changed with ⟨whole, fraction⟩
    exact not_mem_dot_of_integer? read fraction.mem_dot
  eq_number := by
    intro sign isSign digits nonempty isDigits spelled
    have left : (String.ofList (sign ++ digits)).toList = sign ++ digits := String.toList_ofList
    rw [normalizeCell_of_zeroFraction
      (zeroFraction_of_number isSign nonempty isDigits left spelled), left]
  settled := by
    intro whole fraction
    have changed := normalizeCell_ne_iff.mpr ⟨whole, fraction⟩
    exact changed (normalizeCell_normalizeCell cell)

/-! ### What becomes of a table -/

namespace Table

theorem isSome_integralPart?_iff {cell : String} :
    (integralPart? cell).isSome ↔ normalizeCell cell ≠ cell := by
  rw [normalizeCell_ne_iff, Option.isSome_iff_exists]
  simp only [integralPart?_eq_some_iff]

/-- The cells that are counted are those that are changed. -/
theorem decimalCells_eq (table : Table) :
    table.decimalCells =
      (table.rows.flatten.zip table.normalize.rows.flatten).countP
        (fun (cell, new) => new ≠ cell) := by
  have flat : table.normalize.rows.flatten = table.rows.flatten.map normalizeCell :=
    List.map_flatten.symm
  have paired := List.zip_map' (f := id) (g := normalizeCell) (l := table.rows.flatten)
  rw [List.map_id] at paired
  rw [flat, paired, List.countP_map, decimalCells]
  apply List.countP_congr
  intro cell mem
  rw [isSome_integralPart?_iff]
  simp

/-- Nothing that is done with a normalised table changes it. -/
theorem afterAll_normalize (table : Table) (later : List Action) :
    table.normalize.afterAll later = table.normalize := by
  rw [afterAll_eq, normalize_normalize, ite_self]

/--
Normalisation keeps the name and the columns of a table, and the rows and their cells in their
places. It shortens the cells with a zero fraction, whose number is the reply, and leaves the others
as they are. Nothing that is done afterwards, be it normalising again, finds a cell to change.
-/
theorem normalize_rewrites {name : String} {header : List String} {rows : List Row} {table : Table}
    (built : ofRows name header rows = .ok table) :
    table.normalize.name = name ∧ table.normalize.columns = table.columns ∧
      List.Forall₂ (List.Forall₂ Normalizes) rows table.normalize.rows ∧
      table.normalize.rows.map List.length = rows.map List.length ∧
      table.perform .normalize =
        (.rewritten ((rows.flatten.zip table.normalize.rows.flatten).countP
          (fun (cell, new) => new ≠ cell)), table.normalize) ∧
      ∀ later, table.normalize.afterAll later = table.normalize ∧
        ((table.normalize.afterAll later).perform .normalize).1 = .rewritten 0 := by
  rcases ofRows_eq_ok_iff.mp built with ⟨-, named, -, rfl⟩
  refine ⟨named, rfl, ?_, by simp [normalize], ?_, ?_⟩
  · simp only [normalize, List.forall₂_map_right_iff, List.forall₂_same]
    intro row _ cell _
    exact normalizes_normalizeCell cell
  · rw [perform, decimalCells_eq]
  · intro later
    rw [afterAll_normalize]
    exact ⟨rfl, congrArg Reply.rewritten table.decimalCells_normalize⟩

/-- A table of versions and sizes. -/
def versions : Table where
  name := "t"
  columns := ["version", "size"]
  rows := [["-6.0", "a.0"], ["a.0.1.5", "6.00"], ["1.0.0", "7"]]
  rectangular := by decide

/-- The dot after which the zero stands need not be the dot of the decimal. -/
theorem normalize_versions :
    ofRows "t" ["Version", "size"] versions.rows = .ok versions ∧
      List.Forall₂ (List.Forall₂ Normalizes) versions.rows
        [["-6", "a.0"], ["a", "6.00"], ["1", "7"]] ∧
      versions.perform .normalize = (.rewritten 3, versions.normalize) := by
  have built : ofRows "t" ["Version", "size"] versions.rows = .ok versions :=
    ofRows_eq_ok_iff.mpr ⟨by decide, rfl, by decide, rfl⟩
  have rows : versions.normalize.rows = [["-6", "a.0"], ["a", "6.00"], ["1", "7"]] := by decide
  rcases normalize_rewrites built with ⟨-, -, cells, -, counted, -⟩
  rw [rows] at cells counted
  exact ⟨built, cells, counted⟩

end Table

end CsvSelect
