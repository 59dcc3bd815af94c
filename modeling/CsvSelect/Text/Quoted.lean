/-!
# Quoted text

A text is quoted by writing a delimiter before and after it and by doubling each delimiter inside.
`enclose` writes this form and `scan?` reads it back from the front of a longer text. Reading stops
at the first delimiter that is not doubled, so what follows a quoted text must not begin with the
delimiter.
-/

namespace CsvSelect.Text.Quoted

variable {Symbol : Type} [DecidableEq Symbol]

/-- The text with each delimiter doubled. -/
def double (delimiter : Symbol) (text : List Symbol) : List Symbol :=
  text.flatMap fun symbol => if symbol = delimiter then [delimiter, delimiter] else [symbol]

/-- The text between delimiters, with the delimiters inside it doubled. -/
def enclose (delimiter : Symbol) (text : List Symbol) : List Symbol :=
  delimiter :: (double delimiter text ++ [delimiter])

/--
What follows an opening delimiter, up to the closing one. The result is the quoted text and what
follows the closing delimiter; there is none if the text ends first. The symbols read so far are
handed on in reverse.
-/
def scanBody? (delimiter : Symbol) (read : List Symbol) :
    List Symbol → Option (List Symbol × List Symbol)
  | [] => none
  | [symbol] => if symbol = delimiter then some (read.reverse, []) else none
  | symbol :: following :: rest =>
      if symbol = delimiter then
        if following = delimiter then scanBody? delimiter (delimiter :: read) rest
        else some (read.reverse, following :: rest)
      else scanBody? delimiter (symbol :: read) (following :: rest)

@[simp] theorem double_nil (delimiter : Symbol) : double delimiter [] = [] := rfl

@[simp] theorem double_cons (delimiter symbol : Symbol) (text : List Symbol) :
    double delimiter (symbol :: text) =
      (if symbol = delimiter then [delimiter, delimiter] else [symbol]) ++
        double delimiter text := rfl

/-- Nothing is lost: what was scanned is the doubled text, the closing delimiter and the rest. -/
theorem double_append_of_scanBody? {delimiter : Symbol} {read input text rest : List Symbol}
    (scanned : scanBody? delimiter read input = some (text, rest)) :
    double delimiter read.reverse ++ input = double delimiter text ++ delimiter :: rest := by
  fun_induction scanBody? delimiter read input with
  | case1 => simp at scanned
  | case2 read =>
      obtain ⟨rfl, rfl⟩ := by simpa using scanned
      rfl
  | case3 => simp at scanned
  | case4 read rest' ih =>
      rw [← ih scanned]
      simp [double]
  | case5 read following rest' different =>
      obtain ⟨rfl, rfl⟩ := by simpa using scanned
      rfl
  | case6 read symbol following rest' different ih =>
      rw [← ih scanned]
      simp [double, different]

/-- A text that is not closed is a doubled one. -/
theorem exists_double_of_scanBody?_eq_none {delimiter : Symbol} {read input : List Symbol}
    (scanned : scanBody? delimiter read input = none) :
    ∃ text, double delimiter read.reverse ++ input = double delimiter text := by
  fun_induction scanBody? delimiter read input with
  | case1 read => exact ⟨read.reverse, List.append_nil _⟩
  | case2 => simp at scanned
  | case3 read symbol different =>
      exact ⟨read.reverse ++ [symbol], by simp [double, different]⟩
  | case4 read rest ih =>
      rcases ih scanned with ⟨text, same⟩
      exact ⟨text, by simpa [double] using same⟩
  | case5 => simp at scanned
  | case6 read symbol following rest different ih =>
      rcases ih scanned with ⟨text, same⟩
      exact ⟨text, by simpa [double, different] using same⟩

/-- A delimiter that another one follows is not the closing one. -/
theorem head?_ne_of_scanBody? {delimiter : Symbol} {read input text rest : List Symbol}
    (scanned : scanBody? delimiter read input = some (text, rest)) :
    rest.head? ≠ some delimiter := by
  fun_induction scanBody? delimiter read input with
  | case1 => simp at scanned
  | case2 read =>
      obtain ⟨rfl, rfl⟩ := by simpa using scanned
      simp
  | case3 => simp at scanned
  | case4 read rest' ih => exact ih scanned
  | case5 read following rest' different =>
      obtain ⟨rfl, rfl⟩ := by simpa using scanned
      simpa using different
  | case6 read symbol following rest' different ih => exact ih scanned

end CsvSelect.Text.Quoted
