import CsvSelect.Text.Casing.Mapping
import CsvSelect.Text.Casing.Class

/-!
# Upper and lower case

The full case mappings of Unicode, in which a character may become several and a sigma becomes final
at the end of a word. The mappings of the ASCII letters are the usual ones and need no table.
`sameIgnoringCase` compares the ASCII letters without regard to case and all other characters as
they are.
-/

namespace CsvSelect.Text

open Casing

/-- The lower case of one character, away from the end of a word. -/
def lowerCharacter (character : Char) : List Char :=
  if character.toNat < 0x80 then [character.toLower]
  else if character.toNat = 0x130 then [Char.ofNat 0x69, Char.ofNat 0x307]
  else [Char.ofNat (moveBy lowerRuns character.toNat)]

/-- The upper case of one character. -/
def upperCharacter (character : Char) : List Char :=
  if character.toNat < 0x80 then [character.toUpper]
  else match upperExpansions.lookup character.toNat with
    | some codes => codes.map Char.ofNat
    | none => [Char.ofNat (moveBy upperRuns character.toNat)]

/-- The characters reach a cased one over case-ignorable ones only. -/
def reachesCased (characters : List Char) : Bool :=
  match characters.dropWhile isIgnorable with
  | [] => false
  | character :: _ => isCased character

/--
The lower case of a sigma: the final form if a cased character comes before it, and none after it,
in the same word. `before` holds the preceding characters in reverse.
-/
def lowerSigma (before after : List Char) : Char :=
  if reachesCased before && !reachesCased after then Char.ofNat 0x3C2 else Char.ofNat 0x3C3

/--
The lower case of the characters that follow `before`, put behind `lowered`. Both are handed on in
reverse.
-/
def lowerFrom (before lowered : List Char) : List Char → List Char
  | [] => lowered.reverse
  | character :: after =>
      let lower :=
        if character.toNat = 0x3A3 then [lowerSigma before after] else lowerCharacter character
      lowerFrom (character :: before) (lower.reverse ++ lowered) after

/-- The text in lower case. -/
def lowercase (text : String) : String :=
  String.ofList (lowerFrom [] [] text.toList)

/-- The text in upper case. -/
def uppercase (text : String) : String :=
  String.ofList (text.toList.flatMap upperCharacter)

/-- The texts differ at most in the case of ASCII letters. -/
def sameIgnoringCase (left right : String) : Bool :=
  left.toList.map Char.toLower == right.toList.map Char.toLower

end CsvSelect.Text
