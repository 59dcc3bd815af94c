import CsvSelect.Toml.Document

/-!
# Scanning TOML

The leaves of the format: blanks and comments, ends of lines, names, quoted texts, numbers, dates
and times. A scanner takes characters from the front of what is left of the text. Repetitions are
bounded by the characters left when they begin.
-/

namespace CsvSelect.Toml

/-- An answer from the front of a text, of which the rest is kept. -/
abbrev Scan := StateT (List Char) (Except Problem)

namespace Scan

/-- The failure where something else comes next than what is wanted. -/
def wanted {Answer : Type} (what : String) : Scan Answer :=
  throw (.unexpected what)

/-- The next character, which stays where it is. -/
def peek? : Scan (Option Char) := do
  return (← get).head?

/-- One of the characters comes next. -/
def seesAny (characters : List Char) : Scan Bool := do
  return (← peek?).any characters.contains

/-- The character comes next. -/
def sees (character : Char) : Scan Bool :=
  seesAny [character]

/-- The text comes next. -/
def seesText (text : String) : Scan Bool := do
  return text.toList.isPrefixOf (← get)

/-- Pass so many characters. -/
def skip (count : Nat) : Scan Unit :=
  modify (·.drop count)

/-- Pass the text if it comes next, and tell whether it does. -/
def accept (text : String) : Scan Bool := do
  if ← seesText text then
    skip text.length
    return true
  else return false

/-- Pass the next character if it is one of these, and tell whether it is. -/
def acceptAny (characters : List Char) : Scan Bool := do
  if ← seesAny characters then
    skip 1
    return true
  else return false

/-- Pass the text, which must come next. -/
def expect (text : String) : Scan Unit := do
  unless ← accept text do wanted text

/-- The characters up to the first of which this does not hold. -/
def takeWhile (holds : Char → Bool) : Scan (List Char) := do
  let (run, rest) := (← get).span holds
  set rest
  return run

/-- The answer of a scanner, or nothing and no progress if it fails. -/
def attempt {Answer : Type} (scan : Scan Answer) : Scan (Option Answer) := fun text =>
  match scan text with
  | .ok (answer, rest) => .ok (some answer, rest)
  | .error _ => .ok (none, text)

/--
The answers of a scanner until it has none, at most one for each character of `bound` and one more.
-/
def manyUpTo {Answer : Type} (scan : Scan (Option Answer)) (answers : List Answer)
    (bound : List Char) : Scan (List Answer) := do
  match ← scan with
  | none => return answers.reverse
  | some answer =>
      match bound with
      | [] => return (answer :: answers).reverse
      | _ :: bound => manyUpTo scan (answer :: answers) bound

/-- The answers of a scanner until it has none. -/
def many {Answer : Type} (scan : Scan (Option Answer)) : Scan (List Answer) := do
  manyUpTo scan [] (← get)

/-- Pass what a scanner passes, until it tells that it passes nothing. -/
def skipMany (scan : Scan Bool) : Scan Unit := do
  let _ ← many do return if ← scan then some () else none

end Scan

open Scan

/-- The character may stand between the parts of a line. -/
def isSpace (character : Char) : Bool :=
  character == ' ' || character == '\t'

/-- A character that may stand in a comment: a tab, or any but the control characters. -/
def isPrintable (character : Char) : Bool :=
  character == '\t' || (character.toNat >= 0x20 && character.toNat != 0x7F)

/-- Pass the spaces that come next. -/
def spaces : Scan Unit := do
  let _ ← takeWhile isSpace

/-- Pass the end of a line if it comes next, and tell whether it does. -/
def newline? : Scan Bool := do
  if ← accept "\n" then return true else accept "\r\n"

/-- Pass the comment that comes next, if there is one. -/
def comment : Scan Unit := do
  if ← accept "#" then
    let _ ← takeWhile isPrintable

/-- Pass what may follow on a line, and the end of the line or of the text. -/
def lineRest : Scan Unit := do
  spaces
  comment
  unless ← newline? do
    unless (← get).isEmpty do wanted "newline"

/-- Pass lines with nothing but a comment. -/
def blankLines : Scan Unit := do
  skipMany do
    spaces
    comment
    newline?

/-- The value of a hexadecimal digit. -/
def hexDigit? (character : Char) : Option Nat :=
  if character.isDigit then some (character.toNat - '0'.toNat)
  else if 'a' ≤ character && character ≤ 'f' then some (character.toNat - 'a'.toNat + 10)
  else if 'A' ≤ character && character ≤ 'F' then some (character.toNat - 'A'.toNat + 10)
  else none

/-- The character with the code in so many hexadecimal digits. -/
def codePoint (count : Nat) : Scan Char := do
  let digits := (← get).take count
  match digits.mapM hexDigit? with
  | none => wanted "hexadecimal digit"
  | some values =>
      let code := values.foldl (fun code digit => 16 * code + digit) 0
      if values.length = count && code.isValidChar then
        skip count
        return Char.ofNat code
      else wanted "unicode code point"

/-- The character that stands behind a backslash. -/
def escape : Scan Char := do
  let next ← peek?
  skip 1
  match next with
  | some 'b' => return Char.ofNat 0x08
  | some 't' => return '\t'
  | some 'n' => return '\n'
  | some 'f' => return Char.ofNat 0x0C
  | some 'r' => return '\r'
  | some '"' => return '"'
  | some '\\' => return '\\'
  | some 'u' => codePoint 4
  | some 'U' => codePoint 8
  | _ => wanted "escape"

/-- Plain characters or one escape in a text on one line. -/
def basicPiece? : Scan (Option (List Char)) := do
  let plain ← takeWhile fun character =>
    isPrintable character && character != '"' && character != '\\'
  if !plain.isEmpty then return some plain
  else if ← accept "\\" then return some [← escape]
  else return none

/-- A text on one line, between double quotes. -/
def basicString : Scan String := do
  expect "\""
  let pieces ← many basicPiece?
  expect "\""
  return String.ofList pieces.flatten

/-- A text on one line without escapes, between single quotes. -/
def literalString : Scan String := do
  expect "'"
  let plain ← takeWhile fun character => isPrintable character && character != '\''
  expect "'"
  return String.ofList plain

/--
The delimiters at the end of a text of several lines, or inside it. Three close the text; up to two
more before them belong to it. One or two inside are part of it.
-/
def delimiters? (delimiter : Char) : Scan (Option (List Char)) := do
  let run := ((← get).takeWhile (· == delimiter)).length
  if 1 ≤ run && run ≤ 2 then
    skip run
    return some (List.replicate run delimiter)
  else return none

/-- The delimiters that close a text of several lines, without those that belong to it. -/
def closing (delimiter : Char) : Scan (List Char) := do
  let run := ((← get).takeWhile (· == delimiter)).length
  if run < 3 then wanted "closing delimiter"
  else
    let kept := min (run - 3) 2
    skip (kept + 3)
    return List.replicate kept delimiter

/-- A backslash at the end of a line, with the blank beginning of what follows. -/
def continuation : Scan Unit := do
  expect "\\"
  spaces
  unless ← newline? do wanted "newline"
  skipMany do
    spaces
    newline?

/-- Plain characters, a line end, an escape or quotes in a text of several lines. -/
def multilineBasicPiece? : Scan (Option (List Char)) := do
  let plain ← takeWhile fun character =>
    isPrintable character && character != '"' && character != '\\'
  if !plain.isEmpty then return some plain
  else if ← newline? then return some ['\n']
  else if ← sees '\\' then
    match ← attempt continuation with
    | some () => return some []
    | none =>
        skip 1
        return some [← escape]
  else delimiters? '"'

/-- A text of several lines, between three double quotes. -/
def multilineBasicString : Scan String := do
  expect "\"\"\""
  let _ ← newline?
  let pieces ← many multilineBasicPiece?
  return String.ofList (pieces.flatten ++ (← closing '"'))

/-- Plain characters, a line end or quotes in a text of several lines without escapes. -/
def multilineLiteralPiece? : Scan (Option (List Char)) := do
  let plain ← takeWhile fun character => isPrintable character && character != '\''
  if !plain.isEmpty then return some plain
  else if ← newline? then return some ['\n']
  else delimiters? '\''

/-- A text of several lines without escapes, between three single quotes. -/
def multilineLiteralString : Scan String := do
  expect "'''"
  let _ ← newline?
  let pieces ← many multilineLiteralPiece?
  return String.ofList (pieces.flatten ++ (← closing '\''))

/-- A text of any of the four forms. -/
def anyString : Scan String := do
  if ← seesText "\"\"\"" then multilineBasicString
  else if ← seesText "'''" then multilineLiteralString
  else if ← sees '"' then basicString
  else literalString

/-- The character may stand in a key without quotes. -/
def isKeyCharacter (character : Char) : Bool :=
  character.isAlphanum || character == '-' || character == '_'

/-- One part of a dotted key. -/
def keyPart : Scan String := do
  if ← sees '"' then basicString
  else if ← sees '\'' then literalString
  else
    let word ← takeWhile isKeyCharacter
    if word.isEmpty then wanted "key" else return String.ofList word

/-- A key has fewer parts than this, and values nest less deep. -/
def depthLimit : Nat := 80

/--
A key with dots between its parts, and blanks around them: all parts but the last, and the last.
-/
def key : Scan (List String × String) := do
  spaces
  let first ← keyPart
  spaces
  let others ← many do
    if ← accept "." then
      spaces
      let part ← keyPart
      spaces
      return some part
    else return none
  let parts := first :: others
  if depthLimit ≤ parts.length then throw .tooDeep
  return (parts.dropLast, parts.getLast?.getD first)

end CsvSelect.Toml
