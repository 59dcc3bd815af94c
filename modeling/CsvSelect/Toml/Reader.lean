import CsvSelect.Toml.Number

/-!
# Reading TOML

A document is a sequence of lines: blank ones, keys with their values, and headers of tables.
Values nest only so deep.
-/

namespace CsvSelect.Toml

open Scan

/-- The values in an array, up to its closing bracket. -/
def arrayElements (value : Scan Node) : Scan (List Node) := do
  blankLines
  many do
    if ← sees ']' then return none
    let element ← value
    blankLines
    if ← accept "," then blankLines
    else unless ← sees ']' do wanted "comma"
    return some element

/-- A key in an inline table, with its value. -/
def inlineEntry (value : Scan Node) : Scan ((List String × String) × Node) := do
  let name ← key
  expect "="
  spaces
  let node ← value
  spaces
  return (name, node)

/-- The keys of an inline table after its brace, which stand on one line without a final comma. -/
def inlineEntries (value : Scan Node) : Scan Entries := do
  spaces
  if ← sees (Char.ofNat 0x7D) then return []
  let first ← inlineEntry value
  let others ← many do
    if ← accept "," then return some (← inlineEntry value) else return none
  let assign := fun (entries : Entries) (entry : (List String × String) × Node) =>
    entries.assign entry.1.1 entry.1.2 entry.2
  match (first :: others).foldlM assign [] with
  | .ok entries => return entries
  | .error problem => throw problem

/-- A value that holds no other values. -/
def scalar : Scan Node := do
  if ← seesAny ['"', '\''] then return .string (← anyString)
  else if ← accept "true" then return .boolean true
  else if ← accept "false" then return .boolean false
  else if (← attempt moment).isSome then return .moment
  else number

/-- A value of at most so many levels of arrays and inline tables. -/
def value : Nat → Scan Node
  | 0 => do
      if ← seesAny ['[', Char.ofNat 0x7B] then throw .tooDeep else scalar
  | depth + 1 => do
      if ← accept "[" then
        let elements ← arrayElements (value depth)
        expect "]"
        return .array elements
      else if ← accept "\x7b" then
        let entries ← inlineEntries (value depth)
        expect "\x7d"
        return .table .inline entries
      else scalar

/-- The draft behind the header of a table. -/
def header (draft : Draft) : Scan Draft := do
  let isElement ← accept "["
  let (path, name) ← key
  expect (if isElement then "]]" else "]")
  lineRest
  match if isElement then draft.openElement path name else draft.openTable path name with
  | .ok draft => return draft
  | .error problem => throw problem

/-- The draft behind a line with a key and its value. -/
def entry (draft : Draft) : Scan Draft := do
  let (path, name) ← key
  expect "="
  spaces
  let node ← value (depthLimit - 1)
  lineRest
  match draft.assign path name node with
  | .ok draft => return draft
  | .error problem => throw problem

/-- The document after the lines that are left, of which there are at most so many. -/
def lines (draft : Draft) : Nat → Scan Draft
  | 0 => return draft
  | bound + 1 => do
      spaces
      if (← get).isEmpty then return draft
      else if ← seesAny ['#', '\n', '\r'] then
        lineRest
        lines draft bound
      else if ← accept "[" then lines (← header draft) bound
      else lines (← entry draft) bound

/-- The keys of a document. A byte order mark at the very beginning is passed over. -/
def read (text : String) : Except Problem Entries := do
  let characters := text.toList
  let marked := characters.head? == some (Char.ofNat 0xFEFF)
  let characters := if marked then characters.drop 1 else characters
  let (draft, _) ← (lines {} (characters.length + 1)).run characters
  draft.finish

/-- The package that the program runs with. -/
instance standard : Decoder where
  decode document :=
    match read document with
    | .ok entries => .ok (entries.map fun (key, node) => (key, node.value))
    | .error problem => .error problem.message
  mismatch _ key wanted := s!"TOML parse error: {key} must be {wanted}"

end CsvSelect.Toml
