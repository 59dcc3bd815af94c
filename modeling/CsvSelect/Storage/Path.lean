/-!
# Paths

A path is a text of names between slashes. Empty names and single dots name nothing and are passed
over; two dots name the directory above. A path names a file if a proper name comes last, and the
file lies in the directory that the path before this name leads to. A table is called after its
file: the file name without the ending `.csv`, or else without its extension.
-/

namespace CsvSelect.Path

/-- The pieces between slashes; `piece` is the beginning of the first, in reverse. -/
def splitFrom (piece : List Char) : List Char → List (List Char)
  | [] => [piece.reverse]
  | character :: rest =>
      if character = '/' then piece.reverse :: splitFrom [] rest
      else splitFrom (character :: piece) rest

/-- The pieces of a path between its slashes. -/
def pieces (path : String) : List String :=
  (splitFrom [] path.toList).map String.ofList

/-- The piece names nothing. -/
def isSilent (piece : String) : Bool :=
  piece == "" || piece == "."

/-- The path begins at the root. -/
def isAbsolute (path : String) : Bool :=
  path.toList.head? == some '/'

/-- The path without its last name, and without what names nothing around that. -/
def directory (path : String) : String :=
  match (pieces path).reverse.dropWhile isSilent with
  | [] => "."
  | _ :: before =>
      match before.dropWhile isSilent with
      | [] => if isAbsolute path then "/" else "."
      | kept => "/".intercalate kept.reverse

/-- The last name in a path, unless the path leads to a directory above. -/
def fileName? (path : String) : Option String :=
  match ((pieces path).filter (!isSilent ·)).getLast? with
  | some name => if name = ".." then none else some name
  | none => none

/-- The text in front of an ending, if it has this ending. -/
def withoutEnding? (ending text : List Char) : Option (List Char) :=
  if ending.isSuffixOf text then some (text.take (text.length - ending.length)) else none

/-- The ending of the files that hold tables. -/
def tableEnding : List Char := ".csv".toList

/--
The name without the last dot and what follows it. A name without a dot, or whose only dot comes
first, stays as it is.
-/
def withoutExtension (name : List Char) : List Char :=
  let stem := ((name.reverse.dropWhile (· != '.')).drop 1).reverse
  if stem.isEmpty then name else stem

/-- The name of the table in the file that the path leads to; empty if it leads to no file. -/
def tableName (path : String) : String :=
  match fileName? path with
  | none => ""
  | some name =>
      String.ofList <| (withoutEnding? tableEnding name.toList).getD (withoutExtension name.toList)

end CsvSelect.Path
