import CsvSelect.Storage.Files
import CsvSelect.Storage.Path

/-!
# Disks

A disk holds files and directories in a tree and has a working directory, a clock and a calendar.
It gives a meaning to the operations on files: a path is followed from name to name through
directories, and the file that it leads to is read, replaced or appended to.

Opening a file to replace its content empties it. After that the bytes are written, and a file may
take only some of them. Then the operation fails, and what was taken stays in the file.
-/

namespace CsvSelect

/-- What a name can stand for. -/
inductive Entry where
  | file (bytes : List UInt8)
  | directory
deriving DecidableEq

/-- A tree of files, by the names that lead to them from the root. -/
structure Disk where
  entry : List String → Option Entry := fun _ => none
  workingDirectory : List String := []
  clock : String := ""
  calendar : String := ""
  /-- How many bytes a file takes at once, if not all, and the fault where there are more. -/
  limit? : List String → Option (Nat × FileError) := fun _ => none

/-- Where a path leads: to a directory, or to a name in one. -/
inductive Place where
  | directory (names : List String)
  /-- The name need not exist. `slash` tells that a slash follows it. -/
  | name (directory : List String) (name : String) (slash : Bool)
deriving DecidableEq

namespace Disk

/-- The greatest number of bytes in a name. -/
def maxNameLength : Nat := 255

/-- The greatest number of bytes in a path. -/
def maxPathLength : Nat := 4095

/-- The entry that the names lead to from the root; the root is a directory. -/
def lookup (disk : Disk) (names : List String) : Option Entry :=
  if names.isEmpty then some .directory else disk.entry names

/-- The directory behind one more piece of a path. -/
def enter (disk : Disk) (directory : List String) (piece : String) :
    Except FileError (List String) :=
  if Path.isSilent piece then .ok directory
  else if piece = ".." then .ok directory.dropLast
  else if maxNameLength < piece.utf8ByteSize then .error .nameTooLong
  else match disk.lookup (directory ++ [piece]) with
    | none => .error .notFound
    | some (.file _) => .error .notDirectory
    | some .directory => .ok (directory ++ [piece])

/-- The names of the directory that a path begins at, unless the text cannot be a path. -/
def start (disk : Disk) (path : String) : Except FileError (List String) :=
  if path.toList.contains (Char.ofNat 0) then .error .nullInPath
  else if path.isEmpty then .error .notFound
  else if maxPathLength < path.utf8ByteSize then .error .nameTooLong
  else .ok (if Path.isAbsolute path then [] else disk.workingDirectory)

/-- Where a path leads. -/
def place (disk : Disk) (path : String) : Except FileError Place :=
  match disk.start path with
  | .error error => .error error
  | .ok start =>
      let pieces := Path.pieces path
      let named := (pieces.reverse.dropWhile (·.isEmpty)).reverse
      match named.getLast? with
      | none => .ok (.directory start)
      | some last =>
          if Path.isSilent last || last = ".." then
            (named.foldlM disk.enter start).map .directory
          else match named.dropLast.foldlM disk.enter start with
            | .error error => .error error
            | .ok directory => .ok (.name directory last (named.length < pieces.length))

/-- What a name stands for in a directory. -/
def find? (disk : Disk) (directory : List String) (name : String) :
    Except FileError (Option Entry) :=
  if maxNameLength < name.utf8ByteSize then .error .nameTooLong
  else .ok (disk.lookup (directory ++ [name]))

/-- The disk with an entry at these names. -/
def put (disk : Disk) (names : List String) (entry : Entry) : Disk :=
  { disk with entry := fun other => if other = names then some entry else disk.entry other }

/-- The bytes of the file that a path leads to. -/
def read (disk : Disk) (path : String) : Except FileError (List UInt8) :=
  match disk.place path with
  | .error error => .error error
  | .ok (.directory _) => .error .isDirectory
  | .ok (.name directory name slash) =>
      match disk.find? directory name with
      | .error error => .error error
      | .ok none => .error .notFound
      | .ok (some .directory) => .error .isDirectory
      | .ok (some (.file bytes)) => if slash then .error .notDirectory else .ok bytes

/--
The names that lead to a file that can be written, and its bytes if it exists. A slash behind the
name asks for a directory, whatever the name.
-/
def writable (disk : Disk) (path : String) : Except FileError (List String × List UInt8) :=
  match disk.place path with
  | .error error => .error error
  | .ok (.directory _) => .error .isDirectory
  | .ok (.name directory name slash) =>
      if slash then .error .isDirectory
      else match disk.find? directory name with
        | .error error => .error error
        | .ok none => .ok (directory ++ [name], [])
        | .ok (some .directory) => .error .isDirectory
        | .ok (some (.file bytes)) => .ok (directory ++ [name], bytes)

/--
Write bytes to the file at these names behind the old ones, which stay in any case. The file may not
take all of the bytes.
-/
def write (disk : Disk) (names : List String) (old bytes : List UInt8) :
    Except FileError Unit × Disk :=
  match disk.limit? names with
  | none => (.ok (), disk.put names (.file (old ++ bytes)))
  | some (limit, fault) =>
      (if bytes.length ≤ limit then .ok () else .error fault,
        disk.put names (.file (old ++ bytes.take limit)))

/-- Make the bytes the content of a file, which is emptied first. -/
def replace (disk : Disk) (path : String) (bytes : List UInt8) : Except FileError Unit × Disk :=
  match disk.writable path with
  | .error error => (.error error, disk)
  | .ok (names, _) => disk.write names [] bytes

/-- Add the bytes at the end of a file. -/
def append (disk : Disk) (path : String) (bytes : List UInt8) : Except FileError Unit × Disk :=
  match disk.writable path with
  | .error error => (.error error, disk)
  | .ok (names, old) => disk.write names old bytes

/-- The disk after the directories along the pieces were made where they were missing. -/
def makeAlong (disk : Disk) (directory : List String) : List String → Except FileError Unit × Disk
  | [] => (.ok (), disk)
  | piece :: pieces =>
      match disk.enter directory piece with
      | .ok directory => makeAlong disk directory pieces
      | .error .notFound =>
          let made := directory ++ [piece]
          makeAlong (disk.put made .directory) made pieces
      | .error error => (.error error, disk)

/-- Make a directory and those on the way to it where they are missing. -/
def makeDirectories (disk : Disk) (path : String) : Except FileError Unit × Disk :=
  match disk.start path with
  | .error error => (.error error, disk)
  | .ok start => disk.makeAlong start (Path.pieces path)

/-- The path leads to a file or a directory. -/
def exists? (disk : Disk) (path : String) : Bool :=
  match disk.place path with
  | .error _ => false
  | .ok (.directory _) => true
  | .ok (.name directory name slash) =>
      match disk.find? directory name with
      | .error _ | .ok none => false
      | .ok (some .directory) => true
      | .ok (some (.file _)) => !slash

/-- The operations on files as actions on a disk. -/
instance : Files (StateM Disk) where
  read path := fun disk => (disk.read path, disk)
  replace path bytes := fun disk => disk.replace path bytes
  append path bytes := fun disk => disk.append path bytes
  makeDirectories path := fun disk => disk.makeDirectories path
  exists? path := fun disk => (disk.exists? path, disk)
  timestamp := fun disk => (disk.clock, disk)
  day := fun disk => (disk.calendar, disk)

end Disk

end CsvSelect
