/-!
# Files

What the program needs from the world around it: whole files by their paths, directories to put
them in, and the time as text. Each operation on a file says why it fails.
-/

namespace CsvSelect

/-- Why an operation on a file fails. -/
inductive FileError where
  | notFound
  | notDirectory
  | isDirectory
  | nameTooLong
  | nullInPath
  | invalidUtf8
  | other (description : String)
deriving DecidableEq

/-- The words for an error, as the operating system gives them. -/
def FileError.message : FileError → String
  | .notFound => "No such file or directory (os error 2)"
  | .notDirectory => "Not a directory (os error 20)"
  | .isDirectory => "Is a directory (os error 21)"
  | .nameTooLong => "File name too long (os error 36)"
  | .nullInPath => "file name contained an unexpected NUL byte"
  | .invalidUtf8 => "stream did not contain valid UTF-8"
  | .other description => description

/-- The operations on files, and the time. -/
class Files (World : Type → Type) where
  read : String → World (Except FileError (List UInt8))
  /--
  Make the bytes the content of a file, which is created if there is none. If this fails, the file
  may hold the first of them.
  -/
  replace : String → List UInt8 → World (Except FileError Unit)
  /-- Add the bytes at the end of a file, which is created if there is none. -/
  append : String → List UInt8 → World (Except FileError Unit)
  makeDirectories : String → World (Except FileError Unit)
  exists? : String → World Bool
  /-- The time as `dd.mm.yyyy hh:mm:ss`. -/
  timestamp : World String
  /-- The date in universal time as `yyyy-mm-dd`. -/
  day : World String

end CsvSelect
