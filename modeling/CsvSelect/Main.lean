import Std.Time.Zoned
import CsvSelect.CommandLine

/-!
# The program

The operations of a run on the real files, streams and clock. Everything that is decided is decided
in `CommandLine.start`.
-/

namespace CsvSelect.Program

/-- The number and the words of the operating system for an error. -/
def systemError? : IO.Error → Option (Nat × String)
  | .alreadyExists _ code words | .otherError code words | .resourceBusy code words
  | .resourceVanished code words | .unsupportedOperation code words | .hardwareFault code words
  | .unsatisfiedConstraints code words | .illegalOperation code words | .protocolError code words
  | .timeExpired code words | .interrupted _ code words | .noFileOrDirectory _ code words
  | .invalidArgument _ code words | .permissionDenied _ code words
  | .resourceExhausted _ code words | .inappropriateType _ code words
  | .noSuchThing _ code words => some (min code.toNat (0 - code).toNat, words)
  | .unexpectedEof | .userError _ => none

/-- The error of an operation on a file. -/
def fileError (error : IO.Error) : FileError :=
  match systemError? error with
  | some (2, _) => .notFound
  | some (20, _) => .notDirectory
  | some (21, _) => .isDirectory
  | some (36, _) => .nameTooLong
  | some (number, words) => .other (words ++ " (os error " ++ toString number ++ ")")
  | none => .other (toString error)

/-- The answer of an operation on a file, unless the path cannot be one. -/
def onFile {Answer : Type} (path : String) (operation : IO Answer) :
    IO (Except FileError Answer) := do
  if path.toList.contains (Char.ofNat 0) then return .error .nullInPath
  else if path.isEmpty then return .error .notFound
  else try
    return .ok (← operation)
  catch error => return .error (fileError error)

/-- A number with zeros in front of it, up to this width. -/
def padded (width : Nat) (number : Int) : String :=
  let digits := toString number
  "".pushn '0' (width - digits.length) ++ digits

/-- The time in universal time. -/
def universalNow : IO Std.Time.PlainDateTime := do
  return .ofWallTime (.ofTimestamp (← Std.Time.Timestamp.now) .zero)

/-- The local time, or the universal time where there is none. -/
def now : IO Std.Time.PlainDateTime := do
  try Std.Time.PlainDateTime.now
  catch _ => universalNow

/-- The operations on the real files. -/
instance : Files IO where
  read path := onFile path do return (← IO.FS.readBinFile path).data.toList
  replace path bytes := onFile path (IO.FS.writeBinFile path ⟨bytes.toArray⟩)
  append path bytes := onFile path do
    let handle ← IO.FS.Handle.mk path .append
    handle.write ⟨bytes.toArray⟩
  makeDirectories path := onFile path (IO.FS.createDirAll path)
  exists? path := do
    match ← onFile path (IO.FS.Handle.mk path .read) with
    | .ok _ => return true
    | .error (.other _) => return true
    | .error _ => return false
  timestamp := do
    let now ← now
    let date := ".".intercalate
      [padded 2 now.day.toInt, padded 2 now.month.toInt, padded 4 now.year.toInt]
    let time := ":".intercalate
      [padded 2 now.hour.toInt, padded 2 now.minute.toInt, padded 2 now.second.toInt]
    return date ++ " " ++ time
  day := do
    let now ← universalNow
    return "-".intercalate
      [padded 4 now.year.toInt, padded 2 now.month.toInt, padded 2 now.day.toInt]

/-- The bytes of a stream up to the end of a line, behind those already read. -/
partial def readLine (stream : IO.FS.Stream) (bytes : ByteArray) : IO (List UInt8) := do
  let next ← stream.read 1
  if next.isEmpty || next.data.contains 0x0A then return (bytes ++ next).data.toList
  else readLine stream (bytes ++ next)

/-- The operations on the real streams. -/
instance : Console IO where
  readLine := do readLine (← IO.getStdin) .empty
  print text := do
    let stdout ← IO.getStdout
    stdout.putStr text
    stdout.flush
  printError text := do (← IO.getStderr).putStr text

end CsvSelect.Program

/-- Answer one request, as the arguments say. -/
def main (arguments : List String) : IO UInt32 :=
  CsvSelect.CommandLine.start arguments
