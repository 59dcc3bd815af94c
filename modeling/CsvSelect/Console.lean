import CsvSelect.Storage.Disk
import CsvSelect.Text.Bytes

/-!
# Consoles

A program reads lines from its standard input and prints to its standard output and its standard
error. A terminal holds these streams beside a disk.
-/

namespace CsvSelect

/-- Standard input, standard output and standard error. -/
class Console (World : Type → Type) where
  /-- The bytes of standard input up to the end of a line, or of the input. -/
  readLine : World (List UInt8)
  print : String → World Unit
  printError : String → World Unit

/-- A disk, what is left of standard input, and what has been printed. -/
structure Terminal where
  disk : Disk
  input : List UInt8 := []
  output : String := ""
  errors : String := ""

namespace Terminal

/-- Do with the disk of a terminal what can be done with a disk. -/
def onDisk {Answer : Type} (operation : StateM Disk Answer) : StateM Terminal Answer :=
  fun terminal =>
    let (answer, disk) := operation terminal.disk
    (answer, { terminal with disk })

/-- The operations on the files of a terminal. -/
instance : Files (StateM Terminal) where
  read path := onDisk (Files.read path)
  replace path bytes := onDisk (Files.replace path bytes)
  append path bytes := onDisk (Files.append path bytes)
  makeDirectories path := onDisk (Files.makeDirectories path)
  exists? path := onDisk (Files.exists? path)
  timestamp := onDisk Files.timestamp
  day := onDisk Files.day

/-- The operations on the streams of a terminal. -/
instance : Console (StateM Terminal) where
  readLine := fun terminal =>
    let (line, input) := Text.splitLine terminal.input
    (line, { terminal with input })
  print text := modify fun terminal => { terminal with output := terminal.output ++ text }
  printError text := modify fun terminal => { terminal with errors := terminal.errors ++ text }

end Terminal

end CsvSelect
