import CsvSelect.Session
import CsvSelect.Storage.Disk

/-!
# Actions on a disk

An action has an answer and leaves a disk behind. Loading a table leaves the disk as it is, and
writing rows is the replacement of a file by their bytes.
-/

namespace CsvSelect.Disk

variable {Answer Next : Type}

/-- The answer of an action and the disk behind it. -/
def perform (disk : Disk) (action : StateM Disk Answer) : Answer × Disk :=
  action.run disk

/-- The disk when it is this time. -/
def setClock (disk : Disk) (time : String) : Disk :=
  { disk with clock := time }

theorem clock_setClock (disk : Disk) (time : String) : (disk.setClock time).clock = time := rfl

theorem perform_bind (disk : Disk) (action : StateM Disk Answer)
    (next : Answer → StateM Disk Next) :
    disk.perform (action >>= next) =
      (disk.perform action).2.perform (next (disk.perform action).1) := rfl

section

variable [Csv.Codec]

theorem perform_load (disk : Disk) (path : String) :
    disk.perform (Table.load path) =
      (match disk.read path with
        | .error fault => .error (.file fault)
        | .ok bytes => Table.ofBytes path bytes, disk) := by
  have read : disk.perform (Files.read path) = (disk.read path, disk) := rfl
  rw [Table.load, perform_bind, read]
  cases disk.read path <;> rfl

theorem perform_writeRows (disk : Disk) (path : String) (rows : List Row) :
    disk.perform (writeRows path rows) =
      ((disk.replace path (Csv.encodeRows rows)).1.mapError .file,
        (disk.replace path (Csv.encodeRows rows)).2) := by
  have written : disk.perform (Files.replace path (Csv.encodeRows rows)) =
      disk.replace path (Csv.encodeRows rows) := rfl
  rw [writeRows, perform_bind, written]
  cases (disk.replace path (Csv.encodeRows rows)).1 <;> rfl

end

end CsvSelect.Disk
