import CsvSelect.Storage.Disk

/-!
# What writing leaves alone

Writing to a path changes one file. It never makes or removes a directory, and the entry that it
changes was no directory. So all paths lead to the same files as before (`Disk.target?`), and a path
to another file leads to the same bytes. These facts are collected in `Disk.ChangesOnly`, which
holds of a single write and is kept by one write after the other.

A write may not get all bytes into the file. It does if the file takes any number of them
(`Disk.Reliable`), and then bytes that are appended come behind the old ones.

Only the reason why a path leads nowhere may change: a name that was missing may be the name of a
file now. A path is followed from name to name, and what it leads to depends on nothing but the
entries that it meets on this way (`Disk.way`). If it does not meet the file that another path
writes to, it is apart from that path (`Disk.Apart`), and the reasons stay the same, too.
-/

namespace CsvSelect.Disk

/-! ### Ways -/

/--
The names that are looked up when the pieces are followed from the directory, up to the first ones
that lead to no directory.
-/
def passed (disk : Disk) (directory : List String) : List String → List (List String)
  | [] => []
  | piece :: pieces =>
      (directory ++ [piece]) ::
        match disk.enter directory piece with
        | .ok inner => passed disk inner pieces
        | .error _ => []

/-- The names that are looked up when the path is followed to its end. -/
def way (disk : Disk) (path : String) : List (List String) :=
  match disk.start path with
  | .ok start =>
      disk.passed start ((Path.pieces path).reverse.dropWhile (·.isEmpty)).reverse
  | .error _ => []

/-- The names of the file that is made or changed by writing to the path. -/
def target? (disk : Disk) (path : String) : Option (List String) :=
  (disk.writable path).toOption.map Prod.fst

/-- The paths do not write to one file. -/
def Differ (disk : Disk) (path other : String) : Prop :=
  ∀ names ∈ disk.target? path, disk.target? other ≠ some names

instance (disk : Disk) (path other : String) : Decidable (disk.Differ path other) :=
  inferInstanceAs (Decidable (∀ names ∈ disk.target? path, disk.target? other ≠ some names))

/-- The path does not meet the file that the other path writes to. -/
def Apart (disk : Disk) (path other : String) : Prop :=
  ∀ names ∈ disk.target? other, names ∉ disk.way path

instance (disk : Disk) (path other : String) : Decidable (disk.Apart path other) :=
  inferInstanceAs (Decidable (∀ names ∈ disk.target? other, names ∉ disk.way path))

/-- The file that the path writes to takes all bytes that are written to it. -/
def Reliable (disk : Disk) (path : String) : Prop :=
  ∀ names ∈ disk.target? path, disk.limit? names = none

instance (disk : Disk) (path : String) : Decidable (disk.Reliable path) :=
  inferInstanceAs (Decidable (∀ names ∈ disk.target? path, disk.limit? names = none))

/-- The bytes of the file that the path leads to, if there is one. -/
def content? (disk : Disk) (path : String) : Option (List UInt8) :=
  (disk.read path).toOption

/-- The bytes of the file that the names lead to from the root, if there is one. -/
def bytes? (disk : Disk) (names : List String) : Option (List UInt8) :=
  match disk.lookup names with
  | some (.file bytes) => some bytes
  | _ => none

theorem enter_congr {before after : Disk} {directory : List String} {piece : String}
    (same : after.lookup (directory ++ [piece]) = before.lookup (directory ++ [piece])) :
    after.enter directory piece = before.enter directory piece := by
  simp only [enter, same]

theorem foldlM_enter_congr {before after : Disk} {directory : List String} {pieces : List String}
    (agree : ∀ names ∈ before.passed directory pieces, after.lookup names = before.lookup names) :
    pieces.foldlM after.enter directory = pieces.foldlM before.enter directory := by
  induction pieces generalizing directory with
  | nil => rfl
  | cons piece pieces ih =>
      have first := enter_congr (agree (directory ++ [piece]) List.mem_cons_self)
      rw [List.foldlM_cons, List.foldlM_cons, first]
      cases entered : before.enter directory piece with
      | error error => rfl
      | ok inner =>
          refine ih fun names mem => agree names ?_
          rw [passed, entered]
          exact List.mem_cons_of_mem _ mem

theorem mem_passed_append {disk : Disk} {directory names : List String} {pieces : List String}
    (mem : names ∈ disk.passed directory pieces) (others : List String) :
    names ∈ disk.passed directory (pieces ++ others) := by
  induction pieces generalizing directory with
  | nil => simp [passed] at mem
  | cons piece pieces ih =>
      rw [passed] at mem
      rw [List.cons_append, passed]
      cases entered : disk.enter directory piece with
      | error error => simpa [entered] using mem
      | ok inner =>
          rw [entered] at mem
          rcases List.mem_cons.mp mem with rfl | later
          · exact List.mem_cons_self
          · exact List.mem_cons_of_mem _ (ih later)

/-- The names that come last on a way. -/
theorem mem_passed_of_foldlM {disk : Disk} {directory inner : List String} {pieces : List String}
    (reached : pieces.foldlM disk.enter directory = .ok inner) (last : String) :
    inner ++ [last] ∈ disk.passed directory (pieces ++ [last]) := by
  induction pieces generalizing directory with
  | nil =>
      rcases Except.ok.inj reached with rfl
      exact List.mem_cons_self
  | cons piece pieces ih =>
      rw [List.foldlM_cons] at reached
      rw [List.cons_append, passed]
      cases entered : disk.enter directory piece with
      | error error => rw [entered] at reached; exact absurd reached (by simp [bind, Except.bind])
      | ok next =>
          rw [entered] at reached
          exact List.mem_cons_of_mem _ (ih reached)

section

variable {before after : Disk} {path : String}

theorem start_congr (sameDirectory : after.workingDirectory = before.workingDirectory) :
    after.start path = before.start path := by
  simp only [start, sameDirectory]

/-- Where a path leads depends on the entries on its way only. -/
theorem place_congr (sameDirectory : after.workingDirectory = before.workingDirectory)
    (agree : ∀ names ∈ before.way path, after.lookup names = before.lookup names) :
    after.place path = before.place path := by
  rw [place, place, start_congr sameDirectory]
  rw [way] at agree
  cases started : before.start path with
  | error error => rfl
  | ok start =>
      rw [started] at agree
      simp only at agree ⊢
      generalize ((Path.pieces path).reverse.dropWhile (·.isEmpty)).reverse = named at agree
      cases ends : named.getLast? with
      | none => rfl
      | some last =>
          obtain ⟨others, rfl⟩ := List.getLast?_eq_some_iff.mp ends
          have inside := foldlM_enter_congr fun names mem => agree names (mem_passed_append mem _)
          simp only [foldlM_enter_congr agree, List.dropLast_concat, inside]

/-- The name that a path leads to is the last one on its way. -/
theorem mem_way_of_place {disk : Disk} {directory : List String} {name : String} {slash : Bool}
    (found : disk.place path = .ok (.name directory name slash)) :
    directory ++ [name] ∈ disk.way path := by
  rw [place] at found
  rw [way]
  cases started : disk.start path with
  | error error => simp [started] at found
  | ok start =>
      rw [started] at found
      simp only at found ⊢
      generalize ((Path.pieces path).reverse.dropWhile (·.isEmpty)).reverse = named at found
      cases ends : named.getLast? with
      | none => simp [ends] at found
      | some last =>
          obtain ⟨others, rfl⟩ := List.getLast?_eq_some_iff.mp ends
          simp only [ends, List.dropLast_concat] at found
          split at found
          · cases reached : (others ++ [last]).foldlM disk.enter start <;>
              simp [reached, Except.map] at found
          · split at found
            · simp at found
            · next inner reached =>
                obtain ⟨rfl, rfl, -⟩ : inner = directory ∧ last = name ∧ _ := by
                  simpa using found
                exact mem_passed_of_foldlM reached last

/-- What is found at the end of a path depends on the entries on its way only. -/
theorem read_congr (sameDirectory : after.workingDirectory = before.workingDirectory)
    (agree : ∀ names ∈ before.way path, after.lookup names = before.lookup names) :
    after.read path = before.read path := by
  rw [read, read, place_congr sameDirectory agree]
  cases found : before.place path with
  | error error => rfl
  | ok place =>
      cases place with
      | directory names => rfl
      | name directory name slash => simp only [find?, agree _ (mem_way_of_place found)]

theorem writable_congr (sameDirectory : after.workingDirectory = before.workingDirectory)
    (agree : ∀ names ∈ before.way path, after.lookup names = before.lookup names) :
    after.writable path = before.writable path := by
  rw [writable, writable, place_congr sameDirectory agree]
  cases found : before.place path with
  | error error => rfl
  | ok place =>
      cases place with
      | directory names => rfl
      | name directory name slash => simp only [find?, agree _ (mem_way_of_place found)]

end

/-! ### Writing -/

theorem writable_eq_ok_iff {disk : Disk} {path : String} {names : List String}
    {old : List UInt8} :
    disk.writable path = .ok (names, old) ↔
      ∃ directory name, disk.place path = .ok (.name directory name false) ∧
        name.utf8ByteSize ≤ maxNameLength ∧ names = directory ++ [name] ∧
          (disk.lookup names = some (.file old) ∨ disk.lookup names = none ∧ old = []) := by
  rw [writable]
  cases found : disk.place path with
  | error error => simp
  | ok place =>
      cases place with
      | directory names => simp
      | name directory name slash =>
          cases slash with
          | true => simp
          | false =>
              by_cases long : maxNameLength < name.utf8ByteSize
              · simp [find?, long, Nat.not_le.mpr long]
              · simp only [find?, long, if_false, Bool.false_eq_true]
                rcases entry : disk.lookup (directory ++ [name]) with _ | _ | _ <;>
                  grind

theorem target?_eq_some_iff {disk : Disk} {path : String} {names : List String} :
    disk.target? path = some names ↔ ∃ old, disk.writable path = .ok (names, old) := by
  rw [target?]
  cases found : disk.writable path with
  | error error => simp [Except.toOption]
  | ok place => simp [Except.toOption, Prod.ext_iff]

/-- A path writes to the name that it leads to, unless this is a directory. -/
theorem target?_eq_some_iff_place {disk : Disk} {path : String} {names : List String} :
    disk.target? path = some names ↔
      ∃ directory name, disk.place path = .ok (.name directory name false) ∧
        name.utf8ByteSize ≤ maxNameLength ∧ names = directory ++ [name] ∧
          disk.lookup names ≠ some .directory := by
  simp only [target?_eq_some_iff, writable_eq_ok_iff]
  constructor
  · rintro ⟨old, directory, name, found, short, same, file | ⟨none, -⟩⟩
    · exact ⟨directory, name, found, short, same, by simp [file]⟩
    · exact ⟨directory, name, found, short, same, by simp [none]⟩
  · rintro ⟨directory, name, found, short, same, noDirectory⟩
    cases entry : disk.lookup names with
    | none => exact ⟨[], directory, name, found, short, same, Or.inr ⟨rfl, rfl⟩⟩
    | some entry' =>
        cases entry' with
        | directory => exact absurd entry noDirectory
        | file old => exact ⟨old, directory, name, found, short, same, Or.inl rfl⟩

theorem lookup_ne_directory_of_target? {disk : Disk} {path : String} {names : List String}
    (found : disk.target? path = some names) :
    names ≠ [] ∧ disk.lookup names ≠ some .directory := by
  rcases target?_eq_some_iff_place.mp found with ⟨directory, name, -, -, rfl, noDirectory⟩
  exact ⟨by simp, noDirectory⟩

/-- A file that can be read can be written. -/
theorem content?_eq_bind (disk : Disk) (path : String) :
    disk.content? path = (disk.target? path).bind disk.bytes? := by
  rw [content?, read, target?, writable]
  cases disk.place path with
  | error error => rfl
  | ok place =>
      cases place with
      | directory names => rfl
      | name directory name slash =>
          simp only [find?]
          by_cases long : maxNameLength < name.utf8ByteSize
          · cases slash <;> simp [long, Except.toOption]
          · rcases entry : disk.lookup (directory ++ [name]) with _ | _ | _ <;> cases slash <;>
              simp [long, entry, bytes?, Except.toOption]

theorem differ_comm {disk : Disk} {path other : String} :
    disk.Differ path other ↔ disk.Differ other path :=
  ⟨fun differ names found written => differ names written found,
    fun differ names found written => differ names written found⟩

theorem lookup_put_self (disk : Disk) {names : List String} (proper : names ≠ []) (entry : Entry) :
    (disk.put names entry).lookup names = some entry := by
  simp [lookup, put, proper]

theorem lookup_put_of_ne (disk : Disk) {names other : List String} (different : other ≠ names)
    (entry : Entry) : (disk.put names entry).lookup other = disk.lookup other := by
  simp [lookup, put, different]

theorem enter_eq_ok_iff {disk : Disk} {directory inner : List String} {piece : String} :
    disk.enter directory piece = .ok inner ↔
      if Path.isSilent piece then directory = inner
      else if piece = ".." then directory.dropLast = inner
      else piece.utf8ByteSize ≤ maxNameLength ∧
        disk.lookup (directory ++ [piece]) = some .directory ∧ directory ++ [piece] = inner := by
  rw [enter]
  split
  · simp
  · split
    · simp
    · by_cases long : maxNameLength < piece.utf8ByteSize
      · simp [long, Nat.not_le.mpr long]
      · rcases entry : disk.lookup (directory ++ [piece]) with _ | _ | _ <;>
          simp [long, Nat.not_lt.mp long]

/--
Only files that the paths write to may differ, and they are no directories before and after.
-/
structure ChangesOnly (paths : List String) (before after : Disk) : Prop where
  directories : ∀ names,
    after.lookup names = some .directory ↔ before.lookup names = some .directory
  workingDirectory : after.workingDirectory = before.workingDirectory
  limit? : after.limit? = before.limit?
  elsewhere : ∀ names, (∀ path ∈ paths, before.target? path ≠ some names) →
    after.lookup names = before.lookup names

namespace ChangesOnly

variable {paths : List String} {before after : Disk}

theorem enter_eq_ok_iff (changes : ChangesOnly paths before after)
    {directory inner : List String} {piece : String} :
    after.enter directory piece = .ok inner ↔ before.enter directory piece = .ok inner := by
  simp only [Disk.enter_eq_ok_iff, changes.directories]

theorem foldlM_eq_ok_iff (changes : ChangesOnly paths before after)
    (directory : List String) (pieces : List String) (inner : List String) :
    pieces.foldlM after.enter directory = .ok inner ↔
      pieces.foldlM before.enter directory = .ok inner := by
  induction pieces generalizing directory with
  | nil => rfl
  | cons piece pieces ih =>
      simp only [List.foldlM_cons, bind, Except.bind]
      cases entered : before.enter directory piece with
      | ok next => simpa [changes.enter_eq_ok_iff.mpr entered] using ih next
      | error error =>
          cases enteredAfter : after.enter directory piece with
          | ok next => simp [changes.enter_eq_ok_iff.mp enteredAfter] at entered
          | error other => simp

/-- Paths lead to the same places. -/
theorem place_eq_ok_iff (changes : ChangesOnly paths before after) {path : String} {place : Place} :
    after.place path = .ok place ↔ before.place path = .ok place := by
  rw [Disk.place, Disk.place, start_congr changes.workingDirectory]
  cases before.start path with
  | error error => rfl
  | ok start =>
      simp only
      generalize ((Path.pieces path).reverse.dropWhile (·.isEmpty)).reverse = named
      cases named.getLast? with
      | none => rfl
      | some last =>
          simp only
          split
          · have same := changes.foldlM_eq_ok_iff start named
            cases reached : named.foldlM before.enter start <;>
              cases reachedAfter : named.foldlM after.enter start <;>
                grind [Except.map]
          · have same := changes.foldlM_eq_ok_iff start named.dropLast
            cases reached : named.dropLast.foldlM before.enter start <;>
              cases reachedAfter : named.dropLast.foldlM after.enter start <;>
                grind

theorem passed_eq (changes : ChangesOnly paths before after) (directory : List String)
    (pieces : List String) : after.passed directory pieces = before.passed directory pieces := by
  induction pieces generalizing directory with
  | nil => rfl
  | cons piece pieces ih =>
      simp only [passed]
      cases entered : before.enter directory piece with
      | ok next => simp [changes.enter_eq_ok_iff.mpr entered, ih]
      | error error =>
          cases enteredAfter : after.enter directory piece with
          | ok next => simp [changes.enter_eq_ok_iff.mp enteredAfter] at entered
          | error other => rfl

theorem way_eq (changes : ChangesOnly paths before after) (path : String) :
    after.way path = before.way path := by
  simp only [way, start_congr changes.workingDirectory, changes.passed_eq]

/-- Paths write to the same files. -/
theorem target?_eq (changes : ChangesOnly paths before after) (path : String) :
    after.target? path = before.target? path := by
  apply Option.ext
  intro names
  simp only [target?_eq_some_iff_place, changes.place_eq_ok_iff, ne_eq, changes.directories]

theorem differ_iff (changes : ChangesOnly paths before after) {path other : String} :
    after.Differ path other ↔ before.Differ path other := by
  simp only [Differ, changes.target?_eq]

theorem apart_iff (changes : ChangesOnly paths before after) {path other : String} :
    after.Apart path other ↔ before.Apart path other := by
  simp only [Apart, changes.target?_eq, changes.way_eq]

theorem reliable_iff (changes : ChangesOnly paths before after) {path : String} :
    after.Reliable path ↔ before.Reliable path := by
  simp only [Reliable, changes.target?_eq, changes.limit?]

theorem refl (paths : List String) (disk : Disk) : ChangesOnly paths disk disk :=
  ⟨fun _ => Iff.rfl, rfl, rfl, fun _ _ => rfl⟩

theorem trans {middle : Disk} (first : ChangesOnly paths before middle)
    (second : ChangesOnly paths middle after) : ChangesOnly paths before after where
  directories names := (second.directories names).trans (first.directories names)
  workingDirectory := second.workingDirectory.trans first.workingDirectory
  limit? := second.limit?.trans first.limit?
  elsewhere names other := by
    rw [second.elsewhere names fun path mem => first.target?_eq path ▸ other path mem,
      first.elsewhere names other]

theorem mono (changes : ChangesOnly paths before after) {others : List String}
    (subset : paths ⊆ others) : ChangesOnly others before after :=
  ⟨changes.directories, changes.workingDirectory, changes.limit?,
    fun names other => changes.elsewhere names fun path mem => other path (subset mem)⟩

/-- Another file holds the same bytes as before. -/
theorem content?_eq (changes : ChangesOnly paths before after) {path : String}
    (differ : ∀ other ∈ paths, before.Differ path other) :
    after.content? path = before.content? path := by
  rw [content?_eq_bind, content?_eq_bind, changes.target?_eq]
  cases found : before.target? path with
  | none => rfl
  | some names =>
      have same := changes.elsewhere names fun other mem => differ other mem names found
      simp only [Option.bind_some, bytes?, same]

/-- Nothing is noticed on the way of a path that is apart from all paths written to. -/
theorem lookup_eq_of_mem_way (changes : ChangesOnly paths before after) {path : String}
    (apart : ∀ other ∈ paths, before.Apart path other) :
    ∀ names ∈ before.way path, after.lookup names = before.lookup names :=
  fun names mem => changes.elsewhere names fun other written found =>
    apart other written names found mem

theorem read_eq (changes : ChangesOnly paths before after) {path : String}
    (apart : ∀ other ∈ paths, before.Apart path other) : after.read path = before.read path :=
  read_congr changes.workingDirectory (changes.lookup_eq_of_mem_way apart)

theorem writable_eq (changes : ChangesOnly paths before after) {path : String}
    (apart : ∀ other ∈ paths, before.Apart path other) :
    after.writable path = before.writable path :=
  writable_congr changes.workingDirectory (changes.lookup_eq_of_mem_way apart)

end ChangesOnly

section

variable {disk : Disk} {path : String} {names : List String}

theorem changesOnly_put (found : disk.target? path = some names) (bytes : List UInt8) :
    ChangesOnly [path] disk (disk.put names (.file bytes)) where
  directories other := by
    rcases lookup_ne_directory_of_target? found with ⟨proper, noDirectory⟩
    by_cases same : other = names
    · subst same
      simp [lookup_put_self disk proper, noDirectory]
    · rw [lookup_put_of_ne disk same]
  workingDirectory := rfl
  limit? := rfl
  elsewhere other different := by
    have apart : other ≠ names := fun same => different path List.mem_cons_self (same ▸ found)
    exact lookup_put_of_ne disk apart _

/-- The bytes that were written are read back. -/
theorem read_put (found : disk.target? path = some names) (bytes : List UInt8) :
    (disk.put names (.file bytes)).read path = .ok bytes := by
  have proper := (lookup_ne_directory_of_target? found).1
  rcases target?_eq_some_iff_place.mp found with ⟨directory, name, place, short, rfl, -⟩
  have placeAfter := (changesOnly_put found bytes).place_eq_ok_iff.mpr place
  rw [read, placeAfter]
  simp only [find?, Nat.not_lt.mpr short, if_false, lookup_put_self disk proper]
  rfl

theorem writable_of_target?_eq_none (missing : disk.target? path = none) :
    ∃ fault, disk.writable path = .error fault := by
  cases found : disk.writable path with
  | error fault => exact ⟨fault, rfl⟩
  | ok place => simp [target?, found, Except.toOption] at missing

theorem content?_of_writable {old : List UInt8} (found : disk.writable path = .ok (names, old)) :
    (disk.content? path).getD [] = old := by
  rcases writable_eq_ok_iff.mp found with
    ⟨directory, name, place, short, rfl, file | ⟨none, rfl⟩⟩
  · simp [content?, read, place, find?, Nat.not_lt.mpr short, file, Except.toOption]
  · simp [content?, read, place, find?, Nat.not_lt.mpr short, none, Except.toOption]

theorem changesOnly_write (found : disk.target? path = some names) (old bytes : List UInt8) :
    ChangesOnly [path] disk (disk.write names old bytes).2 := by
  rw [write]
  split
  · exact changesOnly_put found _
  · exact changesOnly_put found _

theorem changesOnly_append (disk : Disk) (path : String) (bytes : List UInt8) :
    ChangesOnly [path] disk (disk.append path bytes).2 := by
  rw [append]
  split
  · exact .refl _ _
  · next names old found => exact changesOnly_write (target?_eq_some_iff.mpr ⟨old, found⟩) _ _

theorem changesOnly_replace (disk : Disk) (path : String) (bytes : List UInt8) :
    ChangesOnly [path] disk (disk.replace path bytes).2 := by
  rw [replace]
  split
  · exact .refl _ _
  · next names old found => exact changesOnly_write (target?_eq_some_iff.mpr ⟨old, found⟩) _ _

theorem append_of_reliable {old : List UInt8} (reliable : disk.Reliable path)
    (found : disk.writable path = .ok (names, old)) (bytes : List UInt8) :
    disk.append path bytes = (.ok (), disk.put names (.file (old ++ bytes))) := by
  have unlimited := reliable names (target?_eq_some_iff.mpr ⟨old, found⟩)
  rw [append, found]
  simp only [write, unlimited]

/-- Bytes that are appended come behind what the file held; a missing file held nothing. -/
theorem content?_append {place : List String × List UInt8} (reliable : disk.Reliable path)
    (found : disk.writable path = .ok place) (bytes : List UInt8) :
    (disk.append path bytes).2.content? path = some ((disk.content? path).getD [] ++ bytes) := by
  have written := read_put (target?_eq_some_iff.mpr ⟨_, found⟩) (place.2 ++ bytes)
  rw [content?_of_writable found, append_of_reliable reliable found, content?, written]
  rfl

/-- Content is replaced as a whole, or only its beginning gets into the file, or nothing is done. -/
theorem replace_cases (disk : Disk) (path : String) (bytes : List UInt8) :
    (∃ fault, disk.writable path = .error fault ∧
      disk.replace path bytes = (.error fault, disk)) ∨
    ∃ names, disk.target? path = some names ∧
      (disk.replace path bytes = (.ok (), disk.put names (.file bytes)) ∨
        ∃ limit fault, disk.limit? names = some (limit, fault) ∧ limit < bytes.length ∧
          disk.replace path bytes = (.error fault, disk.put names (.file (bytes.take limit)))) := by
  rw [replace]
  cases found : disk.writable path with
  | error fault => exact Or.inl ⟨fault, rfl, rfl⟩
  | ok place =>
      rcases place with ⟨names, old⟩
      refine Or.inr ⟨names, target?_eq_some_iff.mpr ⟨old, found⟩, ?_⟩
      simp only [write, List.nil_append]
      cases limited : disk.limit? names with
      | none => exact Or.inl rfl
      | some bound =>
          rcases bound with ⟨limit, fault⟩
          by_cases fits : bytes.length ≤ limit
          · simp [fits, List.take_of_length_le fits]
          · exact Or.inr ⟨limit, fault, rfl, by omega, by simp [fits]⟩

/-- Whether all bytes get into a file does not depend on what it holds. -/
theorem fst_replace_congr {other : Disk} (sameWritable : other.writable path = disk.writable path)
    (sameLimits : other.limit? = disk.limit?) (bytes : List UInt8) :
    (other.replace path bytes).1 = (disk.replace path bytes).1 := by
  rw [replace, replace, sameWritable]
  cases disk.writable path with
  | error fault => rfl
  | ok place =>
      simp only [write, sameLimits]
      cases disk.limit? place.1 <;> rfl

theorem content?_put (found : disk.target? path = some names) (bytes : List UInt8) :
    (disk.put names (.file bytes)).content? path = some bytes := by
  rw [content?, read_put found]
  rfl

/-- Content is replaced alike on both disks, or on neither, and then the reasons may differ. -/
theorem ChangesOnly.replace_alike {paths : List String} {before after : Disk}
    (changes : ChangesOnly paths before after) (path : String) (bytes : List UInt8) :
    (∃ fault other, after.replace path bytes = (.error fault, after) ∧
      before.replace path bytes = (.error other, before)) ∨
    ∃ names answer taken, before.target? path = some names ∧
      after.replace path bytes = (answer, after.put names (.file taken)) ∧
      before.replace path bytes = (answer, before.put names (.file taken)) := by
  have sameTarget := changes.target?_eq path
  cases found : before.target? path with
  | none =>
      rw [found] at sameTarget
      rcases writable_of_target?_eq_none found with ⟨other, refused⟩
      rcases writable_of_target?_eq_none sameTarget with ⟨fault, refusedAfter⟩
      exact Or.inl ⟨fault, other, by rw [replace, refusedAfter], by rw [replace, refused]⟩
  | some names =>
      rw [found] at sameTarget
      rcases target?_eq_some_iff.mp found with ⟨old, writable⟩
      rcases target?_eq_some_iff.mp sameTarget with ⟨oldAfter, writableAfter⟩
      rw [replace, replace, writable, writableAfter]
      simp only [write, changes.limit?, List.nil_append]
      cases before.limit? names with
      | none => exact Or.inr ⟨names, _, _, rfl, rfl, rfl⟩
      | some bound => exact Or.inr ⟨names, _, _, rfl, rfl, rfl⟩

theorem read_replace {bytes : List UInt8} (written : (disk.replace path bytes).1 = .ok ()) :
    (disk.replace path bytes).2.read path = .ok bytes := by
  rcases replace_cases disk path bytes with
    ⟨fault, -, failed⟩ | ⟨names, found, done | ⟨limit, fault, -, -, failed⟩⟩
  · simp [failed] at written
  · rw [done]
    exact read_put found bytes
  · simp [failed] at written

end

end CsvSelect.Disk
