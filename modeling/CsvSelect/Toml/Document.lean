/-!
# TOML documents

The program leaves the format of its settings to a package for TOML. It asks for the keys of a
document with what stands under them, and for the words where something else stands under a key
than it can use. Texts and integers are all that it uses.

The rest of this module is how a document is put together by the package that the program runs with.
A document is a table of keys. Tables come into being in different ways, and the way decides what
may still be added: a table under its own header is complete once, a table that only stands on the
way to another may get a header later, a table made by a dotted key grows only by dotted keys, and
an inline table or any other value is closed.
-/

namespace CsvSelect.Toml

/-! ### What is asked of a document -/

/-- What stands under a key, as far as settings use it. -/
inductive Value where
  | text (text : String)
  | integer (value : Int)
  | other
deriving DecidableEq

/-- What the program needs of a package for TOML. -/
class Decoder where
  /-- The keys of a document with what stands under them, or the words for what is wrong with it. -/
  decode : String → Except String (List (String × Value))
  /-- The words where in this document something else than what is wanted stands under the key. -/
  mismatch (document key wanted : String) : String

/-! ### Tables -/

/-- What can be wrong with a document. -/
inductive Problem where
  | unexpected (wanted : String)
  | duplicateKey (key : String)
  | closedValue (key : String)
  | numberOutOfRange
  | tooDeep
deriving DecidableEq

/-- The words for a problem. -/
def Problem.message : Problem → String
  | .unexpected wanted => s!"TOML parse error: expected {wanted}"
  | .duplicateKey key => s!"TOML parse error: duplicate key {key}"
  | .closedValue key => s!"TOML parse error: {key} cannot be extended"
  | .numberOutOfRange => "TOML parse error: number out of range"
  | .tooDeep => "TOML parse error: nested too deeply"

/-- How a table came into being. -/
inductive TableKind where
  | explicit
  /-- On the way to the table of a header. -/
  | implied
  | dotted
  | inline
deriving DecidableEq

/-- What a key stands for. Of a float and of a date or time only the kind is kept. -/
inductive Node where
  | string (text : String)
  | integer (value : Int)
  | float
  | boolean (value : Bool)
  | moment
  | array (elements : List Node)
  | table (kind : TableKind) (entries : List (String × Node))
  /-- The tables under the headers of an array of tables, of which there is at least one. -/
  | tables (last : List (String × Node)) (earlier : List (List (String × Node)))

/-- The keys of a table with what they stand for. -/
abbrev Entries := List (String × Node)

/-- What settings see of a node. -/
def Node.value : Node → Value
  | .string text => .text text
  | .integer value => .integer value
  | _ => .other

/-- The entries with this node under the key, which keeps its place if it is there. -/
def Entries.set (entries : Entries) (key : String) (node : Node) : Entries :=
  if entries.any (·.1 == key) then
    entries.map fun entry => if entry.1 == key then (key, node) else entry
  else entries ++ [(key, node)]

/--
The entries after a change to the table that the path leads to. Tables on the way are made where
there are none: by a dotted key or by a header. A dotted key cannot pass through a table that has a
header of its own.
-/
def Entries.change (entries : Entries) (dotted : Bool)
    (alter : TableKind → Entries → Except Problem Entries) (kind : TableKind) :
    List String → Except Problem Entries
  | [] => alter kind entries
  | key :: path =>
      match entries.lookup key with
      | none => do
          let made := if dotted then TableKind.dotted else TableKind.implied
          let inner ← Entries.change [] dotted alter made path
          return entries.set key (.table made inner)
      | some (.table .inline _) => .error (.closedValue key)
      | some (.table kind inner) =>
          if dotted && kind == .explicit then .error (.duplicateKey key)
          else do
            let inner ← Entries.change inner dotted alter kind path
            return entries.set key (.table kind inner)
      | some (.tables last earlier) => do
          let last ← Entries.change last dotted alter .explicit path
          return entries.set key (.tables last earlier)
      | some _ => .error (.closedValue key)

/-- The entries of the table that the path leads to. -/
def Entries.inside (entries : Entries) : List String → Entries
  | [] => entries
  | key :: path =>
      match entries.lookup key with
      | some (.table _ inner) => Entries.inside inner path
      | some (.tables last _) => Entries.inside last path
      | _ => []

/--
A new node under a key of a table: reached by a dotted key exactly if the table was made by one.
-/
def Entries.add (throughPath : Bool) (key : String) (node : Node) (kind : TableKind)
    (entries : Entries) : Except Problem Entries :=
  if (kind == .dotted) != throughPath || entries.any (·.1 == key) then .error (.duplicateKey key)
  else .ok (entries ++ [(key, node)])

/-- The entries with a node under a dotted key, of which `path` are all parts but the last. -/
def Entries.assign (entries : Entries) (path : List String) (key : String) (node : Node) :
    Except Problem Entries :=
  entries.change true (Entries.add (!path.isEmpty) key node) .explicit path

/-- The table under a header that is being read, and the document without it. -/
structure Draft where
  root : Entries := []
  path : List String := []
  isElement : Bool := false
  entries : Entries := []

namespace Draft

/-- The document with the table of the last header in its place. -/
def finish (draft : Draft) : Except Problem Entries :=
  match draft.path.getLast? with
  | none => .ok draft.entries
  | some key =>
      let place := fun (_ : TableKind) (entries : Entries) =>
        if draft.isElement then
          match entries.lookup key with
          | none => .ok (entries.set key (.tables draft.entries []))
          | some (.tables last earlier) =>
              .ok (entries.set key (.tables draft.entries (last :: earlier)))
          | some _ => .error (.duplicateKey key)
        else .ok (entries.set key (.table .explicit draft.entries))
      draft.root.change false place .explicit draft.path.dropLast

/-- The draft at the header of a table, which may have been implied before. -/
def openTable (draft : Draft) (path : List String) (key : String) : Except Problem Draft := do
  let free := fun (_ : TableKind) (entries : Entries) =>
    match entries.lookup key with
    | none | some (.table .implied _) => .ok entries
    | some _ => .error (.duplicateKey key)
  let root ← (← draft.finish).change false free .explicit path
  return { root, path := path ++ [key], entries := root.inside (path ++ [key]) }

/-- The draft at the header of one more table in an array of tables. -/
def openElement (draft : Draft) (path : List String) (key : String) : Except Problem Draft := do
  let free := fun (_ : TableKind) (entries : Entries) =>
    match entries.lookup key with
    | none | some (.tables _ _) => .ok entries
    | some _ => .error (.duplicateKey key)
  let root ← (← draft.finish).change false free .explicit path
  return { root, path := path ++ [key], isElement := true }

/-- The draft with a node under a dotted key of its table. -/
def assign (draft : Draft) (path : List String) (key : String) (node : Node) :
    Except Problem Draft := do
  return { draft with entries := ← draft.entries.assign path key node }

end Draft

end CsvSelect.Toml
