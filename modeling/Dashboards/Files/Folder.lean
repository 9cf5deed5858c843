import Dashboards.Files.Fault

/-!
# One folder

The store of dashboards is a folder, and so is every place that the program writes to. Its entries
are named, and each is a file or again a folder.

* `Node`, `Entries` : files and folders, the entries of a folder by name;
* `Folder` : what stands at the place of a folder, which may be missing or no folder;
* `Request`, `Reply` : the steps on a folder, each of which happens as a whole;
* `Folder.answer` : what a step replies and how it changes the folder.
-/

namespace Dashboards.Files

inductive Node where
  | file (content : ByteArray)
  | folder (entries : List (String × Node))
  deriving Inhabited

abbrev Entries := List (String × Node)

namespace Entries

def find? (name : String) : Entries → Option Node
  | [] => none
  | (n, node) :: rest => if n = name then some node else find? name rest

/-- Puts a node in the place of the entry of that name, or behind all others. -/
def set (name : String) (node : Node) : Entries → Entries
  | [] => [(name, node)]
  | (n, old) :: rest =>
    if n = name then (name, node) :: rest else (n, old) :: set name node rest

def erase (name : String) (entries : Entries) : Entries := entries.filter (·.1 ≠ name)

end Entries

/-- The place of a folder. -/
inductive Folder where
  | missing
  /-- No folder can be there, for instance because a file is in its place. -/
  | blocked (fault : Fault)
  | present (entries : Entries)
  deriving Inhabited

inductive Request where
  | read (name : String)
  | write (name : String) (content : ByteArray)
  /-- Makes the folder, and those above it, where they are missing. -/
  | make
  | list
  | rename (source target : String)
  | remove (name : String)
  | probe (name : String)

@[reducible] def Reply : Request → Type
  | .read _ => Except Fault ByteArray
  | .write _ _ => Except Fault Unit
  | .make => Except Fault Unit
  | .list => Except Fault (List String)
  | .rename _ _ => Except Fault Unit
  | .remove _ => Except Fault Unit
  | .probe _ => Except Fault Bool

/-- The number of bytes that a name may have. -/
def nameLimit : Nat := 255

/-- What stands under a name. -/
inductive Slot where
  | empty
  | file (content : ByteArray)
  | folder

/-- The slot of a name; a folder holds itself and the one above it under their usual names, and no
name is needed for the folder itself. -/
def Entries.slot (entries : Entries) (name : String) : Except Fault Slot :=
  if name = "" || name = "." || name = ".." then .ok .folder
  else if nameLimit < name.utf8ByteSize then .error .nameTooLong
  else
    match entries.find? name with
    | none => .ok .empty
    | some (.file content) => .ok (.file content)
    | some (.folder _) => .ok .folder

namespace Folder

/-- The slot of a name in what may be no folder. -/
def slot (folder : Folder) (name : String) : Except Fault Slot :=
  match folder with
  | .missing => .error .notFound
  | .blocked fault => .error fault
  | .present entries => entries.slot name

/-- A file can take the place of the name. -/
def target (folder : Folder) (name : String) : Except Fault Unit :=
  match folder.slot name with
  | .error fault => .error fault
  | .ok .folder => .error .isDirectory
  | .ok _ => .ok ()

def mapEntries (f : Entries → Entries) : Folder → Folder
  | .present entries => .present (f entries)
  | folder => folder

/-- One step on a folder. Files are read, written, moved and removed as a whole, and the target of a
move is replaced; none of this is done to folders. -/
def answer : (q : Request) → Folder → Reply q × Folder
  | .read name, folder =>
    (do match ← folder.slot name with
        | .empty => .error .notFound
        | .folder => .error .isDirectory
        | .file content => .ok content, folder)
  | .write name content, folder =>
    match folder.slot name with
    | .error fault => (.error fault, folder)
    | .ok .folder => (.error .isDirectory, folder)
    | .ok _ => (.ok (), folder.mapEntries (·.set name (.file content)))
  | .make, .missing => (.ok (), .present [])
  | .make, .blocked fault => (.error fault, .blocked fault)
  | .make, .present entries => (.ok (), .present entries)
  | .list, .missing => (.error .notFound, .missing)
  | .list, .blocked fault => (.error fault, .blocked fault)
  | .list, .present entries => (.ok (entries.map (·.1)), .present entries)
  | .rename source target, folder =>
    match folder.slot source, folder.target target with
    | .error fault, _ => (.error fault, folder)
    | .ok .empty, _ => (.error .notFound, folder)
    | .ok .folder, _ => (.error .isDirectory, folder)
    | .ok (.file _), .error fault => (.error fault, folder)
    | .ok (.file content), .ok () =>
      (.ok (), folder.mapEntries fun entries =>
        (entries.erase source).set target (.file content))
  | .remove name, folder =>
    match folder.slot name with
    | .error fault => (.error fault, folder)
    | .ok .empty => (.error .notFound, folder)
    | .ok .folder => (.error .isDirectory, folder)
    | .ok (.file _) => (.ok (), folder.mapEntries (·.erase name))
  | .probe name, folder =>
    (match folder.slot name with
      | .error .notFound => .ok false
      | .error fault => .error fault
      | .ok .empty => .ok false
      | .ok _ => .ok true, folder)

end Folder

end Dashboards.Files
