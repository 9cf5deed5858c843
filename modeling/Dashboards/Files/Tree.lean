import Dashboards.Files.Folder
import Dashboards.Files.Making

/-!
# Folders inside folders

Paths lead through a tree of folders. Each name on the way has to be that of a folder which is
there, also where the path turns back behind it.

* `Tree` : the entries at the top, and where paths begin that are not absolute;
* `Tree.walk` : the names on the straight way from the top to the folder of a path;
* `Tree.make`, `Tree.makeAll` : makes one folder; makes a folder and those above it;
* `Tree.answer` : a step on the folder of a path;
* `Tree.move` : moves a file of a folder to the place of a path.
-/

namespace Dashboards.Files

namespace Entries

/-- The node at the end of a straight way down. -/
def nodeAt? : List String → Entries → Option Node
  | [], entries => some (.folder entries)
  | name :: names, entries =>
    match entries.find? name with
    | some (.folder inner) => nodeAt? names inner
    | some (.file content) => if names.isEmpty then some (.file content) else none
    | none => none

/-- The entries with the folder at the end of a straight way changed. -/
def changeAt (f : Entries → Entries) : List String → Entries → Entries
  | [], entries => f entries
  | name :: names, entries =>
    match entries.find? name with
    | some (.folder inner) => entries.set name (.folder (changeAt f names inner))
    | _ => entries

end Entries

structure Tree where
  top : Entries
  /-- The names on the way from the top to the folder where other paths than absolute ones begin. -/
  here : List String
  deriving Inhabited

/-- The number of bytes that a path may have. -/
def pathLimit : Nat := 4095

def checkPath (path : String) : Except Fault Unit :=
  if path = "" then .error .notFound
  else if pathLimit < path.utf8ByteSize then .error .nameTooLong
  else .ok ()

/-- The paths that a step on a folder is about. -/
def Request.paths (folder : String) : Request → List String
  | .read name => [join folder name]
  | .write name _ => [join folder name]
  | .make => [folder]
  | .list => [folder]
  | .rename source target => [join folder source, join folder target]
  | .remove name => [join folder name]
  | .probe name => [join folder name]

namespace Tree

/-- The absolute path of the folder where other paths begin. -/
def herePath (t : Tree) : String := "/" ++ "/".intercalate t.here

/-! ## Ways -/

/-- One more name on a way. The folder above the top is the top. -/
def enter (t : Tree) (way : List String) (name : String) : Except Fault (List String) :=
  if name = "" || name = "." then .ok way
  else if name = ".." then .ok way.dropLast
  else if nameLimit < name.utf8ByteSize then .error .nameTooLong
  else
    match t.top.nodeAt? (way ++ [name]) with
    | none => .error .notFound
    | some (.file _) => .error .notDirectory
    | some (.folder _) => .ok (way ++ [name])

def walk (t : Tree) (path : String) : Except Fault (List String) :=
  (path.splitOn "/").foldlM t.enter (if isAbsolute path then [] else t.here)

/-- The folder at the end of a straight way. -/
def folderAt (t : Tree) (way : List String) : Folder :=
  match t.top.nodeAt? way with
  | some (.folder entries) => .present entries
  | some (.file _) => .blocked .notDirectory
  | none => .missing

/-- The tree with the folder at the end of a straight way changed. -/
def change (t : Tree) (way : List String) (f : Entries → Entries) : Tree :=
  { t with top := t.top.changeAt f way }

/-! ## Making folders -/

/-- Makes a folder in one that is there. -/
def make (path : String) (t : Tree) : Except Fault Unit × Tree :=
  let place := Place.ofPath path
  match (do checkPath path; t.walk place.folder) with
  | .error fault => (.error fault, t)
  | .ok way =>
    if place.isNameless then (.error .alreadyExists, t)
    else
      match (t.folderAt way).slot place.name with
      | .error fault => (.error fault, t)
      | .ok .empty => (.ok (), t.change way (·.set place.name (.folder [])))
      | .ok _ => (.error .alreadyExists, t)

def isFolder (t : Tree) (path : String) : Bool :=
  match (do checkPath path; t.walk path) with
  | .ok _ => true
  | .error _ => false

def makeAll (path : String) (t : Tree) : Except Fault Unit × Tree :=
  StateT.run (m := Id) (makeWithHolders make (fun path t => (t.isFolder path, t)) path) t

/-! ## Steps -/

/-- A step on the folder of a path. -/
def answer (path : String) (q : Request) (t : Tree) : Reply q × Tree :=
  match q with
  | .make => t.makeAll path
  | q =>
    match (do (q.paths path).forM checkPath; t.walk path) with
    | .error fault => ((Folder.answer q (.blocked fault)).1, t)
    | .ok way =>
      match Folder.answer q (t.folderAt way) with
      | (reply, .present entries) => (reply, t.change way fun _ => entries)
      | (reply, _) => (reply, t)

/-- A file can take the place, which is in the folder at the end of a straight way. -/
def target (t : Tree) (place : Place) (way : List String) : Except Fault Unit :=
  if place.isNameless then .error .busy
  else do
    match ← (t.folderAt way).slot place.name, place.slashed with
    | _, true => throw .notDirectory
    | .folder, false => throw .isDirectory
    | _, false => return ()

/-- Moves a file of a folder to the place of a path, where it replaces what is there. -/
def move (path name : String) (destination : String) (t : Tree) : Except Fault Unit × Tree :=
  let place := Place.ofPath destination
  let outcome : Except Fault (List String × List String × ByteArray) := do
    checkPath (join path name)
    checkPath destination
    let source ← t.walk path
    let way ← t.walk place.folder
    match (t.folderAt source).slot name with
    | .error fault => throw fault
    | .ok .empty => throw .notFound
    | .ok .folder => throw .isDirectory
    | .ok (.file content) =>
      t.target place way
      return (source, way, content)
  match outcome with
  | .error fault => (.error fault, t)
  | .ok (source, way, content) =>
    (.ok (), (t.change source (·.erase name)).change way (·.set place.name (.file content)))

end Tree

end Dashboards.Files
