/-!
# Paths

A path names an entry of a folder, by the names on the way to it.

* `isAbsolute` : a path that does not depend on where it is used;
* `join` : the path of an entry in a folder;
* `split` : the text up to the last slash and the name behind it, which `join` puts together again;
* `parent` : the folder of a path as it is shown, empty for a bare name;
* `holders` : a path, the folder that holds it, and so on;
* `Place` : the entry that a path names, which may have to be a folder;
* `withAncestors` : a folder and those above it;
* `hasExtension` : a name with something before the point of its extension.
-/

namespace Dashboards.Files

def isAbsolute (path : String) : Bool := path.startsWith "/"

/-- A slash is put between folder and name where none is there. -/
def join (folder name : String) : String :=
  if folder = "" || folder.endsWith "/" then folder ++ name else folder ++ "/" ++ name

/-- The folder that a path begins with, as far as its last slash, and the name behind it. A path
that ends in a slash names the folder itself. -/
def split (path : String) : String × String :=
  let reversed := path.toList.reverse
  (String.ofList (reversed.dropWhile (· ≠ '/')).reverse,
    String.ofList (reversed.takeWhile (· ≠ '/')).reverse)

/-- Drops slashes, and points that stand for the folder itself, from the end of a reversed path. -/
def dropEnd : List Char → List Char
  | '/' :: [] => ['/']
  | '/' :: rest => dropEnd rest
  | '.' :: '/' :: rest => dropEnd ('/' :: rest)
  | path => path

/-- The path without its last component. -/
def parent (path : String) : String :=
  let trimmed := dropEnd path.toList.reverse
  String.ofList (dropEnd (trimmed.dropWhile (· ≠ '/'))).reverse

/-- The first of a path, the folder that holds it, and so on. -/
def holdersUpTo : Nat → String → List String
  | 0, _ => []
  | n + 1, path => if path = "" then [] else path :: holdersUpTo n (parent path)

/-- A path, the folder that holds it, and so on, as far as the path names them. -/
def holders (path : String) : List String := holdersUpTo (path.splitOn "/").length path

/-- The entry that a path names. -/
structure Place where
  /-- The way to the folder that holds the entry. -/
  folder : String
  name : String
  /-- The path ends in a slash, so the entry has to be a folder. -/
  slashed : Bool
  deriving DecidableEq, Repr

namespace Place

def ofPath (path : String) : Place :=
  let reversed := path.toList.reverse
  let trimmed := reversed.dropWhile (· = '/')
  ⟨String.ofList (trimmed.dropWhile (· ≠ '/')).reverse,
    String.ofList (trimmed.takeWhile (· ≠ '/')).reverse, trimmed.length < reversed.length⟩

/-- The place is not known by a name of its own: it is the top, or found from another folder. -/
def isNameless (p : Place) : Bool := p.name = "" || p.name = "." || p.name = ".."

end Place

/-- The folder of an absolute path and those above it, the nearest first. -/
def withAncestors (path : String) : List String :=
  let names := (path.splitOn "/").filter (· ≠ "")
  (List.range (names.length + 1)).map fun n =>
    "/" ++ "/".intercalate (names.take (names.length - n))

/-- The name ends in a point and the extension, and something stands before them. -/
def hasExtension (extension name : String) : Bool :=
  name.endsWith ("." ++ extension) && extension.length + 1 < name.length

end Dashboards.Files
