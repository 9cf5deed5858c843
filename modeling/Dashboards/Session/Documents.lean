import Dashboards.Document
import Dashboards.Files.Path
import Dashboards.Session.Request

/-!
# Reading documents and writing results

* `isStandardInput` : the path that stands for the standard input;
* `readText`, `readDocument` : the text and the document of a path;
* `writeText` : puts a text in a file, as a whole or not at all.
-/

namespace Dashboards.Session

open Files (Fault)

/-- A dash, also one that is written as a folder. -/
def isStandardInput (path : String) : Bool := Files.dropEnd path.toList.reverse = ['-']

def readText (path : String) : Task String := do
  if isStandardInput path then
    match (← ask .input).bind Files.textOf with
    | .ok text => return text
    | .error fault => failFault "Failed to read stdin" fault
  else
    let (folder, name) := Files.split path
    askFile ("Failed to read " ++ path) folder (.read name) fun reply => reply.bind Files.textOf

def readDocument (path : String) : Task Json.Value := do
  match Document.parse (← readText path) with
  | .ok document => return document
  | .error flaw =>
    let failure := Diagnostic.ofFailure (.invalidDocument flaw.message)
    fail (failure.within ("Failed to parse " ++ path))

/-- The folder that holds the entry of a path, written as in messages. -/
def folderOf (path : String) : String :=
  match Files.parent path with
  | "" => "."
  | folder => folder

/-- What is said where a file cannot take its place. -/
def moveFailure (path : String) (fault : Fault) : Diagnostic :=
  (Diagnostic.general ["failed to persist temporary file: " ++ fault.message, fault.message]).within
    ("Failed to write file: " ++ path)

/-- Writes a file beside the place of the path first, which is made if it is missing. -/
def writeText (path text : String) : Task Unit := do
  let folder := folderOf path
  askFile ("Failed to create directory: " ++ folder) folder .make id
  let name ← ask .freshName
  askFile ("Failed to create temp file in: " ++ folder) folder (.write name text.toUTF8) id
  match ← ask (.move folder name path) with
  | .ok () => return ()
  | .error fault =>
    let _ ← ask (.files folder (.remove name))
    fail (moveFailure path fault)

end Dashboards.Session
