import Dashboards.Files.Path
import Dashboards.Files.Fault

/-!
# Making a folder and those above it

* `makeFirst` : makes the first of some folders, each of which holds the one before it;
* `makeWithHolders` : makes the folder of a path, and those above it where they are missing.
-/

namespace Dashboards.Files

variable {m : Type → Type} [Monad m]

/-- A folder whose holder is missing is made after its holder. A folder that is there already is as
good as a new one. -/
def makeFirst (make : String → m (Except Fault Unit)) (isFolder : String → m Bool) :
    List String → m (Except Fault Unit)
  | [] => return .ok ()
  | folder :: holders => do
    match ← make folder with
    | .error .notFound =>
      match ← makeFirst make isFolder holders with
      | .error fault => return .error fault
      | .ok () => settle folder (← make folder)
    | outcome => settle folder outcome
where
  settle (folder : String) : Except Fault Unit → m (Except Fault Unit)
    | .error .alreadyExists =>
      return if ← isFolder folder then .ok () else .error .alreadyExists
    | outcome => return outcome

def makeWithHolders (make : String → m (Except Fault Unit)) (isFolder : String → m Bool)
    (path : String) : m (Except Fault Unit) :=
  makeFirst make isFolder (holders path)

end Dashboards.Files
