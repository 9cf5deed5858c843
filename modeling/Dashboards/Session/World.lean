import Dashboards.Files.Tree
import Dashboards.Session.Request

/-!
# A world for runs

* `World` : a tree of files, what is on the input of a run, what it has written, a clock that
  stands, and a supply of names;
* `World.answer` : the reply to a request and the world after it.
-/

namespace Dashboards.Session

structure World where
  files : Files.Tree
  input : ByteArray
  output : String
  reports : String
  now : Timestamp
  uuid : Nat → String
  /-- How many names have been made. -/
  made : Nat

namespace World

/-- The name of a file that is soon moved to its place. -/
def temporaryName (n : Nat) : String := ".tmp" ++ toString n

def answer : (q : Request) → World → Reply q × World
  | .files folder q, w =>
    let (reply, files) := w.files.answer folder q
    (reply, { w with files })
  | .move folder name destination, w =>
    let (outcome, files) := w.files.move folder name destination
    (outcome, { w with files })
  | .surroundings, w => (Files.withAncestors w.files.herePath, w)
  | .input, w => (.ok w.input, { w with input := ByteArray.empty })
  | .print text, w => (.ok (), { w with output := w.output ++ text })
  | .report text, w => (.ok (), { w with reports := w.reports ++ text })
  | .now, w => (w.now, w)
  | .freshUuid, w => (w.uuid w.made, { w with made := w.made + 1 })
  | .freshName, w => (temporaryName w.made, { w with made := w.made + 1 })

end World

end Dashboards.Session
