import Dashboards.Failure
import Dashboards.Files.Folder
import Dashboards.Program
import Dashboards.Timestamp

/-!
# What a run asks of the world

* `Session.Request`, `Session.Reply` : files, input and output, the clock, and names never used
  before;
* `Session.Task` : a program that asks the world and may end in a diagnostic;
* `request`, `ask`, `askFile` : one request, by itself or in a task, which a fault of a file ends.
-/

namespace Dashboards.Session

open Files (Fault)

inductive Request where
  /-- A step on the folder of a path. -/
  | files (folder : String) (q : Files.Request)
  /-- Moves a file of a folder to the place of a path. -/
  | move (folder name destination : String)
  /-- The folder that the program works in and those above it, the nearest first. -/
  | surroundings
  /-- All that is left of the standard input. -/
  | input
  | print (text : String)
  /-- Text for whoever watches the run. -/
  | report (text : String)
  | now
  | freshUuid
  /-- A name for a file that is soon moved to its place. -/
  | freshName

@[reducible] def Reply : Request → Type
  | .files _ q => Files.Reply q
  | .move _ _ _ => Except Fault Unit
  | .surroundings => List String
  | .input => Except Fault ByteArray
  | .print _ => Except Fault Unit
  | .report _ => Except Fault Unit
  | .now => Timestamp
  | .freshUuid => String
  | .freshName => String

/-- A program that asks the world and ends in an outcome. -/
abbrev Task (α : Type) := ExceptT Diagnostic (Program Reply) α

/-- One request, whatever comes of it. -/
def request (q : Request) : Program Reply (Reply q) := Program.request q

def ask (q : Request) : Task (Reply q) := ExceptT.lift (request q)

def fail (d : Diagnostic) : Task α := throw d

/-- Ends the task in a fault, under some circumstance. -/
def failFault (circumstance : String) (fault : Fault) : Task α :=
  fail ((Diagnostic.general [fault.message]).within circumstance)

/-- A step on a folder; a fault is reported under some circumstance. -/
def askFile (circumstance folder : String) (q : Files.Request)
    (reply : Files.Reply q → Except Fault α) : Task α := do
  match reply (← ask (.files folder q)) with
  | .ok a => return a
  | .error fault => failFault circumstance fault

/-- Adds a circumstance to the diagnostic that a task ends in. -/
def within (circumstance : String) (task : Task α) : Task α :=
  tryCatch task fun d => fail (d.within circumstance)

end Dashboards.Session
