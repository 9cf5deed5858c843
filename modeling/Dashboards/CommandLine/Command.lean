/-!
# Commands

* `Command` : what the program is asked to do, with its arguments;
* `Verb` : the word that names a command, `Verb.name` and `Verb.ofName?`;
* `Verb.slot?` : what the argument at some place is, if there may be one;
* `Verb.command?` : the command of a verb and its arguments, unless some are missing.
-/

namespace Dashboards

inductive Command where
  | create (file : String)
  | list
  | get (uuid : String)
  | update (uuid file : String)
  | delete (uuid : String)
  | setLocked (uuid : String) (locked : Bool)
  | report
  | metricUsage (metrics : List String)
  | analyze (files : List String)
  | diff (old new : String)
  deriving DecidableEq, Repr, Inhabited

namespace CommandLine

inductive Verb where
  | create
  | list
  | get
  | update
  | delete
  | lock
  | unlock
  | report
  | metricUsage
  | analyze
  | diff
  deriving DecidableEq, Repr

/-- An argument is any text, or a path, which is not empty. -/
inductive Slot where
  | text
  | path
  deriving DecidableEq, Repr

namespace Verb

def all : List Verb :=
  [.create, .list, .get, .update, .delete, .lock, .unlock, .report, .metricUsage, .analyze, .diff]

def name : Verb → String
  | .create => "create"
  | .list => "list"
  | .get => "get"
  | .update => "update"
  | .delete => "delete"
  | .lock => "lock"
  | .unlock => "unlock"
  | .report => "report"
  | .metricUsage => "metric-usage"
  | .analyze => "analyze"
  | .diff => "diff"

def ofName? (name : String) : Option Verb := all.find? (·.name = name)

theorem ofName?_name (verb : Verb) : ofName? verb.name = some verb := by
  cases verb <;> decide +kernel

def slots : Verb → List Slot
  | .create => [.path]
  | .get | .delete | .lock | .unlock => [.text]
  | .update => [.text, .path]
  | .metricUsage => [.text]
  | .analyze => [.path]
  | .diff => [.path, .path]
  | .list | .report => []

/-- The arguments are all of one kind, and there may be any number of them above zero. -/
def repeats : Verb → Bool
  | .metricUsage | .analyze => true
  | _ => false

def slot? (verb : Verb) (index : Nat) : Option Slot :=
  if verb.repeats then verb.slots.head? else verb.slots[index]?

def command? : Verb → List String → Option Command
  | .create, [file] => some (.create file)
  | .list, [] => some .list
  | .get, [uuid] => some (.get uuid)
  | .update, [uuid, file] => some (.update uuid file)
  | .delete, [uuid] => some (.delete uuid)
  | .lock, [uuid] => some (.setLocked uuid true)
  | .unlock, [uuid] => some (.setLocked uuid false)
  | .report, [] => some .report
  | .metricUsage, metric :: metrics => some (.metricUsage (metric :: metrics))
  | .analyze, file :: files => some (.analyze (file :: files))
  | .diff, [old, new] => some (.diff old new)
  | _, _ => none

end Verb

end CommandLine

end Dashboards
