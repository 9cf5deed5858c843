import Dashboards.Files.Path
import Dashboards.Text.Blank

/-!
# Variables of the environment

* `Variable` : the value of a variable, which is not always text;
* `Variable.behind?` : what follows a text that a value begins with;
* `Environment` : named variables, and the home that the system keeps for the user's account;
* `get?`, `text?` : the value found under a name, and its text;
* `set`, `unset`, `setDefault` : one variable changed;
* `setting?` : the text of a variable without white space around it, unless nothing is left;
* `home?`, `dataFolder?` : where the user's files are, and where programs keep their data.
-/

namespace Dashboards

inductive Variable where
  | text (value : String)
  /-- Bytes that encode no text. -/
  | undecodable (bytes : List UInt8)
  deriving DecidableEq, Repr, Inhabited

namespace Variable

def ofBytes (bytes : List UInt8) : Variable :=
  match String.fromUTF8? ⟨bytes.toArray⟩ with
  | some value => .text value
  | none => .undecodable bytes

def text? : Variable → Option String
  | .text value => some value
  | .undecodable _ => none

/-- The rest of a value that begins with the given text. -/
def behind? (start : List Char) : Variable → Option Variable
  | .text value =>
    if start.isPrefixOf value.toList then
      some (.text (String.ofList (value.toList.drop start.length)))
    else none
  | .undecodable bytes =>
    let start := (String.ofList start).toUTF8.data.toList
    if start.isPrefixOf bytes then some (ofBytes (bytes.drop start.length)) else none

end Variable

structure Environment where
  bindings : List (String × Variable)
  accountHome : Option String
  deriving DecidableEq, Repr, Inhabited

namespace Environment

def binding? (env : Environment) (name : String) : Option Variable :=
  (env.bindings.find? (·.1 = name)).map (·.2)

/-- Variables are kept as lines `NAME=value`, and a name is sought as the start of a line that goes
on with an equals sign. So a name that has an equals sign itself may find the end of a value. -/
def get? (env : Environment) (name : String) : Option Variable :=
  (env.binding? name).or <|
    match name.toList.dropWhile (· ≠ '=') with
    | '=' :: start =>
      (env.binding? (String.ofList (name.toList.takeWhile (· ≠ '=')))).bind
        (·.behind? (start ++ ['=']))
    | _ => none

theorem get?_eq_binding? (env : Environment) {name : String} (h : '=' ∉ name.toList) :
    env.get? name = env.binding? name := by
  have hn : ∀ s : List Char, '=' ∉ s → s.dropWhile (· ≠ '=') = [] := by
    intro s hs
    induction s with
    | nil => rfl
    | cons c s ih =>
      rw [List.mem_cons, not_or] at hs
      rw [List.dropWhile_cons_of_pos (by simpa using Ne.symm hs.1), ih hs.2]
  simp only [get?, hn _ h, Option.or_none]

def text? (env : Environment) (name : String) : Option String := (env.get? name).bind (·.text?)

def unset (env : Environment) (name : String) : Environment :=
  { env with bindings := env.bindings.filter (·.1 ≠ name) }

def set (env : Environment) (name value : String) : Environment :=
  { env with bindings := (name, .text value) :: (env.unset name).bindings }

/-- Variables that hold text are kept, empty ones too. -/
def setDefault (env : Environment) (name value : String) : Environment :=
  match env.text? name with
  | some _ => env
  | none => env.set name value

/-- A blank variable counts as one that is not there. -/
def setting? (env : Environment) (name : String) : Option String := do
  let value ← env.text? name
  if Text.isBlank value then none else some (Text.trim value)

/-! ## Folders of the user -/

def home? (env : Environment) : Option String :=
  match env.text? "HOME" with
  | none | some "" => env.accountHome
  | some home => some home

/-- The folder for the data of programs. A relative path is no choice of one. -/
def dataFolder? (env : Environment) : Option String := do
  let home ← env.home?
  match env.text? "XDG_DATA_HOME" with
  | some folder => if Files.isAbsolute folder then some folder else some (usual home)
  | none => some (usual home)
where
  usual (home : String) : String := Files.join home ".local/share"

end Environment

end Dashboards
