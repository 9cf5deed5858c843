import Dashboards.Settings.Environment

/-!
# Settings

What a run is told about where it works. Settings are drafted from variables and from explicit
choices, and what is left open is filled in last.

* `LogFormat` : the form of log lines;
* `Settings` : the folder of the store, the acting user, the form of log lines;
* `Settings.Draft` : settings of which each may still be open;
* `Draft.withVariables` : the variables of the environment chosen over what a draft holds;
* `Draft.settings` : the settings of a draft, open ones filled in;
* `Settings.Flaw` : why a draft gives no settings.
-/

namespace Dashboards

inductive LogFormat where
  | text
  | json
  deriving DecidableEq, Repr, Inhabited

namespace LogFormat

def name : LogFormat → String
  | .text => "text"
  | .json => "json"

/-- The format of a name, whether its letters are small or capital. -/
def ofName? (name : String) : Option LogFormat :=
  match name.toLower with
  | "text" => some .text
  | "json" => some .json
  | _ => none

theorem ofName?_name (f : LogFormat) : ofName? f.name = some f := by
  cases f <;> decide +kernel

/-- What is said of a name that is none. -/
def unknownMessage (name : String) : String :=
  "unknown log format '" ++ name.toLower ++ "', expected text or json"

end LogFormat

structure Settings where
  storeDir : String
  /-- Without a user the system acts. -/
  user : Option String
  logFormat : LogFormat
  deriving DecidableEq, Repr, Inhabited

namespace Settings

def storeDirVariable : String := "DASHLENS_STORE_DIR"

def userVariable : String := "DASHLENS_USER"

def logFormatVariable : String := "DASHLENS_LOG_FORMAT"

inductive Flaw where
  | unknownLogFormat (name : String)
  | blankUser
  deriving DecidableEq, Repr

def Flaw.message : Flaw → String
  | .unknownLogFormat name =>
    "Invalid value for " ++ logFormatVariable ++ ": " ++ LogFormat.unknownMessage name
  | .blankUser => "Invalid value for user: must not be blank"

/-- The store's folder below the one for the data of programs, or beside the program's work. -/
def defaultStoreDir (env : Environment) : String :=
  match env.dataFolder? with
  | some folder => Files.join (Files.join folder "dashlens") "dashboards"
  | none => "./dashboards"

structure Draft where
  storeDir : Option String
  user : Option String
  logFormat : Option LogFormat
  deriving DecidableEq, Repr, Inhabited

namespace Draft

def empty : Draft := ⟨none, none, none⟩

def withStoreDir (d : Draft) (storeDir : String) : Draft := { d with storeDir := some storeDir }

def withUser (d : Draft) (user : String) : Draft := { d with user := some user }

def withLogFormat (d : Draft) (logFormat : LogFormat) : Draft :=
  { d with logFormat := some logFormat }

/-- The log format that the environment chooses. -/
def logFormatOf (env : Environment) : Except Flaw (Option LogFormat) :=
  match env.setting? logFormatVariable with
  | none => .ok none
  | some name =>
    match LogFormat.ofName? name with
    | some format => .ok (some format)
    | none => .error (.unknownLogFormat name)

/-- What the environment sets replaces what the draft holds, all else stays. -/
def withVariables (d : Draft) (env : Environment) : Except Flaw Draft := do
  let logFormat ← logFormatOf env
  return ⟨(env.setting? storeDirVariable).or d.storeDir, (env.setting? userVariable).or d.user,
    logFormat.or d.logFormat⟩

/-- Nobody acts under a blank name. -/
def settings (d : Draft) (env : Environment) : Except Flaw Settings :=
  if d.user.any Text.isBlank then .error .blankUser
  else .ok ⟨d.storeDir.getD (defaultStoreDir env), d.user, d.logFormat.getD .text⟩

end Draft

end Settings

end Dashboards
