import Dashboards.Failure
import Dashboards.Settings

/-!
# Options

* `Refusal` : why a command line is not followed;
* `Key` : the name of an option, with its long and short form and its variable;
* `Options` : the values of options, of which each may be missing;
* `Options.put`, `Options.add` : one more value, which may replace one or may not;
* `Options.withVariables` : values that are missing, taken from the environment;
* `Options.orElse` : values that are missing, taken from other options.
-/

namespace Dashboards.CommandLine

inductive Refusal where
  | helpRequested
  | versionRequested
  | nothingGiven
  | missingCommand
  | unknownCommand
  | unknownArgument
  | missingArgument
  | repeatedOption
  /-- An option without a value, or an empty path. -/
  | missingValue
  | invalidValue
  /-- A variable that holds no text. -/
  | undecodableValue
  /-- A value for an option that takes none. -/
  | surplusValue
  deriving DecidableEq, Repr

namespace Refusal

/-- Help and version are what was asked for. -/
def isAnswer : Refusal → Bool
  | .helpRequested | .versionRequested => true
  | _ => false

def exitCode (r : Refusal) : ExitCode := if r.isAnswer then .success else .usage

end Refusal

inductive Key where
  | storeDir
  | user
  | logFormat
  | output
  | outputFile
  deriving DecidableEq, Repr

namespace Key

def ofName? : String → Option Key
  | "store-dir" => some .storeDir
  | "user" => some .user
  | "log-format" => some .logFormat
  | "output" => some .output
  | "output-file" => some .outputFile
  | _ => none

def ofLetter? : Char → Option Key
  | 'o' => some .output
  | _ => none

/-- The options that variables may set. -/
def ofVariables : List (Key × String) :=
  [(.storeDir, Settings.storeDirVariable), (.user, Settings.userVariable),
    (.logFormat, Settings.logFormatVariable)]

end Key

structure Options where
  storeDir : Option String
  user : Option String
  logFormat : Option LogFormat
  output : Option String
  outputFile : Option String
  deriving DecidableEq, Repr, Inhabited

namespace Options

def empty : Options := ⟨none, none, none, none, none⟩

def has (o : Options) : Key → Bool
  | .storeDir => o.storeDir.isSome
  | .user => o.user.isSome
  | .logFormat => o.logFormat.isSome
  | .output => o.output.isSome
  | .outputFile => o.outputFile.isSome

def path (value : String) : Except Refusal String :=
  if value = "" then .error .missingValue else .ok value

/-- Paths must not be empty, and a log format must be known. -/
def put (o : Options) (key : Key) (value : String) : Except Refusal Options :=
  match key with
  | .storeDir => (path value).map fun value => { o with storeDir := some value }
  | .user => .ok { o with user := some value }
  | .logFormat =>
    match LogFormat.ofName? value with
    | some format => .ok { o with logFormat := some format }
    | none => .error .invalidValue
  | .output => .ok { o with output := some value }
  | .outputFile => (path value).map fun value => { o with outputFile := some value }

/-- An option is given once. -/
def add (o : Options) (key : Key) (value : String) : Except Refusal Options :=
  if o.has key then .error .repeatedOption else o.put key value

/-- The variable of an option counts where the option is missing. -/
def withVariable (env : Environment) (o : Options) : Key × String → Except Refusal Options
  | (key, name) =>
    if o.has key then .ok o
    else
      match env.get? name with
      | some (.text value) => o.put key value
      | some (.undecodable _) => .error .undecodableValue
      | none => .ok o

def withVariables (o : Options) (env : Environment) : Except Refusal Options :=
  Key.ofVariables.foldlM (withVariable env) o

def orElse (o p : Options) : Options :=
  ⟨o.storeDir.or p.storeDir, o.user.or p.user, o.logFormat.or p.logFormat, o.output.or p.output,
    o.outputFile.or p.outputFile⟩

end Options

end Dashboards.CommandLine
