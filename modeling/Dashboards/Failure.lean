import Dashboards.Files.Fault
import Dashboards.Text.Quoted

/-!
# Failures

* `StoreFailure` : what can go wrong where dashboards are kept;
* `Failure` : what can go wrong with an operation on dashboards;
* `Failure.message` : the wording; `Failure.causes` : the wording and what lies behind it;
* `Failure.isUserError`, `Failure.isPolicyViolation` : whose fault it is;
* `ExitCode`, `Failure.exitCode` : how the program ends after it;
* `Diagnostic` : a failure of any kind inside the circumstances in which it arose.
-/

namespace Dashboards

open Files (Fault)

inductive StoreFailure where
  | io (path : String) (fault : Fault)
  | encode (explanation : String)
  | corrupt (path : String)
  | conflict (uuid : String)
  | invalidKey (key : String)
  deriving DecidableEq, Repr

def StoreFailure.message : StoreFailure → String
  | .io path fault => "IO error at " ++ path ++ ": " ++ fault.message
  | .encode explanation => "Failed to encode dashboard record: " ++ explanation
  | .corrupt path => "Corrupt dashboard record at " ++ path
  | .conflict uuid => "Dashboard with uuid " ++ uuid ++ " already exists"
  | .invalidKey key => "Invalid dashboard uuid for storage: " ++ Text.quoted key

inductive Failure where
  | invalidDocument (explanation : String)
  | policyViolation (explanation : String)
  | locked (uuid : String)
  | notFound (uuid : String)
  | store (failure : StoreFailure)
  deriving DecidableEq, Repr

/-- How the program ends. -/
inductive ExitCode where
  | success
  | general
  | usage
  | notFound
  | invalid
  | locked
  | conflict
  /-- The program broke off. A build that aborts then ends by a signal, without a code. -/
  | panicked
  deriving DecidableEq, Repr

def ExitCode.toNat : ExitCode → Nat
  | .success => 0
  | .general => 1
  | .usage => 2
  | .notFound => 4
  | .invalid => 5
  | .locked => 6
  | .conflict => 7
  | .panicked => 101

namespace Failure

def message : Failure → String
  | .invalidDocument explanation => "Invalid dashboard document: " ++ explanation
  | .policyViolation explanation => "Policy violation: " ++ explanation
  | .locked uuid =>
    "Dashboard " ++ uuid ++ " is locked, please unlock the dashboard to be able to modify it"
  | .notFound uuid => "No dashboard found with uuid: " ++ uuid
  | .store failure => failure.message

/-- The message, followed by the system's own report where there is one. -/
def causes : Failure → List String
  | .store (.io path fault) => [StoreFailure.message (.io path fault), fault.message]
  | .store (.encode explanation) =>
    [StoreFailure.message (.encode explanation), explanation]
  | failure => [failure.message]

/-- The caller's input is at fault. -/
def isUserError : Failure → Bool
  | .store _ => false
  | _ => true

def isPolicyViolation : Failure → Bool
  | .policyViolation _ => true
  | _ => false

def exitCode : Failure → ExitCode
  | .notFound _ => .notFound
  | .invalidDocument _ => .invalid
  | .policyViolation _ => .invalid
  | .locked _ => .locked
  | .store (.conflict _) => .conflict
  | .store (.invalidKey _) => .invalid
  | .store _ => .general

end Failure

/-- What went wrong and in which circumstances, the outermost first. -/
structure Diagnostic where
  circumstances : List String
  causes : List String
  exitCode : ExitCode
  deriving DecidableEq, Repr

namespace Diagnostic

def ofFailure (failure : Failure) : Diagnostic := ⟨[], failure.causes, failure.exitCode⟩

/-- Any other trouble ends the program with the general code. -/
def general (causes : List String) : Diagnostic := ⟨[], causes, .general⟩

/-- The program breaks off. What the system adds to the message is left out. -/
def panic (cause : String) : Diagnostic := ⟨[], [cause], .panicked⟩

def within (d : Diagnostic) (circumstance : String) : Diagnostic :=
  { d with circumstances := circumstance :: d.circumstances }

/-- All on one line, from the outermost circumstance to the innermost cause. -/
def message (d : Diagnostic) : String := ": ".intercalate (d.circumstances ++ d.causes)

end Diagnostic

end Dashboards
