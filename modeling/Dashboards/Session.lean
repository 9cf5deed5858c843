import Dashboards.CommandLine
import Dashboards.CommandLine.Usage
import Dashboards.Output.Table
import Dashboards.Service
import Dashboards.Session.Documents
import Dashboards.Settings.Dotenv
import Dashboards.Store.Directory

/-!
# A run of the program

* `stored` : a task on dashboards, done in the folder of a store;
* `display` : shows a result, or writes it to a file; `heard` : what becomes of a run whose text is not
  taken;
* `perform` : what each command does;
* `execute` : a command under its settings and in its output format;
* `findVariables` : the nearest file of variables;
* `run` : from the environment and the words of a command line to the code that a run ends with.
-/

namespace Dashboards.Session

open CommandLine (Invocation Refusal)
open Files (Fault)
open Output (Format Result)

/-! ## Commands -/

/-- Does a task in the folder of a store; its failure is reported under some circumstance. -/
def stored (folder : String) (circumstance : Option String) (task : Service.Task α) : Task α := do
  let steps := task.expand (Store.Directory.answer folder)
  match ← ExceptT.lift (steps.expand fun q => request (.files folder q)) with
  | .ok a => return a
  | .error failure =>
    fail (circumstance.elim (.ofFailure failure) (Diagnostic.ofFailure failure).within)

/-- Where and how results are shown. -/
structure Target where
  format : Format
  file : Option String

/-- What is printed ends with the end of a line. -/
def lineText (text : String) : String := if text.endsWith "\n" then text else text ++ "\n"

/-- A stream that does not take a text breaks the run off. -/
def heard (stream : String) : Except Fault Unit → Task Unit
  | .ok () => return ()
  | .error fault => fail (.panic ("failed printing to " ++ stream ++ ": " ++ fault.message))

/-- What is said of a result that is in its file. -/
def Target.note (target : Target) (path : String) : String :=
  "Results written to " ++ path ++ " (" ++ target.format.title ++ " format)\n"

def display (target : Target) (result : Result) : Task Unit := do
  let text := result.render target.format
  match target.file with
  | none => heard "stdout" (← ask (.print (lineText text)))
  | some path =>
    within ("Failed to write output to " ++ path) (writeText path text)
    heard "stderr" (← ask (.report (target.note path)))

/-- The summary of a file, or the message that says why there is none. -/
def summarizeFile (path : String) : Task Output.FileSummary :=
  tryCatch
    (do return ⟨path, some (Analytics.summarize Document.detect (← readDocument path)), none⟩)
    fun d => return ⟨path, none, some d.message⟩

/-- All files are summarized before the run fails because of some of them. -/
def analyze (files : List String) (target : Target) : Task Unit := do
  let summaries ← files.mapM summarizeFile
  display target (.summaries summaries)
  let failed := summaries.countP (·.error.isSome)
  if 0 < failed then
    fail (.ofFailure (.invalidDocument (Document.Flaw.unanalyzed failed summaries.length).message))

/-- The check of an update is shown also where it does not pass. -/
def compare (old new : String) (target : Target) : Task Unit := do
  let old ← readDocument old
  let new ← readDocument new
  display target (.removal (.ofDocuments old new))
  match Document.checkRemoval old new with
  | .ok _ => return ()
  | .error excess => fail (.ofFailure (.policyViolation excess.message))

def perform (settings : Settings) (target : Target) : Command → Task Unit
  | .create file => do
    let data ← readDocument file
    let now ← ask .now
    let uuid ← ask .freshUuid
    let dashboard ← stored settings.storeDir (some "Failed to create dashboard")
      (Service.create now uuid data settings.user)
    display target (.dashboard dashboard)
  | .list => do
    let records ← stored settings.storeDir none Service.list
    display target (.listings (records.map Output.Listing.ofRecord))
  | .get uuid => do
    let dashboard ← stored settings.storeDir (some ("Failed to get dashboard " ++ uuid))
      (Service.get uuid)
    display target (.dashboard dashboard)
  | .update uuid file => do
    let data ← readDocument file
    let now ← ask .now
    let dashboard ← stored settings.storeDir (some ("Failed to update dashboard " ++ uuid))
      (Service.update now uuid data settings.user)
    display target (.dashboard dashboard)
  | .delete uuid => do
    stored settings.storeDir (some ("Failed to delete dashboard " ++ uuid))
      (Service.delete uuid settings.user)
    display target (.status uuid "deleted")
  | .setLocked uuid locked => do
    stored settings.storeDir (some ("Failed to change lock on dashboard " ++ uuid))
      (Service.setLocked uuid locked)
    display target (.status uuid (if locked then "locked" else "unlocked"))
  | .report => do
    let report ← stored settings.storeDir (some "Failed to build analytics report")
      (Service.report Document.detect)
    display target (.report report)
  | .metricUsage metrics => do
    let index ← stored settings.storeDir (some "Failed to look up metric usage")
      (Service.metricUsage metrics)
    display target (.metricUsage index)
  | .analyze files => analyze files target
  | .diff old new => compare old new target

/-- The output format is checked before anything is done. -/
def execute (invocation : Invocation) (settings : Settings) : Task Unit := do
  match Format.ofName? invocation.output with
  | some format => perform settings ⟨format, invocation.outputFile⟩ invocation.command
  | none => fail (.general [Format.unknownMessage invocation.output])

/-! ## Runs -/

/-- The settings of a command line: its options count over variables. -/
def settingsOf (env : Environment) (invocation : Invocation) : Except Settings.Flaw Settings := do
  let draft ← Settings.Draft.empty.withVariables env
  Settings.Draft.settings
    ⟨invocation.storeDir.or draft.storeDir, invocation.user.or draft.user,
      invocation.logFormat.or draft.logFormat⟩ env

/-- The name of files of variables. -/
def variablesName : String := ".env"

/-- The first file of variables in the folders, if there is one. -/
def findVariables : List String → Program Reply (Except Files.Fault (Option ByteArray))
  | [] => return .ok none
  | folder :: folders => do
    match ← request (.files folder (.read variablesName)) with
    | .ok content => return .ok (some content)
    | .error .notFound => findVariables folders
    | .error .isDirectory => findVariables folders
    | .error fault => return .error fault

/-- The environment and what is in the nearest file of variables, unless such files are unwanted. -/
def loadVariables (env : Environment) :
    Program Reply (Environment × Option Dotenv.Failure) := do
  if Dotenv.isDisabled env then return (env, none)
  let folders ← request .surroundings
  match ← findVariables folders with
  | .error fault => return (env, some (.unreadable fault))
  | .ok content => return Dotenv.loadUnlessDisabled env content

/-- Tells the watcher why a run ends, and breaks it off if that cannot be told. -/
def stop (message : String) (code : ExitCode) : Program Reply ExitCode := do
  match ← request (.report (message ++ "\n")) with
  | .ok () => return code
  | .error _ => return .panicked

/-- Answers go to the output, refusals to the watcher, whether they get there or not. -/
def refuse (refusal : Refusal) : Program Reply ExitCode := do
  let _ ← if refusal.isAnswer then request (.print refusal.text) else request (.report refusal.text)
  return refusal.exitCode

def run (env : Environment) (words : List String) : Program Reply ExitCode := do
  match ← loadVariables env with
  | (_, some failure) => stop ("Failed to load environment: " ++ failure.message) .general
  | (env, none) =>
    match CommandLine.parse env words with
    | .error refusal => refuse refusal
    | .ok invocation =>
      match settingsOf env invocation with
      | .error flaw => stop ("Failed to build configuration: " ++ flaw.message) .general
      | .ok settings =>
        match ← (execute invocation settings).run with
        | .ok () => return .success
        | .error d => stop d.message d.exitCode

end Dashboards.Session
