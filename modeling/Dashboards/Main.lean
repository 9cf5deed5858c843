import Dashboards.Files.Making
import Dashboards.Session
import Dashboards.Uuid
import Std.Time.DateTime.Timestamp

/-!
# The program

* `faultOf` : what the system reports, as a fault;
* `put` : a text on a stream;
* `answerFiles`, `answer` : the replies of the system to requests;
* `environment` : the variables that the program was started with;
* `main` : a run on the words of the command line.
-/

namespace Dashboards.Main

open Files (Fault)

/-- The number and the wording of a report. -/
def reportOf : IO.Error → Option (UInt32 × String)
  | .alreadyExists _ code details | .noFileOrDirectory _ code details
  | .resourceBusy code details | .resourceVanished code details
  | .unsupportedOperation code details | .hardwareFault code details
  | .unsatisfiedConstraints code details | .illegalOperation code details
  | .protocolError code details | .timeExpired code details
  | .interrupted _ code details | .invalidArgument _ code details
  | .permissionDenied _ code details | .resourceExhausted _ code details
  | .inappropriateType _ code details | .noSuchThing _ code details
  | .otherError code details => some (code, details)
  | .unexpectedEof | .userError _ => none

/-- The number of a fault, which some steps report below zero. -/
def numberOf (code : UInt32) : Nat := if code < 0x80000000 then code.toNat else (0 - code).toNat

def faultOf (error : IO.Error) : Fault :=
  match reportOf error with
  | none => .other (toString error)
  | some (code, details) =>
    match numberOf code with
    | 2 => .notFound
    | 16 => .busy
    | 17 => .alreadyExists
    | 20 => .notDirectory
    | 21 => .isDirectory
    | 36 => .nameTooLong
    | number => .other (details.capitalize ++ " (os error " ++ toString number ++ ")")

/-- There is no such stream. -/
def isClosed (error : IO.Error) : Bool := (reportOf error).any fun (code, _) => numberOf code = 9

/-- Runs a step and keeps its fault. -/
def attempt (step : IO α) : IO (Except Fault α) := do
  match ← step.toBaseIO with
  | .ok a => return .ok a
  | .error error => return .error (faultOf error)

/-- The place of an entry in a folder. -/
def placeOf (folder name : String) : IO.FS.DirEntry := ⟨folder, name⟩

/-- Something stands at the place, of whatever kind. -/
def isTaken (place : IO.FS.DirEntry) : IO (Except Fault Bool) := do
  match ← attempt place.path.metadata with
  | .ok _ => return .ok true
  | .error .notFound => return .ok false
  | .error fault => return .error fault

/-- The names of the entries of a folder. -/
def entryNames (folder : String) : IO (List String) := do
  return (← (placeOf folder "").root.readDir).toList.map (·.fileName)

def answerFiles (folder : String) : (q : Files.Request) → IO (Files.Reply q)
  | .read name => attempt (IO.FS.readBinFile (Files.join folder name))
  | .write name content => attempt (IO.FS.writeBinFile (Files.join folder name) content)
  | .make =>
    Files.makeWithHolders (fun folder => attempt (IO.FS.createDir folder))
      (fun folder => (placeOf folder "").root.isDir) folder
  | .list => attempt (entryNames folder)
  | .rename source target =>
    attempt (IO.FS.rename (Files.join folder source) (Files.join folder target))
  | .remove name => attempt (IO.FS.removeFile (Files.join folder name))
  | .probe name => isTaken (placeOf folder name)

/-- Puts a text on a stream. One that was closed before the program started takes all. -/
def put (stream : IO.FS.Stream) (text : String) : IO (Except Fault Unit) := do
  let step : IO Unit := do
    stream.putStr text
    stream.flush
  match ← step.toBaseIO with
  | .ok () => return .ok ()
  | .error error => return if isClosed error then .ok () else .error (faultOf error)

def answer : (q : Session.Request) → IO (Session.Reply q)
  | .files folder q => answerFiles folder q
  | .move folder name destination =>
    attempt (IO.FS.rename (Files.join folder name) destination)
  | .surroundings => do return Files.withAncestors (← IO.currentDir).toString
  | .input => do
    let input ← IO.getStdin
    attempt input.readBinToEnd
  | .print text => do put (← IO.getStdout) text
  | .report text => do put (← IO.getStderr) text
  | .now => do
    let now ← Std.Time.Timestamp.now
    let span := now.toDurationSinceUnixEpoch
    return Timestamp.ofUnix span.second.val span.nano.val.toNat
  | .freshUuid => do return Uuid.ofBytes (← IO.getRandomBytes 16).data.toList
  | .freshName => do
    return ".tmp" ++ String.ofList ((← IO.getRandomBytes 6).data.toList.flatMap Uuid.hexByte)

/-! ## The environment -/

/-- The parts of a list between the places where `mark` stands. -/
def splitAt [BEq α] (mark : α) : List α → List (List α)
  | [] => [[]]
  | a :: rest =>
    match splitAt mark rest with
    | part :: parts => if a == mark then [] :: part :: parts else (a :: part) :: parts
    | [] => [[a]]

/-- A variable as it is handed to a program, if its name is text. -/
def variableOf? (bytes : List UInt8) : Option (String × Variable) := do
  let name ← (Variable.ofBytes (bytes.takeWhile (· ≠ 61))).text?
  match bytes.dropWhile (· ≠ 61) with
  | 61 :: value => some (name, .ofBytes value)
  | _ => none

/-- The home of an account in the system's table of accounts. -/
def homeOf? (accounts user : String) : Option String :=
  (accounts.splitOn "\n").findSome? fun line =>
    match line.splitOn ":" with
    | _ :: _ :: number :: _ :: _ :: home :: _ => if number = user then some home else none
    | _ => none

/-- The number of the user who started the program. -/
def userOf? (status : String) : Option String :=
  (status.splitOn "\n").findSome? fun line =>
    match line.splitOn "\t" with
    | "Uid:" :: user :: _ => some user
    | _ => none

def accountHome : IO (Option String) := do
  let accounts ← attempt (IO.FS.readFile "/etc/passwd")
  let status ← attempt (IO.FS.readFile "/proc/self/status")
  match accounts, status with
  | .ok accounts, .ok status => return (userOf? status).bind (homeOf? accounts)
  | _, _ => return none

def environment : IO Environment := do
  let home ← accountHome
  match ← attempt (IO.FS.readBinFile "/proc/self/environ") with
  | .ok block => return ⟨(splitAt 0 block.data.toList).filterMap variableOf?, home⟩
  | .error _ => return ⟨[], home⟩

end Dashboards.Main

def main (words : List String) : IO UInt32 := do
  let env ← Dashboards.Main.environment
  let code ← (Dashboards.Session.run env words).runIn Dashboards.Main.answer
  return UInt32.ofNat code.toNat
