import Dashboards.Files.Folder
import Dashboards.Files.Path
import Dashboards.Record.Envelope
import Dashboards.Store

/-!
# A store in a folder

Each record is a file, named after its uuid. It is written to a file beside it first, which then
takes its place, so that no record is ever half written.

* `isKey` : the uuids that are names of files: letters, digits, `-` and `_`;
* `recordName`, `draftName` : the file of a record, and the one that it is written to first;
* `readRecord`, `readAll` : the record of a file, all records; a file that holds no record counts
  only where it is asked for by name;
* `writeRecord`, `modify` : writes a record; reads it, changes it and writes it;
* `answer` : the steps on the folder that answer a request;
* `handle` : the reply to a request and the folder after it.
-/

namespace Dashboards.Store.Directory

open Files (Folder Fault)

abbrev Steps (α : Type) := Program Files.Reply (Except StoreFailure α)

def isKeyChar (c : Char) : Bool := c.isAlphanum || c = '-' || c = '_'

def isKey (uuid : String) : Bool := !uuid.isEmpty && uuid.toList.all isKeyChar

def recordName (uuid : String) : String := uuid ++ ".json"

def draftName (uuid : String) : String := uuid ++ ".tmp"

/-- Goes on with a key, and fails for a uuid that is none. -/
def withKey (uuid : String) (next : Steps α) : Steps α :=
  if isKey uuid then next else .done (.error (.invalidKey uuid))

/-- Asks one step and goes on with what it replies; a fault is reported with a path. -/
def step (path : String) (q : Files.Request) (reply : Files.Reply q → Except Fault α)
    (next : α → Steps β) : Steps β :=
  .ask q fun r =>
    match reply r with
    | .ok a => next a
    | .error fault => .done (.error (.io path fault))

variable (root : String)

/-! ## Reading -/

/-- The text of a file; a missing file has none. -/
def textOf? (content : Except Fault ByteArray) : Except Fault (Option String) :=
  match content with
  | .error .notFound => .ok none
  | .error fault => .error fault
  | .ok bytes => (Files.textOf bytes).map some

/-- The record that a file holds, if the file is there. -/
def readRecord (name : String) : Steps (Option Record) :=
  step (Files.join root name) (.read name) textOf? fun text =>
    .done <|
      match text with
      | none => .ok none
      | some text =>
        match Record.decode? text with
        | some record => .ok (some record)
        | none => .error (.corrupt (Files.join root name))

/-- The names of the files that may hold records; a missing folder has none. -/
def recordNames : Steps (List String) :=
  step root .list
    (fun r => match r with
      | .error .notFound => .ok []
      | r => r)
    fun names => .done (.ok (names.filter (Files.hasExtension "json")))

/-- The records of the files, in their order. Files that hold none are skipped, any other failure
ends the reading. -/
def readEach : List String → Steps (List Record)
  | [] => .done (.ok [])
  | name :: names =>
    (readRecord root name).bind fun
      | .error (.corrupt _) => readEach names
      | .error failure => .done (.error failure)
      | .ok found =>
        (readEach names).bind fun
          | .error failure => .done (.error failure)
          | .ok records => .done (.ok (found.toList ++ records))

/-- Puts a record before the first one with a greater identifier. -/
def insertById (r : Record) : List Record → List Record
  | [] => [r]
  | s :: rest => if r.id < s.id then r :: s :: rest else s :: insertById r rest

/-- The records by ascending identifier, those of one identifier in their order. -/
def sortById (records : List Record) : List Record :=
  records.foldl (fun sorted r => insertById r sorted) []

/-- All records of the folder, by ascending identifier. -/
def readAll : Steps (List Record) :=
  (recordNames root).bind fun
    | .error failure => .done (.error failure)
    | .ok names =>
      (readEach root names).bind fun
        | .error failure => .done (.error failure)
        | .ok records => .done (.ok (sortById records))

def fetchOne (uuid : String) : Steps (Option Record) :=
  withKey uuid (readRecord root (recordName uuid))

/-! ## Writing -/

/-- Writes a record under its own uuid. -/
def writeRecord (record : Record) : Steps Unit :=
  withKey record.uuid <|
    step root .make id fun () =>
    step (Files.join root (draftName record.uuid))
      (.write (draftName record.uuid) record.encode.toUTF8) id fun () =>
    step (Files.join root (recordName record.uuid))
      (.rename (draftName record.uuid) (recordName record.uuid)) id fun () =>
    .done (.ok ())

/-- Reads a record, changes it and writes it, and tells whether it is there. -/
def modify (uuid : String) (change : Record → Record) : Steps Bool :=
  (fetchOne root uuid).bind fun
    | .error failure => .done (.error failure)
    | .ok none => .done (.ok false)
    | .ok (some record) =>
      (writeRecord root (change record)).bind fun outcome =>
        .done (outcome.map fun () => true)

/-- The greatest identifier, or zero where there is none. -/
def greatestId (records : List Record) : Int :=
  match records.getLast? with
  | some record => record.id
  | none => 0

/-- A new record gets the identifier behind the greatest one. -/
def insert (record : Record) : Steps Int :=
  withKey record.uuid <|
    step (Files.join root (recordName record.uuid)) (.probe (recordName record.uuid)) id
      fun taken =>
    if taken then .done (.error (.conflict record.uuid))
    else
      (readAll root).bind fun
        | .error failure => .done (.error failure)
        | .ok records =>
          let id := greatestId records + 1
          (writeRecord root { record with id }).bind fun outcome =>
            .done (outcome.map fun () => id)

def delete (uuid : String) : Steps Bool :=
  withKey uuid <|
    step (Files.join root (recordName uuid)) (.remove (recordName uuid))
      (fun r => match r with
        | .ok () => .ok true
        | .error .notFound => .ok false
        | .error fault => .error fault)
      fun removed => .done (.ok removed)

/-! ## Requests -/

/-- The steps on the folder that answer a request. -/
def answer : (q : Request) → Program Files.Reply (Reply q)
  | .fetchAll => readAll root
  | .fetchOne uuid => fetchOne root uuid
  | .insert record => insert root record
  | .update record => modify root record.uuid (·.withChange record)
  | .delete uuid => delete root uuid
  | .setLocked uuid locked => modify root uuid (·.withLock locked)

/-- The reply to a request and the folder after it. -/
def handle (q : Request) (folder : Folder) : Reply q × Folder :=
  (answer root q).run Folder.answer folder

end Dashboards.Store.Directory
