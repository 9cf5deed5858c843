import Dashboards.Analytics.MetricUsage
import Dashboards.Analytics.Report
import Dashboards.Document.Removal
import Dashboards.Json.Writer
import Dashboards.Store

/-!
# Operations on dashboards

Every operation is a program that asks the store. A user acts under a name; who acts under none is
the system, which locks do not stop. The current time and a fresh uuid are given.

* `create`, `get`, `update`, `delete`, `setLocked`, `list` : dashboards, one or all at a time;
* `report`, `metricUsage` : what all dashboards add up to, and where they chart metrics.
-/

namespace Dashboards.Service

open Json Store

/-- A program that asks the store and ends in an outcome. -/
abbrev Task (α : Type) := Program Reply (Except Failure α)

def fail (failure : Failure) : Task α := .done (.error failure)

/-- Asks the store and goes on with what it replies. -/
def ask (q : Request) (outcome : Reply q → Except StoreFailure α) (next : α → Task β) : Task β :=
  .ask q fun r =>
    match outcome r with
    | .ok a => next a
    | .error failure => fail (.store failure)

/-- Goes on if a check on data passes. -/
def require (check : Except Document.Flaw α) (next : α → Task β) : Task β :=
  match check with
  | .ok a => next a
  | .error flaw => fail (.invalidDocument flaw.message)

/-- The record of a uuid, which must be there. -/
def withRecord (uuid : String) (next : Record → Task α) : Task α :=
  ask (.fetchOne uuid) id fun
    | some record => next record
    | none => fail (.notFound uuid)

/-- Goes on unless a user acts on a locked record. -/
def unlessLocked (record : Record) (uuid : String) (user : Option String) (next : Task α) :
    Task α :=
  if user.isSome && record.locked then fail (.locked uuid) else next

/-- The uuid that the data itself gives, if that is a string. -/
def ownUuid? (data : Value) : Option String := ((Lens.ofValue data).key "uuid").string?

/-- Stores a new dashboard, under its own uuid or a fresh one. -/
def create (now : Timestamp) (freshUuid : String) (data : Value) (user : Option String) :
    Task Dashboard :=
  require (Document.checkNew data) fun () =>
  let record := Record.fresh ((ownUuid? data).getD freshUuid) data.compact user now
  ask (.insert record) id fun id =>
  .done (.ok (.ofRecord { record with id } data))

/-- Every record, also those whose document cannot be read. -/
def list : Task (List Record) :=
  ask .fetchAll id fun records => .done (.ok records)

def get (uuid : String) : Task Dashboard :=
  withRecord uuid fun record =>
  require (Document.parse record.data) fun document =>
  .done (.ok (.ofRecord record document))

/-- Replaces the document of a dashboard, unless it is locked against the user or the new document
removes too many widgets. -/
def update (now : Timestamp) (uuid : String) (data : Value) (user : Option String) :
    Task Dashboard :=
  require (Document.checkRoot data) fun () =>
  withRecord uuid fun record =>
  unlessLocked record uuid user <|
  require (Document.parse record.data) fun document =>
  match Document.checkRemoval document data with
  | .error excess => fail (.policyViolation excess.message)
  | .ok _ =>
    let changed := { record with updatedAt := now, updatedBy := user, data := data.compact }
    ask (.update changed) id fun
      | true => .done (.ok (.ofRecord changed data))
      | false => fail (.notFound uuid)

def delete (uuid : String) (user : Option String) : Task Unit :=
  withRecord uuid fun record =>
  unlessLocked record uuid user <|
  ask (.delete uuid) id fun
    | true => .done (.ok ())
    | false => fail (.notFound uuid)

def setLocked (uuid : String) (locked : Bool) : Task Unit :=
  ask (.setLocked uuid locked) id fun
    | true => .done (.ok ())
    | false => fail (.notFound uuid)

/-- The report over all records, under a rule that finds signals. -/
def report (detector : Document.Detector) : Task Analytics.Report :=
  ask .fetchAll id fun records => .done (.ok (.ofRecords detector records))

/-- The index of the widgets that chart one of the metrics. -/
def metricUsage (metrics : List String) : Task Analytics.Index :=
  ask .fetchAll id fun records => .done (.ok (.ofRecords metrics records))

end Dashboards.Service
