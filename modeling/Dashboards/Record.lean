import Dashboards.Document
import Dashboards.Timestamp

/-!
# Stored dashboards

* `Record` : a dashboard as it is stored, its document as text;
* `Record.fresh` : a record not yet stored, stamped with the current time;
* `Record.withChange` : the three things that an update changes, taken from another record;
* `Dashboard` : a record with its document read.
-/

namespace Dashboards

open Json

structure Record where
  id : Int
  uuid : String
  createdAt : Timestamp
  createdBy : Option String
  updatedAt : Timestamp
  updatedBy : Option String
  locked : Bool
  /-- The text of the document. -/
  data : String
  deriving DecidableEq, Repr, Inhabited

namespace Record

/-- A record that has no identifier yet, created and last updated now by one user. -/
def fresh (uuid data : String) (user : Option String) (now : Timestamp) : Record :=
  ⟨0, uuid, now, user, now, user, false, data⟩

/-- Time, user and document of the last update come from `change`, all else stays. -/
def withChange (stored change : Record) : Record :=
  { stored with updatedAt := change.updatedAt, updatedBy := change.updatedBy, data := change.data }

def withLock (stored : Record) (locked : Bool) : Record := { stored with locked := locked }

end Record

structure Dashboard where
  id : Int
  uuid : String
  title : String
  createdAt : Timestamp
  createdBy : Option String
  updatedAt : Timestamp
  updatedBy : Option String
  locked : Bool
  document : Value
  deriving Inhabited

/-- The dashboard of a record whose document was read. -/
def Dashboard.ofRecord (r : Record) (document : Value) : Dashboard :=
  ⟨r.id, r.uuid, Document.title document, r.createdAt, r.createdBy, r.updatedAt, r.updatedBy,
    r.locked, document⟩

end Dashboards
