import Dashboards.Store

/-!
# A store in memory

* `Memory` : the records, by ascending identifier, and the identifier given last;
* `Memory.ofRecords` : a store that holds the given records, numbered from one;
* `Memory.answer` : the reply to a request and the store after it.
-/

namespace Dashboards.Store

structure Memory where
  lastId : Int
  records : List Record
  deriving DecidableEq, Repr, Inhabited

namespace Memory

def empty : Memory := ⟨0, []⟩

/-- Stores a record under the next identifier. -/
def append (m : Memory) (r : Record) : Memory :=
  ⟨m.lastId + 1, m.records ++ [{ r with id := m.lastId + 1 }]⟩

def ofRecords (records : List Record) : Memory := records.foldl append empty

/-- The first record of a uuid. -/
def find? (m : Memory) (uuid : String) : Option Record := m.records.find? (·.uuid = uuid)

/-- Changes the first record of a uuid. -/
def modifyFirst (uuid : String) (change : Record → Record) : List Record → List Record
  | [] => []
  | r :: rest => if r.uuid = uuid then change r :: rest else r :: modifyFirst uuid change rest

/-- Changes the record that `find?` finds, and tells whether there is one. -/
def modify (m : Memory) (uuid : String) (change : Record → Record) : Bool × Memory :=
  if (m.find? uuid).isSome then (true, { m with records := modifyFirst uuid change m.records })
  else (false, m)

/-- Removes every record of a uuid. -/
def without (m : Memory) (uuid : String) : Memory :=
  { m with records := m.records.filter (·.uuid ≠ uuid) }

def answer : (q : Request) → Memory → Reply q × Memory
  | .fetchAll, m => (.ok m.records, m)
  | .fetchOne uuid, m => (.ok (m.find? uuid), m)
  | .insert record, m =>
    if (m.find? record.uuid).isSome then (.error (.conflict record.uuid), m)
    else (.ok (m.lastId + 1), m.append record)
  | .update record, m =>
    let (found, m) := m.modify record.uuid (·.withChange record)
    (.ok found, m)
  | .delete uuid, m => (.ok (m.find? uuid).isSome, m.without uuid)
  | .setLocked uuid locked, m =>
    let (found, m) := m.modify uuid (·.withLock locked)
    (.ok found, m)

end Memory

end Dashboards.Store
