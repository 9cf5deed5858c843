import Dashboards.Failure
import Dashboards.Program
import Dashboards.Record

/-!
# Requests to a store of dashboards

* `Store.Request` : what a store of records is asked, one record or all at a time;
* `Store.Reply` : what it replies: an outcome or a failure.

A store answers each request as a whole. Records are found by their uuid; the store gives them
their identifiers.
-/

namespace Dashboards.Store

inductive Request where
  /-- All records, by ascending identifier. -/
  | fetchAll
  | fetchOne (uuid : String)
  /-- Stores a new record and replies its identifier. -/
  | insert (record : Record)
  /-- Changes time, user and document of the record of that uuid, if there is one. -/
  | update (record : Record)
  | delete (uuid : String)
  | setLocked (uuid : String) (locked : Bool)
  deriving DecidableEq, Repr

@[reducible] def Reply : Request → Type
  | .fetchAll => Except StoreFailure (List Record)
  | .fetchOne _ => Except StoreFailure (Option Record)
  | .insert _ => Except StoreFailure Int
  | .update _ => Except StoreFailure Bool
  | .delete _ => Except StoreFailure Bool
  | .setLocked _ _ => Except StoreFailure Bool

end Dashboards.Store
