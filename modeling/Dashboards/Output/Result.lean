import Dashboards.Analytics.MetricUsage
import Dashboards.Analytics.Report
import Dashboards.Document.Removal

/-!
# Results to be shown

* `Listing` : what a list of dashboards shows of a record;
* `FileSummary` : the summary of a file, or why there is none;
* `RemovalCheck` : the widgets that an update would remove, and whether it may;
* `Result` : what a command shows.
-/

namespace Dashboards.Output

open Document

structure Listing where
  id : Int
  uuid : String
  /-- Missing where the document cannot be read. -/
  title : Option String
  locked : Bool
  updatedAt : Timestamp
  updatedBy : Option String
  deriving DecidableEq, Repr

def Listing.ofRecord (r : Record) : Listing :=
  ⟨r.id, r.uuid, (parse r.data).toOption.map Document.title, r.locked, r.updatedAt, r.updatedBy⟩

structure FileSummary where
  file : String
  summary : Option Analytics.Summary
  error : Option String
  deriving DecidableEq, Repr

structure RemovalCheck where
  removed : List String
  allowed : Bool
  maxRemoved : Nat
  deriving DecidableEq, Repr

/-- The check of an update from one document to another. -/
def RemovalCheck.ofDocuments (old new : Json.Value) : RemovalCheck :=
  let removed := removedIds (widgetIds old) (widgetIds new)
  ⟨removed, (checkLimit removed).isOk, Document.maxRemoved⟩

inductive Result where
  | listings (listings : List Listing)
  | dashboard (dashboard : Dashboard)
  /-- What has become of a dashboard. -/
  | status (uuid status : String)
  | report (report : Analytics.Report)
  | metricUsage (index : Analytics.Index)
  | summaries (summaries : List FileSummary)
  | removal (check : RemovalCheck)

end Dashboards.Output
