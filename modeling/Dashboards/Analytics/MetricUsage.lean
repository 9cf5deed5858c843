import Dashboards.Document.Query
import Dashboards.Document.Widget
import Dashboards.Record
import Dashboards.Text.Blank

/-!
# Where metrics are used

* `Usage` : a widget that charts a metric;
* `ofDocument`, `ofRecord` : the usages of wanted metrics in one document, with the metric's name;
* `Index` : usages by metric, metrics ascending;
* `Index.add` : one more usage, the last one of its metric;
* `Index.ofRecords` : the index of a list of records.
-/

namespace Dashboards.Analytics

open Json Document

structure Usage where
  dashboardId : String
  dashboardTitle : String
  widgetId : String
  widgetTitle : String
  deriving DecidableEq, Repr, Inhabited

/-- The metrics that a query's items about metrics name, without white space around them. -/
def metricsOf (query : Value) : List String :=
  (builderQueries query).filterMap fun item =>
    if item.source = .metrics then item.metric.map Text.trim else none

/-- The usages of wanted metrics in a document, widget by widget and item by item. -/
def usagesOfDocument (dashboardId : String) (wanted : List String) (document : Value) :
    List (String × Usage) :=
  (widgets document).flatMap fun widget =>
    ((metricsOf widget.query).filter wanted.contains).map fun metric =>
      (metric, ⟨dashboardId, title document, widget.id, widget.title.getD ""⟩)

/-- A record whose document cannot be read has none. -/
def usagesOfRecord (wanted : List String) (record : Record) : List (String × Usage) :=
  match parse record.data with
  | .ok document => usagesOfDocument record.uuid wanted document
  | .error _ => []

abbrev Index := List (String × List Usage)

namespace Index

def add (index : Index) (metric : String) (usage : Usage) : Index :=
  insertMember metric ((lookup metric index).getD [] ++ [usage]) index

def ofRecords (wanted : List String) (records : List Record) : Index :=
  (records.flatMap (usagesOfRecord wanted)).foldl (fun index (m, u) => index.add m u) []

end Index

end Dashboards.Analytics
