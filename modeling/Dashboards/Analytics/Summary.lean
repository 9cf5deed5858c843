import Dashboards.Document.Query
import Dashboards.Document.Signals
import Dashboards.Document.Widget

/-!
# Summary of one document

* `Tally` : what the widgets of a document add up to, `Tally.ofWidget` one widget's part;
* `Summary` : the tally with the title and the signals of the whole document;
* `isPopulated` : a document with a title of its own and at least one widget;
* `summarize` : the summary under a rule that finds signals.
-/

namespace Dashboards.Analytics

open Json Document

/-- Panels by data source, flagged filters, and whether a raw query is present. -/
structure Tally where
  logs : Nat
  traces : Nat
  metrics : Nat
  flagged : Nat
  raw : Bool
  deriving DecidableEq, Repr

namespace Tally

def zero : Tally := ⟨0, 0, 0, 0, false⟩

def add (a b : Tally) : Tally :=
  ⟨a.logs + b.logs, a.traces + b.traces, a.metrics + b.metrics, a.flagged + b.flagged,
    a.raw || b.raw⟩

/-- A query of the builder adds its items, one of the database dialect its text if it has one. -/
def ofQuery (query : Value) : Tally :=
  let c := classify query
  match c.dialect with
  | .builder => ⟨c.count .logs, c.count .traces, c.count .metrics, c.flagged, false⟩
  | .clickhouseSql =>
    { zero with raw := ((Lens.ofValue query).key "clickhouse_sql").isPresent }
  | .other => zero

def ofWidget (w : Widget) : Tally := ofQuery w.query

def ofDocument (document : Value) : Tally :=
  (widgets document).foldl (fun t w => t.add (ofWidget w)) zero

end Tally

/-- The title that a new dashboard gets before it is named. -/
def placeholderTitle : String := "Sample Title"

/-- The title is a string, not empty and not the placeholder, and the array of widgets has an
item. -/
def isPopulated (document : Value) : Bool :=
  let place := Lens.ofValue document
  (match (place.key "title").string? with
    | some title => title != "" && title != placeholderTitle
    | none => false) &&
  (match (place.key "widgets").array? with
    | some items => !items.isEmpty
    | none => false)

structure Summary where
  title : String
  populated : Bool
  logsPanels : Nat
  tracesPanels : Nat
  metricsPanels : Nat
  flaggedFilters : Nat
  rawLogs : Bool
  rawTraces : Bool
  timeSeriesV2 : Bool
  tagAttributes : Bool
  deriving DecidableEq, Repr, Inhabited

/-- References to tables of logs and traces count only where a raw query is present. -/
def summarize (detector : Detector) (document : Value) : Summary :=
  let tally := Tally.ofDocument document
  let signals := detector document
  { title := title document
    populated := isPopulated document
    logsPanels := tally.logs
    tracesPanels := tally.traces
    metricsPanels := tally.metrics
    flaggedFilters := tally.flagged
    rawLogs := tally.raw && signals.logs
    rawTraces := tally.raw && signals.traces
    timeSeriesV2 := signals.timeSeriesV2
    tagAttributes := signals.tagAttributes }

end Dashboards.Analytics
