import Dashboards.Analytics.Summary
import Dashboards.Record

/-!
# Report over all dashboards

* `Report` : counts and names over a list of records;
* `Report.addSummary`, `Report.addRecord` : one more document, one more record;
* `Report.ofRecords` : the report, the records taken in order.
-/

namespace Dashboards.Analytics

open Json Document

structure Report where
  total : Nat
  populated : Nat
  names : List String
  logsPanels : Nat
  tracesPanels : Nat
  metricsPanels : Nat
  flaggedFilters : Nat
  rawLogs : Nat
  rawTraces : Nat
  rawTracesNames : List String
  timeSeriesV2 : Nat
  tagAttributes : Nat
  /-- Records whose document cannot be read. -/
  skipped : Nat
  deriving DecidableEq, Repr, Inhabited

namespace Report

def empty : Report := ⟨0, 0, [], 0, 0, 0, 0, 0, 0, [], 0, 0, 0⟩

/-- An empty title is no name of a dashboard, but it stands among those with raw queries. -/
def addSummary (r : Report) (s : Summary) : Report :=
  { r with
    total := r.total + 1
    populated := r.populated + s.populated.toNat
    names := if s.title = "" then r.names else r.names ++ [s.title]
    logsPanels := r.logsPanels + s.logsPanels
    tracesPanels := r.tracesPanels + s.tracesPanels
    metricsPanels := r.metricsPanels + s.metricsPanels
    flaggedFilters := r.flaggedFilters + s.flaggedFilters
    rawLogs := r.rawLogs + s.rawLogs.toNat
    rawTraces := r.rawTraces + s.rawTraces.toNat
    rawTracesNames := if s.rawTraces then r.rawTracesNames ++ [s.title] else r.rawTracesNames
    timeSeriesV2 := r.timeSeriesV2 + s.timeSeriesV2.toNat
    tagAttributes := r.tagAttributes + s.tagAttributes.toNat }

/-- A record whose document cannot be read is skipped. -/
def addRecord (detector : Detector) (r : Report) (record : Record) : Report :=
  match parse record.data with
  | .ok document => r.addSummary (summarize detector document)
  | .error _ => { r with skipped := r.skipped + 1 }

def ofRecords (detector : Detector) (records : List Record) : Report :=
  records.foldl (addRecord detector) empty

end Report

end Dashboards.Analytics
