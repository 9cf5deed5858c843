import Dashboards.Json.Writer
import Dashboards.Output.Result

/-!
# Results as JSON

Every structure is an object with its members in a fixed order; only documents have theirs sorted.

* `optional` : a text that may be missing, null where it is;
* `Result.toJson` : the value that stands for a result.
-/

namespace Dashboards.Output

open Json (Value)

def texts (l : List String) : Value := .array (l.map .string)

def optional (s : Option String) : Value := .ofOption .string s

def integer (n : Int) : Value := .number (.integer n)

def Listing.toJson (l : Listing) : Value :=
  .object [("id", integer l.id), ("uuid", .string l.uuid), ("title", optional l.title),
    ("isLocked", .bool l.locked), ("updated_at", .string l.updatedAt.text),
    ("updated_by", optional l.updatedBy)]

def dashboardToJson (d : Dashboard) : Value :=
  .object [("id", integer d.id), ("uuid", .string d.uuid), ("created_at", .string d.createdAt.text),
    ("created_by", optional d.createdBy), ("updated_at", .string d.updatedAt.text),
    ("updated_by", optional d.updatedBy), ("isLocked", .bool d.locked), ("data", d.document)]

def summaryToJson (s : Analytics.Summary) : Value :=
  .object [("title", .string s.title), ("has_panel_and_name", .bool s.populated),
    ("logs_based_panels", .ofNat s.logsPanels), ("traces_based_panels", .ofNat s.tracesPanels),
    ("metric_based_panels", .ofNat s.metricsPanels),
    ("logs_panels_with_attr_contains_op", .ofNat s.flaggedFilters),
    ("uses_logs_raw_query", .bool s.rawLogs), ("uses_traces_raw_query", .bool s.rawTraces),
    ("uses_time_series_v2", .bool s.timeSeriesV2), ("uses_tag_attributes", .bool s.tagAttributes)]

def reportToJson (r : Analytics.Report) : Value :=
  .object [("total_dashboards", .ofNat r.total),
    ("total_dashboards_with_panel_and_name", .ofNat r.populated),
    ("dashboard_names", texts r.names), ("logs_based_panels", .ofNat r.logsPanels),
    ("traces_based_panels", .ofNat r.tracesPanels), ("metric_based_panels", .ofNat r.metricsPanels),
    ("logs_panels_with_attr_contains_op", .ofNat r.flaggedFilters),
    ("dashboards_with_logs_raw_query", .ofNat r.rawLogs),
    ("dashboards_with_traces_raw_query", .ofNat r.rawTraces),
    ("dashboard_names_with_traces_raw_query", texts r.rawTracesNames),
    ("queries_with_time_series_v2", .ofNat r.timeSeriesV2),
    ("queries_with_tag_attributes", .ofNat r.tagAttributes),
    ("skipped_documents", .ofNat r.skipped)]

def usageToJson (u : Analytics.Usage) : Value :=
  .object [("dashboard_id", .string u.dashboardId), ("dashboard_title", .string u.dashboardTitle),
    ("widget_id", .string u.widgetId), ("widget_title", .string u.widgetTitle)]

/-- Metrics are the keys of an object. -/
def indexToJson (index : Analytics.Index) : Value :=
  .object (index.map fun (metric, usages) => (metric, .array (usages.map usageToJson)))

/-- What is missing has no member. -/
def FileSummary.toJson (s : FileSummary) : Value :=
  .object (("file", .string s.file) :: (
    (s.summary.map fun summary => ("summary", summaryToJson summary)).toList ++
      (s.error.map fun error => ("error", Value.string error)).toList))

def RemovalCheck.toJson (c : RemovalCheck) : Value :=
  .object [("removed", texts c.removed), ("allowed", .bool c.allowed),
    ("max_removed", .ofNat c.maxRemoved)]

def Result.toJson : Result → Value
  | .listings ls => .array (ls.map Listing.toJson)
  | .dashboard d => dashboardToJson d
  | .status uuid s => .object [("uuid", .string uuid), ("status", .string s)]
  | .report r => reportToJson r
  | .metricUsage index => indexToJson index
  | .summaries ss => .array (ss.map FileSummary.toJson)
  | .removal check => check.toJson

end Dashboards.Output
