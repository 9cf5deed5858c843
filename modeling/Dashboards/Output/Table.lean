import Dashboards.Document.Widget
import Dashboards.Output.Format
import Dashboards.Output.Json

/-!
# Results as tables

Lists have a header and a line for each item, with a tab between cells; a single item has a line for
each of its properties.

* `row`, `property` : a line of cells, a line of a name and a value;
* `Result.table` : the text of a result;
* `Result.render` : the text of a result in either format.

Cells are written as they are, also where a tab or the end of a line stands in them.
-/

namespace Dashboards.Output

def missing : String := "N/A"

def yesNo (b : Bool) : String := if b then "Yes" else "No"

/-- Cells with a tab between them, on a line of their own. -/
def row (cells : List String) : String := "\t".intercalate cells ++ "\n"

def property (name value : String) : String := name ++ ": " ++ value ++ "\n"

/-! ## Lists -/

def listingHeader : List String := ["ID", "UUID", "Title", "Locked", "Updated At", "Updated By"]

def Listing.cells (l : Listing) : List String :=
  [toString l.id, l.uuid, l.title.getD missing, yesNo l.locked, l.updatedAt.offsetText,
    l.updatedBy.getD missing]

def usageHeader : List String :=
  ["Metric", "Dashboard", "Dashboard Title", "Widget", "Widget Title"]

def usageCells (metric : String) (u : Analytics.Usage) : List String :=
  [metric, u.dashboardId, u.dashboardTitle, u.widgetId, u.widgetTitle]

/-- The rows of an index, metric by metric. -/
def indexRows (index : Analytics.Index) : List (List String) :=
  index.flatMap fun (metric, usages) => usages.map (usageCells metric)

def rows (header : List String) (lines : List (List String)) : String :=
  String.join ((header :: lines).map row)

def listingsTable (listings : List Listing) : String :=
  if listings.isEmpty then "No dashboards found."
  else rows listingHeader (listings.map Listing.cells)

/-- A metric without usages has no row, but it keeps the header. -/
def indexTable (index : Analytics.Index) : String :=
  if index.isEmpty then "No dashboards use the given metrics."
  else rows usageHeader (indexRows index)

/-! ## Single items -/

def properties (l : List (String × String)) : String :=
  String.join (l.map fun (name, value) => property name value)

def dashboardProperties (d : Dashboard) : List (String × String) :=
  [("ID", toString d.id), ("UUID", d.uuid), ("Title", d.title), ("Locked", yesNo d.locked),
    ("Created At", d.createdAt.offsetText), ("Created By", d.createdBy.getD missing),
    ("Updated At", d.updatedAt.offsetText), ("Updated By", d.updatedBy.getD missing),
    ("Widgets", toString (Document.widgets d.document).length)]

def reportProperties (r : Analytics.Report) : List (String × String) :=
  [("Total Dashboards", toString r.total),
    ("Dashboards With Panel And Name", toString r.populated),
    ("Skipped Documents", toString r.skipped), ("Logs Panels", toString r.logsPanels),
    ("Traces Panels", toString r.tracesPanels), ("Metric Panels", toString r.metricsPanels),
    ("Flagged Log Filters", toString r.flaggedFilters),
    ("Dashboards With Raw Logs Query", toString r.rawLogs),
    ("Dashboards With Raw Traces Query", toString r.rawTraces),
    ("Using time_series_v2", toString r.timeSeriesV2),
    ("Using Tag Attributes", toString r.tagAttributes)] ++
  if r.rawTracesNames.isEmpty then []
  else [("Raw Traces Dashboards", ", ".intercalate r.rawTracesNames)]

def summaryProperties (s : Analytics.Summary) : List (String × String) :=
  [("  Title", s.title), ("  Has Panel And Name", yesNo s.populated),
    ("  Logs Panels", toString s.logsPanels), ("  Traces Panels", toString s.tracesPanels),
    ("  Metric Panels", toString s.metricsPanels),
    ("  Flagged Log Filters", toString s.flaggedFilters), ("  Raw Logs Query", yesNo s.rawLogs),
    ("  Raw Traces Query", yesNo s.rawTraces), ("  Uses time_series_v2", yesNo s.timeSeriesV2),
    ("  Uses Tag Attributes", yesNo s.tagAttributes)]

/-- The name of the file, and below it the summary or else the error. -/
def FileSummary.table (s : FileSummary) : String :=
  s.file ++ ":\n" ++
    match s.summary with
    | some summary => properties (summaryProperties summary)
    | none => property "  Error" (s.error.getD missing)

def RemovalCheck.properties (c : RemovalCheck) : List (String × String) :=
  [("Removed Widgets", if c.removed.isEmpty then "none" else ", ".intercalate c.removed),
    ("Allowed",
      yesNo c.allowed ++ " (at most " ++ toString c.maxRemoved ++ " removal per update)")]

/-! ## Results -/

def Result.table : Result → String
  | .listings ls => listingsTable ls
  | .dashboard d => properties (dashboardProperties d)
  | .status uuid s => "Dashboard " ++ uuid ++ " " ++ s ++ "."
  | .report r => properties (reportProperties r)
  | .metricUsage index => indexTable index
  | .summaries ss => String.join (ss.map FileSummary.table)
  | .removal check => properties check.properties

/-- The text of a result, which has no line end behind its last line in JSON. -/
def Result.render (format : Format) (result : Result) : String :=
  match format with
  | .json => result.toJson.pretty
  | .table => result.table

end Dashboards.Output
