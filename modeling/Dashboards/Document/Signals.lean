import Dashboards.Json.Writer

/-!
# Signals in the text of a document

Raw queries are not taken apart. Which tables and columns they use is told by names that occur in
the compact text of the whole document.

* `Signals` : what the text refers to;
* `occurs` : a name occurs in a text;
* `Detector` : any rule that finds signals; `detect` : the rule by names.
-/

namespace Dashboards.Document

open Json

structure Signals where
  logs : Bool
  traces : Bool
  timeSeriesV2 : Bool
  tagAttributes : Bool
  deriving DecidableEq, Repr

def logsTables : List String := ["signoz_logs.distributed_logs", "signoz_logs.logs"]

def tracesTables : List String :=
  ["signoz_traces.distributed_signoz_index_v2", "signoz_traces.distributed_signoz_spans",
    "signoz_traces.distributed_signoz_error_index_v2"]

def timeSeriesTables : List String := ["time_series_v2"]

def tagColumns : List String := ["span_attributes", "tag_attributes"]

/-- The name stands somewhere in the text. -/
def occurs (name : List Char) : List Char → Bool
  | [] => name.isEmpty
  | c :: text => name.isPrefixOf (c :: text) || occurs name text

def anyOccurs (names : List String) (text : List Char) : Bool :=
  names.any fun name => occurs name.toList text

/-- A rule that finds signals in a document. -/
abbrev Detector := Value → Signals

def detect : Detector := fun document =>
  let text := document.write []
  ⟨anyOccurs logsTables text, anyOccurs tracesTables text, anyOccurs timeSeriesTables text,
    anyOccurs tagColumns text⟩

end Dashboards.Document
