import Dashboards.Json.Access

/-!
# Queries of widgets

A query is written in the builder's dialect, as a list of items, or as raw text for the database.

* `Dialect`, `Source` : the dialect of a query, the data source of a builder item;
* `BuilderQuery` : what counts of one builder item;
* `flaggedFilters` : how many filters of an item search the text of an attribute of logs;
* `builderQueries` : the items of a query, whatever its dialect;
* `Classification`, `classify` : a query's dialect, and its items if that is the builder's.
-/

namespace Dashboards.Document

open Json

inductive Dialect where
  | builder
  | clickhouseSql
  | other
  deriving DecidableEq, Repr

def Dialect.ofName? : Option String → Dialect
  | some "builder" => .builder
  | some "clickhouse_sql" => .clickhouseSql
  | _ => .other

inductive Source where
  | traces
  | metrics
  | logs
  | other
  deriving DecidableEq, Repr

def Source.ofName? : Option String → Source
  | some "traces" => .traces
  | some "metrics" => .metrics
  | some "logs" => .logs
  | _ => .other

structure BuilderQuery where
  source : Source
  /-- The metric as written, in items about metrics. -/
  metric : Option String
  /-- The flagged filters, in items about logs. -/
  flagged : Nat
  deriving DecidableEq, Repr

/-- Operators that search the text of an attribute. -/
def flaggedOperators : List String := ["contains", "ncontains", "like", "nlike"]

/-- The attribute that is indexed for such searches. -/
def indexedAttribute : String := "body"

/-- A filter with such an operator on an attribute that is not indexed. -/
def isFlagged (filter : Lens) : Bool :=
  (match (filter.key "op").string? with
    | some op => flaggedOperators.contains op
    | none => false) &&
  (filter.key "key").members?.isSome &&
  ((filter.key "key").key "key").string? != some indexedAttribute

def flaggedFilters (item : Value) : Nat :=
  (((Lens.ofValue item).key "filters").key "items").items.countP isFlagged

def BuilderQuery.ofItem (item : Lens) : BuilderQuery :=
  let source := Source.ofName? (item.key "dataSource").string?
  ⟨source,
    if source = .metrics then ((item.key "aggregateAttribute").key "key").string? else none,
    if source = .logs then (item.focus.map flaggedFilters).getD 0 else 0⟩

/-- The items of a query that are objects. -/
def builderQueries (query : Value) : List BuilderQuery :=
  ((((Lens.ofValue query).key "builder").key "queryData").items.filter (·.members?.isSome)).map
    BuilderQuery.ofItem

structure Classification where
  dialect : Dialect
  items : List BuilderQuery
  deriving DecidableEq, Repr

namespace Classification

def count (c : Classification) (source : Source) : Nat :=
  c.items.countP fun item => item.source = source

def flagged (c : Classification) : Nat := c.items.foldr (fun item n => item.flagged + n) 0

end Classification

/-- Items count only where the builder's dialect is named. -/
def classify (query : Value) : Classification :=
  let dialect := Dialect.ofName? ((Lens.ofValue query).key "queryType").string?
  ⟨dialect, if dialect = .builder then builderQueries query else []⟩

end Dashboards.Document
