import Dashboards.Analytics.MetricUsage
import Dashboards.Proofs.Json.Access
import Dashboards.Proofs.Json.Members
import Dashboards.Proofs.Json.RoundTrip
import Dashboards.Proofs.Timestamp
import Mathlib

/-!
# What an index of metrics holds

* `itemsOf`, `Charts` : the items of a query, and those that chart a metric;
  `metricsOf_eq` : these are the metrics of a query;
* `usagesOf` : the usages of one metric, one for each item that charts it, in the order of records,
  widgets and items (`usagesOf_ne_nil`, `usagesOf_append`);
* `Index.under` : the usages under a metric; `Index.under_foldl`, `Index.under_ofRecords` : those of an
  index are the usages of each wanted metric;
* `Index.Proper` : keys ascend, and none stands for nothing; `Index.Proper.ext` : such an index is what
  is under its metrics; `Index.mem_ofRecords_iff` : the entries of an index of records;
* `index_is_exact` : an index holds all usages of the wanted metrics and nothing else, whatever the
  order of the metrics, and its parts for parts of the records follow one another
  (`index_of_two_records`).
-/

namespace Dashboards.Analytics

open Json Document

/-! ## Items that chart a metric -/

/-- The items of the builder of a query, whatever its dialect. -/
def itemsOf (query : Value) : List Value :=
  ((query.field? "builder").bind (·.arrayField? "queryData")).getD []

/-- The name of the attribute that an item about metrics aggregates, without white space around it. -/
def metricOf? (item : Value) : Option String :=
  if item.stringField? "dataSource" = some "metrics" then
    ((item.field? "aggregateAttribute").bind (·.stringField? "key")).map Text.trim
  else none

/-- The item is about metrics and aggregates the attribute of that name. -/
def Charts (metric : String) (item : Value) : Prop :=
  item.stringField? "dataSource" = some "metrics" ∧
    ∃ aggregated name, item.field? "aggregateAttribute" = some aggregated ∧
      aggregated.stringField? "key" = some name ∧ Text.trim name = metric

theorem charts_iff {metric : String} {item : Value} : Charts metric item ↔ metricOf? item = some metric := by
  unfold Charts metricOf?
  split_ifs with h
  · simp only [h, true_and, Option.map_eq_some_iff, Option.bind_eq_some_iff]
    exact ⟨fun ⟨v, name, hv, hname, htrim⟩ => ⟨name, ⟨v, hv, hname⟩, htrim⟩,
      fun ⟨name, ⟨v, hv, hname⟩, htrim⟩ => ⟨v, name, hv, hname, htrim⟩⟩
  · simp [h]

instance (metric : String) : DecidablePred (Charts metric) := fun _ => decidable_of_iff' _ charts_iff

theorem ofName?_eq_metrics_iff {name : Option String} : Source.ofName? name = .metrics ↔ name = some "metrics" := by
  unfold Source.ofName?
  split <;> simp_all

/-- What a place in the list of items names. -/
theorem metric_ofItem (item : Value) :
    (if (BuilderQuery.ofItem (.ofValue item)).source = .metrics then
      (BuilderQuery.ofItem (.ofValue item)).metric.map Text.trim else none) = metricOf? item := by
  simp only [BuilderQuery.ofItem, metricOf?, ofName?_eq_metrics_iff, Lens.string?_key_ofValue,
    Lens.string?_key_key_ofValue]
  split_ifs <;> rfl

/-- Only objects name a metric. -/
theorem metricOf?_of_not_object {item : Value} (h : (Lens.ofValue item).members? = none) : metricOf? item = none := by
  cases item with
  | object members => cases h
  | _ => rfl

theorem metricsOf_eq (query : Value) : metricsOf query = (itemsOf query).filterMap metricOf? := by
  unfold metricsOf builderQueries itemsOf
  rw [Lens.items_key_key_ofValue, List.filter_map, List.map_map, List.filterMap_map, List.filterMap_filter]
  apply List.filterMap_congr
  intro item _
  split_ifs with h
  · exact metric_ofItem item
  · exact (metricOf?_of_not_object (by simpa using h)).symm

/-! ## Usages of one metric -/

/-- The usage that an item of a widget is. -/
def usageOf (record : Record) (document : Value) (widget : Widget) : Usage :=
  ⟨record.uuid, title document, widget.id, widget.title.getD ""⟩

/-- The items of a widget that chart the metric, as usages. -/
def usagesOfWidget (metric : String) (record : Record) (document : Value) (widget : Widget) : List Usage :=
  ((itemsOf widget.query).filter (Charts metric)).map fun _ => usageOf record document widget

/-- Widget by widget; a record whose document cannot be read has no widgets. -/
def usagesOfMetric (metric : String) (record : Record) : List Usage :=
  match parse record.data with
  | .ok document => (widgets document).flatMap (usagesOfWidget metric record document)
  | .error _ => []

/-- Record by record. -/
def usagesOf (metric : String) (records : List Record) : List Usage := records.flatMap (usagesOfMetric metric)

theorem usagesOf_append (metric : String) (records others : List Record) :
    usagesOf metric (records ++ others) = usagesOf metric records ++ usagesOf metric others :=
  List.flatMap_append

theorem usagesOfMetric_ne_nil {metric : String} {record : Record} :
    usagesOfMetric metric record ≠ [] ↔
      ∃ document, parse record.data = .ok document ∧
        ∃ widget ∈ widgets document, ∃ item ∈ itemsOf widget.query, Charts metric item := by
  unfold usagesOfMetric
  cases parse record.data with
  | error flaw => simp
  | ok document => simp [usagesOfWidget, List.flatMap_eq_nil_iff]

theorem usagesOf_ne_nil {metric : String} {records : List Record} :
    usagesOf metric records ≠ [] ↔
      ∃ record ∈ records, ∃ document, parse record.data = .ok document ∧
        ∃ widget ∈ widgets document, ∃ item ∈ itemsOf widget.query, Charts metric item := by
  simp only [usagesOf, ne_eq, List.flatMap_eq_nil_iff, not_forall, exists_prop, usagesOfMetric_ne_nil]

/-- The usages of one metric among those of all metrics that are tagged. -/
def tagged (metric : String) (pairs : List (String × Usage)) : List Usage :=
  (pairs.filter (·.1 = metric)).map (·.2)

section Tagged

variable {metric : String} {wanted : List String}

theorem tagged_flatMap {α : Type} (f : α → List (String × Usage)) (xs : List α) :
    tagged metric (xs.flatMap f) = xs.flatMap fun x => tagged metric (f x) := by
  simp only [tagged, List.filter_flatMap, List.map_flatMap]

/-- Among the items of one query, each named by its metric. -/
theorem tagged_items (usage : Usage) (items : List Value) :
    tagged metric (((items.filterMap metricOf?).filter wanted.contains).map fun m => (m, usage)) =
      if metric ∈ wanted then (items.filter (Charts metric)).map fun _ => usage else [] := by
  induction items with
  | nil => simp [tagged]
  | cons item items ih =>
    rw [List.filterMap_cons, List.filter_cons]
    simp only [charts_iff] at ih ⊢
    cases hitem : metricOf? item with
    | none => simpa using ih
    | some name =>
      by_cases hname : name = metric
      · subst hname
        by_cases hwanted : name ∈ wanted
        · simpa [hwanted, tagged] using ih
        · simpa [hwanted, tagged] using ih
      · by_cases hwanted : name ∈ wanted
        · simpa [hwanted, hname, tagged] using ih
        · simpa [hwanted, hname, tagged] using ih

theorem tagged_usagesOfRecord (record : Record) :
    tagged metric (usagesOfRecord wanted record) = if metric ∈ wanted then usagesOfMetric metric record else [] := by
  unfold usagesOfRecord usagesOfMetric
  cases parse record.data with
  | error flaw => simp [tagged]
  | ok document =>
    simp only [usagesOfDocument, tagged_flatMap, metricsOf_eq]
    split_ifs with hwanted
    · apply List.flatMap_congr
      intro widget _
      exact (tagged_items _ _).trans (if_pos hwanted)
    · rw [List.flatMap_eq_nil_iff]
      intro widget _
      exact (tagged_items _ _).trans (if_neg hwanted)

end Tagged

/-! ## Indexes -/

namespace Index

/-- The usages under a metric. -/
def under (index : Index) (metric : String) : List Usage := (lookup metric index).getD []

theorem under_add (index : Index) (m : String) (usage : Usage) (metric : String) :
    (index.add m usage).under metric = index.under metric ++ tagged metric [(m, usage)] := by
  unfold under add
  rw [lookup_insertMember]
  by_cases h : metric = m
  · simp [h, tagged]
  · simp [h, Ne.symm h, tagged]

/-- Usages that are added go behind those that are there, in their order. -/
theorem under_foldl (pairs : List (String × Usage)) (index : Index) (metric : String) :
    (pairs.foldl (fun index (m, u) => index.add m u) index).under metric =
      index.under metric ++ tagged metric pairs := by
  induction pairs generalizing index with
  | nil => simp [tagged]
  | cons pair pairs ih =>
    obtain ⟨m, usage⟩ := pair
    have hcons : tagged metric ((m, usage) :: pairs) = tagged metric [(m, usage)] ++ tagged metric pairs := by
      simp [tagged, ← List.map_append, ← List.filter_append]
    rw [List.foldl_cons, ih, under_add, hcons, List.append_assoc]

theorem under_ofRecords (wanted : List String) (records : List Record) (metric : String) :
    (ofRecords wanted records).under metric = if metric ∈ wanted then usagesOf metric records else [] := by
  rw [ofRecords, under_foldl, tagged_flatMap]
  simp only [tagged_usagesOfRecord]
  split_ifs
  · rfl
  · simp [under, lookup]

/-! ## What an index is -/

/-- Keys ascend, and each stands for some usage. -/
structure Proper (index : Index) : Prop where
  sorted : SortedKeys index
  nonempty : ∀ entry ∈ index, entry.2 ≠ []

variable {index other : Index}

theorem Proper.add (h : index.Proper) (m : String) (usage : Usage) : (index.add m usage).Proper where
  sorted := sortedKeys_insertMember h.sorted
  nonempty entry hentry := by
    rcases mem_insertMember hentry with rfl | hentry
    · simp
    · exact h.nonempty entry hentry

theorem Proper.foldl (h : index.Proper) (pairs : List (String × Usage)) :
    (pairs.foldl (fun index (m, u) => index.add m u) index).Proper := by
  induction pairs generalizing index with
  | nil => exact h
  | cons pair pairs ih => exact ih (h.add pair.1 pair.2)

theorem proper_ofRecords (wanted : List String) (records : List Record) : (ofRecords wanted records).Proper :=
  Proper.foldl ⟨.nil, by simp⟩ _

/-- An entry is what is under its metric. -/
theorem Proper.mem_iff (h : index.Proper) {metric : String} {usages : List Usage} :
    (metric, usages) ∈ index ↔ usages ≠ [] ∧ index.under metric = usages := by
  unfold under
  constructor
  · intro hmem
    rw [h.sorted.mem_iff.mp hmem]
    exact ⟨h.nonempty _ hmem, rfl⟩
  · rintro ⟨hne, rfl⟩
    cases hfound : lookup metric index with
    | none => simp [hfound] at hne
    | some usages => exact mem_of_lookup hfound

/-- The keys are the metrics that something is under. -/
theorem Proper.mem_keys_iff (h : index.Proper) {metric : String} :
    metric ∈ index.map (·.1) ↔ index.under metric ≠ [] := by
  constructor
  · intro hmem
    obtain ⟨⟨m, usages⟩, hentry, rfl⟩ := List.mem_map.mp hmem
    obtain ⟨hne, hunder⟩ := h.mem_iff.mp hentry
    rwa [hunder]
  · intro hne
    exact List.mem_map_of_mem (h.mem_iff.mpr ⟨hne, rfl⟩)

theorem Proper.ext (h : index.Proper) (h' : other.Proper) (heq : ∀ metric, index.under metric = other.under metric) :
    index = other := by
  refine h.sorted.ext h'.sorted fun metric => ?_
  ext usages
  rw [← h.sorted.mem_iff, ← h'.sorted.mem_iff, h.mem_iff, h'.mem_iff, heq]

/-- The entries of an index of records: each wanted metric with all its usages, if there are any. -/
theorem mem_ofRecords_iff {wanted : List String} {records : List Record} {metric : String} {usages : List Usage} :
    (metric, usages) ∈ ofRecords wanted records ↔
      metric ∈ wanted ∧ usages ≠ [] ∧ usagesOf metric records = usages := by
  rw [(proper_ofRecords wanted records).mem_iff, under_ofRecords]
  by_cases hmetric : metric ∈ wanted
  · simp [hmetric]
  · simp [hmetric, eq_comm]

theorem mem_keys_ofRecords_iff {wanted : List String} {records : List Record} {metric : String} :
    metric ∈ (ofRecords wanted records).map (·.1) ↔ metric ∈ wanted ∧ usagesOf metric records ≠ [] := by
  rw [(proper_ofRecords wanted records).mem_keys_iff, under_ofRecords]
  by_cases hmetric : metric ∈ wanted <;> simp [hmetric]

theorem under_ofRecords_append (wanted : List String) (records others : List Record) (metric : String) :
    (ofRecords wanted (records ++ others)).under metric =
      (ofRecords wanted records).under metric ++ (ofRecords wanted others).under metric := by
  simp only [under_ofRecords, usagesOf_append]
  split_ifs <;> rfl

theorem ofRecords_congr {wanted wanted' : List String} (h : ∀ metric, metric ∈ wanted' ↔ metric ∈ wanted)
    (records : List Record) : ofRecords wanted' records = ofRecords wanted records := by
  refine (proper_ofRecords wanted' records).ext (proper_ofRecords wanted records) fun metric => ?_
  simp only [under_ofRecords, h]

end Index

/-! ## The whole index -/

/-- The keys of an index ascend. They are the wanted metrics that an item of a widget of a readable record
charts, and each stands for all usages of its metric in order. The order of the wanted metrics, and how
often one is wanted, does not matter; more of them add their own entries; and what more records
contribute goes behind what is there, metric by metric. -/
theorem index_is_exact (wanted : List String) (records : List Record) :
    SortedKeys (Index.ofRecords wanted records) ∧
    (∀ metric, metric ∈ (Index.ofRecords wanted records).map (·.1) ↔ metric ∈ wanted ∧
      ∃ record ∈ records, ∃ document, parse record.data = .ok document ∧
        ∃ widget ∈ widgets document, ∃ item ∈ itemsOf widget.query, Charts metric item) ∧
    (∀ metric usages, (metric, usages) ∈ Index.ofRecords wanted records → usages = usagesOf metric records) ∧
    (∀ wanted', (∀ metric, metric ∈ wanted' ↔ metric ∈ wanted) →
      Index.ofRecords wanted' records = Index.ofRecords wanted records) ∧
    (∀ wanted' entry, entry ∈ Index.ofRecords (wanted ++ wanted') records ↔
      entry ∈ Index.ofRecords wanted records ∨ entry ∈ Index.ofRecords wanted' records) ∧
    (∀ records' metric, (Index.ofRecords wanted (records ++ records')).under metric =
      (Index.ofRecords wanted records).under metric ++ (Index.ofRecords wanted records').under metric) ∧
    (∀ records' metric, metric ∈ (Index.ofRecords wanted (records ++ records')).map (·.1) ↔
      metric ∈ (Index.ofRecords wanted records).map (·.1) ∨
        metric ∈ (Index.ofRecords wanted records').map (·.1)) := by
  refine ⟨(Index.proper_ofRecords wanted records).sorted, ?_, ?_, ?_, ?_, ?_, ?_⟩
  · intro metric
    rw [Index.mem_keys_ofRecords_iff, usagesOf_ne_nil]
  · intro metric usages hentry
    exact (Index.mem_ofRecords_iff.mp hentry).2.2.symm
  · intro wanted' hsame
    exact Index.ofRecords_congr hsame records
  · rintro wanted' ⟨metric, usages⟩
    simp only [Index.mem_ofRecords_iff, List.mem_append, or_and_right]
  · intro records' metric
    exact Index.under_ofRecords_append wanted records records' metric
  · intro records' metric
    simp only [(Index.proper_ofRecords _ _).mem_keys_iff, Index.under_ofRecords_append, ne_eq, List.append_eq_nil_iff,
      not_and_or]

/-- An item that charts a metric, written as `name`. -/
def chartingItem (name : String) : Value :=
  .object [("aggregateAttribute", .object [("key", .string name)]), ("dataSource", .string "metrics")]

/-- One widget, with two items about one metric. -/
def charting : Value :=
  .object [("title", .string "t"), ("widgets", .array [.object [("id", .string "w"), ("query", .object
    [("builder", .object [("queryData", .array [chartingItem " cpu", .null, chartingItem "cpu\t"])])])]])]

theorem charting_parses : parse charting.compact = .ok charting := by
  refine document_parse_of_canonical ?_ (by decide) rfl
  simp only [charting, chartingItem, Value.Canonical, Value.CanonicalItems, Value.CanonicalMembers, SortedKeys, and_true,
    true_and]
  decide

def chartingRecord (uuid : String) : Record := .fresh uuid charting.compact none .newYear

theorem usagesOfRecord_charting (uuid : String) : usagesOfRecord ["mem", "cpu"] (chartingRecord uuid) =
    [("cpu", ⟨uuid, "t", "w", ""⟩), ("cpu", ⟨uuid, "t", "w", ""⟩)] := by
  have hparse : parse (chartingRecord uuid).data = .ok charting := charting_parses
  rw [usagesOfRecord, hparse]
  rfl

/-- An index of two records that chart one of two wanted metrics, each twice. -/
theorem index_of_two_records :
    (∀ metric, metric ∈ ["cpu", "mem", "cpu"] ↔ metric ∈ ["mem", "cpu"]) ∧
    Index.ofRecords ["cpu", "mem", "cpu"] [chartingRecord "a", chartingRecord "b"] =
      [("cpu", [⟨"a", "t", "w", ""⟩, ⟨"a", "t", "w", ""⟩, ⟨"b", "t", "w", ""⟩, ⟨"b", "t", "w", ""⟩])] := by
  have hsame : ∀ metric, metric ∈ ["cpu", "mem", "cpu"] ↔ metric ∈ ["mem", "cpu"] := by
    intro metric
    simp [or_comm]
  obtain ⟨-, -, -, hwanted, -⟩ := index_is_exact ["mem", "cpu"] [chartingRecord "a", chartingRecord "b"]
  refine ⟨hsame, ?_⟩
  rw [hwanted _ hsame, Index.ofRecords, List.flatMap_cons, List.flatMap_cons, usagesOfRecord_charting,
    usagesOfRecord_charting]
  rfl

end Dashboards.Analytics
