import Dashboards.Analytics.MetricUsage
import Dashboards.Analytics.Summary
import Dashboards.Document.Removal
import Dashboards.Proofs.Json.Prune
import Mathlib

/-!
# Which members of a document count

Dashboards carry much that no part of this program reads. What it reads are the members with a
recognised key, and a null among them is as good as no member.

* `recognisedKeys` : the keys that are looked up in documents;
* `essential` : a document without nulls and without members of other keys;
* `key_essentialPlace`, `string?_key_essentialPlace` : a recognised step into it;
* `builderQueries_essential`, `classify_essential` : a query counts as its essential part;
* `widgets_essential` : the widgets of an essential part are those of the document, each with the
  essential part of its query;
* `summarize_essential`, `usagesOfDocument_essential`, `checkRemoval_essential`,
  `checkNew_essential` : a document counts as its essential part;
* `only_recognised_members_count` : in all that is made of it.
-/

namespace Dashboards.Document

open Json Json.Value Analytics

/-! ## The essential part -/

/-- The keys that are looked up in documents, in their widgets and in the queries of these. -/
def recognisedKeys : List String :=
  ["title", "widgets", "id", "query", "queryType", "builder", "queryData", "dataSource",
    "aggregateAttribute", "key", "filters", "items", "op", "clickhouse_sql"]

def isRecognised (key : String) : Bool := recognisedKeys.contains key

/-- Only members with a recognised key and a value that is not null, at every depth. -/
def essential (v : Value) : Value := v.prune isRecognised

/-- The essential part of what stands at a place. -/
def essentialPlace (l : Lens) : Lens := l.prune isRecognised

section Places

variable {l : Lens} {k : String}

theorem ofValue_essential (v : Value) : Lens.ofValue (essential v) = essentialPlace (Lens.ofValue v) :=
  Lens.ofValue_prune v

theorem key_essentialPlace (hk : isRecognised k = true) (hl : l.Canonical) :
    (essentialPlace l).key k = essentialPlace (l.key k) := Lens.key_prune hk hl

theorem string?_key_essentialPlace (hk : isRecognised k = true) (hl : l.Canonical) :
    ((essentialPlace l).key k).string? = (l.key k).string? := by
  rw [key_essentialPlace hk hl, essentialPlace, Lens.string?_prune]

theorem isPresent_key_essentialPlace (hk : isRecognised k = true) (hl : l.Canonical) :
    ((essentialPlace l).key k).isPresent = (l.key k).isPresent := by
  rw [key_essentialPlace hk hl, essentialPlace, Lens.isPresent_prune]

theorem items_essentialPlace : (essentialPlace l).items = l.items.map essentialPlace := Lens.items_prune

end Places

/-! ## Queries -/

section Queries

variable {l : Lens} {query : Value}

theorem isFlagged_essential (hl : l.Canonical) : isFlagged (essentialPlace l) = isFlagged l := by
  have hkey : (essentialPlace l).key "key" = essentialPlace (l.key "key") := key_essentialPlace (by decide) hl
  unfold isFlagged
  rw [string?_key_essentialPlace (by decide) hl, hkey, string?_key_essentialPlace (by decide) hl.key,
    essentialPlace, Lens.members?_prune]

theorem flaggedFilters_essential {item : Value} (hitem : item.Canonical) :
    flaggedFilters (essential item) = flaggedFilters item := by
  have hplace := Lens.canonical_ofValue hitem
  unfold flaggedFilters
  rw [ofValue_essential, key_essentialPlace (by decide) hplace, key_essentialPlace (by decide) hplace.key,
    items_essentialPlace, List.countP_map]
  apply List.countP_congr
  intro filter hfilter
  change isFlagged (essentialPlace filter) = true ↔ isFlagged filter = true
  rw [isFlagged_essential (hplace.key.key.of_mem_items hfilter)]

theorem ofItem_essential (hl : l.Canonical) : BuilderQuery.ofItem (essentialPlace l) = BuilderQuery.ofItem l := by
  have hflagged : (essentialPlace l).focus.map flaggedFilters = l.focus.map flaggedFilters := by
    obtain ⟨_ | item⟩ := l
    · rfl
    · exact congrArg some (flaggedFilters_essential (hl item rfl))
  unfold BuilderQuery.ofItem
  rw [hflagged, string?_key_essentialPlace (by decide) hl, key_essentialPlace (by decide) hl,
    string?_key_essentialPlace (by decide) hl.key]

/-- The items of a query, whether or not its dialect asks for them. -/
theorem builderQueries_essential (hquery : query.Canonical) :
    builderQueries (essential query) = builderQueries query := by
  have hplace := Lens.canonical_ofValue hquery
  have hobjects : ((·.members?.isSome) ∘ essentialPlace : Lens → Bool) = (·.members?.isSome) :=
    funext fun _ => Lens.members?_prune
  unfold builderQueries
  rw [ofValue_essential, key_essentialPlace (by decide) hplace, key_essentialPlace (by decide) hplace.key,
    items_essentialPlace, List.filter_map, hobjects, List.map_map]
  apply List.map_congr_left
  intro item hitem
  exact ofItem_essential (hplace.key.key.of_mem_items (List.mem_filter.mp hitem).1)

theorem classify_essential (hquery : query.Canonical) : classify (essential query) = classify query := by
  unfold classify
  rw [ofValue_essential, string?_key_essentialPlace (by decide) (Lens.canonical_ofValue hquery),
    builderQueries_essential hquery]

end Queries

/-! ## Widgets -/

section Widgets

/-- A widget with the essential part of its query. -/
def Widget.essential (w : Widget) : Widget := { w with query := Document.essential w.query }

variable {d : Value}

theorem ofValue?_essential {v : Value} (hv : v.Canonical) :
    Widget.ofValue? (essential v) = (Widget.ofValue? v).map Widget.essential := by
  have hquery : (essential v).field? "query" = (v.field? "query").map essential := field?_prune (by decide) hv
  have hid : (essential v).stringField? "id" = v.stringField? "id" := stringField?_prune (by decide) hv
  have htitle : (essential v).stringField? "title" = v.stringField? "title" := stringField?_prune (by decide) hv
  unfold Widget.ofValue?
  rw [hid, hquery, htitle]
  cases v.stringField? "id" with
  | none => rfl
  | some id => cases v.field? "query" <;> rfl

theorem widgets_essential (hd : d.Canonical) : widgets (essential d) = (widgets d).map Widget.essential := by
  have hplace := Lens.canonical_ofValue hd
  unfold widgets
  rw [ofValue_essential, key_essentialPlace (by decide) hplace, items_essentialPlace, List.filterMap_map,
    List.map_filterMap]
  apply List.filterMap_congr
  intro place hmem
  have hcanonical := hplace.key.of_mem_items hmem
  obtain ⟨_ | v⟩ := place
  · rfl
  · exact ofValue?_essential (hcanonical v rfl)

/-- The query of a widget is a part of the document. -/
theorem canonical_query (hd : d.Canonical) {w : Widget} (hw : w ∈ widgets d) : w.query.Canonical := by
  obtain ⟨place, hplace, hv⟩ := List.mem_filterMap.mp hw
  obtain ⟨v, hfocus, hv⟩ := Option.bind_eq_some_iff.mp hv
  obtain ⟨id, -, hv⟩ := Option.bind_eq_some_iff.mp hv
  obtain ⟨query, hquery, hv⟩ := Option.bind_eq_some_iff.mp hv
  cases hv
  exact ((Lens.canonical_ofValue hd).key.of_mem_items hplace v hfocus).field? hquery

/-- The widgets look the same to whatever takes a query as its essential part. -/
theorem map_widgets_essential {α : Type} {f : Widget → α} (hd : d.Canonical)
    (hf : ∀ w : Widget, w.query.Canonical → f w.essential = f w) : (widgets (essential d)).map f = (widgets d).map f := by
  rw [widgets_essential hd, List.map_map]
  exact List.map_congr_left fun w hw => hf w (canonical_query hd hw)

theorem widgetIds_essential (hd : d.Canonical) : widgetIds (essential d) = widgetIds d :=
  map_widgets_essential hd fun _ _ => rfl

end Widgets

/-! ## Documents -/

section Documents

variable {d e : Value}

theorem title_essential (hd : d.Canonical) : title (essential d) = title d := by
  unfold title
  rw [ofValue_essential, string?_key_essentialPlace (by decide) (Lens.canonical_ofValue hd)]

theorem isPopulated_essential (hd : d.Canonical) : isPopulated (essential d) = isPopulated d := by
  have hplace := Lens.canonical_ofValue hd
  unfold isPopulated
  dsimp only
  rw [ofValue_essential, string?_key_essentialPlace (by decide) hplace, key_essentialPlace (by decide) hplace,
    essentialPlace, Lens.array?_prune]
  cases ((Lens.ofValue d).key "widgets").array? with
  | none => rfl
  | some items => cases items <;> rfl

theorem ofWidget_essential {w : Widget} (hw : w.query.Canonical) : Tally.ofWidget w.essential = Tally.ofWidget w := by
  change Tally.ofQuery (essential w.query) = Tally.ofQuery w.query
  unfold Tally.ofQuery
  rw [classify_essential hw, ofValue_essential, isPresent_key_essentialPlace (by decide) (Lens.canonical_ofValue hw)]

theorem tally_essential (hd : d.Canonical) : Tally.ofDocument (essential d) = Tally.ofDocument d := by
  have hfold : ∀ document, Tally.ofDocument document =
      ((widgets document).map Tally.ofWidget).foldl Tally.add Tally.zero :=
    fun document => (List.foldl_map ..).symm
  rw [hfold, hfold, map_widgets_essential hd fun _ => ofWidget_essential]

/-- Where the text of the documents gives the same signals. -/
theorem summarize_essential {detector : Detector} (hd : d.Canonical) (h : detector (essential d) = detector d) :
    summarize detector (essential d) = summarize detector d := by
  unfold summarize
  rw [tally_essential hd, title_essential hd, isPopulated_essential hd, h]

theorem usagesOfDocument_essential (id : String) (wanted : List String) (hd : d.Canonical) :
    usagesOfDocument id wanted (essential d) = usagesOfDocument id wanted d := by
  unfold usagesOfDocument
  rw [title_essential hd, List.flatMap_def, List.flatMap_def, map_widgets_essential hd]
  intro w hw
  unfold metricsOf
  rw [show w.essential.query = essential w.query from rfl, builderQueries_essential hw]
  rfl

theorem checkRemoval_essential (hd : d.Canonical) (he : e.Canonical) :
    checkRemoval (essential d) (essential e) = checkRemoval d e := by
  unfold checkRemoval
  rw [widgetIds_essential hd, widgetIds_essential he]

theorem checkNew_essential (hd : d.Canonical) : checkNew (essential d) = checkNew d := by
  unfold checkNew checkRoot
  rw [ofValue_essential, isPresent_key_essentialPlace (by decide) (Lens.canonical_ofValue hd), essential,
    isObject_prune]

/-- Members that are null, and members under a key that is not recognised, change nothing: neither
the widgets with their identifiers, titles and queries, nor the summary of a document, nor where it
uses metrics, nor what it removes from another one or why that is refused, nor whether it may be
stored. -/
theorem only_recognised_members_count (d e : Value) (hd : d.Canonical) (he : e.Canonical) :
    widgetIds (essential d) = widgetIds d ∧
    (widgets (essential d)).map (·.title) = (widgets d).map (·.title) ∧
    (widgets (essential d)).map (classify ·.query) = (widgets d).map (classify ·.query) ∧
    (widgets (essential d)).map (builderQueries ·.query) = (widgets d).map (builderQueries ·.query) ∧
    (∀ signals, summarize (fun _ => signals) (essential d) = summarize (fun _ => signals) d) ∧
    isPopulated (essential d) = isPopulated d ∧
    (∀ id wanted, usagesOfDocument id wanted (essential d) = usagesOfDocument id wanted d) ∧
    checkRemoval (essential d) (essential e) = checkRemoval d e ∧
    (checkRemoval (essential d) (essential e)).mapError Excess.message =
      (checkRemoval d e).mapError Excess.message ∧
    checkNew (essential d) = checkNew d := by
  have hremoval := checkRemoval_essential hd he
  refine ⟨widgetIds_essential hd, map_widgets_essential hd fun _ _ => rfl,
    map_widgets_essential hd fun _ => classify_essential,
    map_widgets_essential hd fun _ => builderQueries_essential,
    fun _ => summarize_essential hd rfl, isPopulated_essential hd,
    fun id wanted => usagesOfDocument_essential id wanted hd, hremoval, ?_, checkNew_essential hd⟩
  rw [hremoval]

/-- A widget about logs with a flagged filter, a unit that nothing reads and nulls around it. -/
def annotated : Value :=
  .object [("description", .string "errors"), ("title", .string "t"), ("widgets", .array [.null, .object
    [("id", .string "w"), ("query", .object [("builder", .object [("queryData", .array [.object
      [("dataSource", .string "logs"), ("filters", .object [("items", .array [.object
        [("key", .object [("key", .string "code"), ("type", .null)]), ("op", .string "like")]])])]])]),
      ("queryType", .string "builder"), ("unit", .string "s")]),
    ("title", .null)]])]

/-- A document that only has a title, which is null. -/
def untitled : Value := .object [("title", .null)]

theorem annotated_canonical : annotated.Canonical := by
  simp only [annotated, Value.Canonical, CanonicalItems, CanonicalMembers, SortedKeys, and_true, true_and]
  decide

theorem untitled_canonical : untitled.Canonical := ⟨List.pairwise_singleton _ _, trivial, trivial⟩

theorem annotated_essential_counts :
    annotated.Canonical ∧ untitled.Canonical ∧
    (widgets (essential annotated)).map (classify ·.query) = [⟨.builder, [⟨.logs, none, 1⟩]⟩] ∧
    checkRemoval (essential annotated) (essential untitled) = .ok ["w"] ∧
    checkNew (essential untitled) = .error .titleMissing := by
  obtain ⟨-, -, hqueries, -, -, -, -, hremoval, -, -⟩ :=
    only_recognised_members_count annotated untitled annotated_canonical untitled_canonical
  obtain ⟨-, -, -, -, -, -, -, -, -, hnew⟩ :=
    only_recognised_members_count untitled annotated untitled_canonical annotated_canonical
  exact ⟨annotated_canonical, untitled_canonical, hqueries.trans (by decide), hremoval.trans (by decide),
    hnew.trans rfl⟩

end Documents

end Dashboards.Document
