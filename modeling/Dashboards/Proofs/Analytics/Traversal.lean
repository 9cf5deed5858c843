import Dashboards.Analytics.MetricUsage
import Dashboards.Analytics.Summary
import Dashboards.Document.Removal
import Dashboards.Proofs.Document.Removal
import Dashboards.Proofs.Json.Access
import Mathlib

/-!
# The array of widgets, item by item

What is read off a document is collected along its widgets, and no item of their array has a part in
what another one gives.

* `Value.setField` : a value with another value under a key (`field?_setField_self`,
  `field?_setField_of_ne`);
* `Malformed`, `ofValue?_eq_none_iff` : the items that are no widgets;
* `widgetsIn` : the widgets among some items (`widgetsIn_append`, `widgetsIn_perm`); `withWidgets` : a
  document with another array of widgets;
* `checkRemoval_right`, `checkRemoval_left` : the order of widgets does not matter to removals;
* `Tally.ofWidgets` : tallies are a commutative monoid, and that of a document is a sum over its widgets;
  `Tally.counts_ofItem` : a query of another dialect counts nothing;
* `SameTally`, `SameReading`, `Joins` : how summaries, identifiers and usages of documents compare;
* `traversal_is_additive` : the parts of an array add up, items that are no widgets add nothing, and
  the order does not matter to counts, flags and removals (`traversal_of_mixed`).
-/

namespace Dashboards.Json

/-! ## Another value under a key -/

/-- The value of each member of that key is replaced. -/
def Value.setField (v : Value) (key : String) (value : Value) : Value :=
  match v with
  | .object members => .object (members.map fun m => if m.1 = key then (key, value) else m)
  | v => v

section SetField

variable {key : String} {value : Value}

theorem lookup_map_self (members : List (String × Value)) :
    lookup key (members.map fun m => if m.1 = key then (key, value) else m) =
      (lookup key members).map fun _ => value := by
  induction members with
  | nil => rfl
  | cons m members ih =>
    obtain ⟨k, v⟩ := m
    by_cases hk : k = key
    · subst hk
      simp [lookup]
    · simpa [lookup, hk] using ih

theorem lookup_map_of_ne {k : String} (hk : k ≠ key) (members : List (String × Value)) :
    lookup k (members.map fun m => if m.1 = key then (key, value) else m) = lookup k members := by
  induction members with
  | nil => rfl
  | cons m members ih =>
    obtain ⟨k', v⟩ := m
    by_cases hkey : k' = key
    · subst hkey
      simpa [lookup, hk.symm] using ih
    · simp [lookup, hkey, ih]

theorem field?_setField_self {v w : Value} (h : v.field? key = some w) :
    (v.setField key value).field? key = value.present? := by
  cases v with
  | object members =>
    obtain ⟨found, hfound, -⟩ := Option.bind_eq_some_iff.mp h
    change (lookup key (members.map _)).bind Value.present? = _
    rw [lookup_map_self, hfound]
    rfl
  | _ => cases h

theorem field?_setField_of_ne {k : String} (hk : k ≠ key) (v : Value) :
    (v.setField key value).field? k = v.field? k := by
  cases v with
  | object members =>
    change (lookup k (members.map _)).bind Value.present? = (lookup k members).bind Value.present?
    rw [lookup_map_of_ne hk]
  | _ => rfl

end SetField

end Dashboards.Json

namespace Dashboards.Document

open Json

/-! ## Items of the array -/

/-- An item that is no widget: it is no object, or its identifier is no string, or it has no query. -/
inductive Malformed : Value → Prop where
  | notObject {v : Value} : v.isObject = false → Malformed v
  | noId {members : List (String × Value)} :
    (∀ id, lookup "id" members ≠ some (.string id)) → Malformed (.object members)
  | noQuery {members : List (String × Value)} : lookup "query" members = none → Malformed (.object members)
  | nullQuery {members : List (String × Value)} : lookup "query" members = some .null → Malformed (.object members)

theorem field?_object (key : String) (members : List (String × Value)) :
    (Value.object members).field? key = (lookup key members).bind Value.present? := rfl

theorem stringField?_eq_some_iff {key s : String} {members : List (String × Value)} :
    (Value.object members).stringField? key = some s ↔ lookup key members = some (.string s) := by
  change ((lookup key members).bind Value.present?).bind Value.asString? = some s ↔ _
  cases lookup key members with
  | none => simp
  | some v => cases v <;> simp [Value.present?, Value.isNull, Value.asString?]

theorem present?_eq_none_iff {v : Value} : v.present? = none ↔ v = .null := by
  cases v <;> simp [Value.present?, Value.isNull]

theorem ofValue?_eq_none_iff (v : Value) : Widget.ofValue? v = none ↔ Malformed v := by
  cases v with
  | object members =>
    constructor
    · intro h
      unfold Widget.ofValue? at h
      cases hid : (Value.object members).stringField? "id" with
      | none =>
        refine .noId fun id hlookup => ?_
        rw [stringField?_eq_some_iff.mpr hlookup] at hid
        cases hid
      | some id =>
        cases hquery : (Value.object members).field? "query" with
        | some query =>
          rw [hid, hquery] at h
          cases h
        | none =>
          rw [field?_object] at hquery
          cases hlookup : lookup "query" members with
          | none => exact .noQuery hlookup
          | some query =>
            rw [hlookup] at hquery
            exact .nullQuery (present?_eq_none_iff.mp hquery ▸ hlookup)
    · have hquery (h : (Value.object members).field? "query" = none) : Widget.ofValue? (.object members) = none := by
        unfold Widget.ofValue?
        rw [h]
        cases (Value.object members).stringField? "id" <;> rfl
      rintro (h | h | h | h)
      · cases h
      · have hid : (Value.object members).stringField? "id" = none :=
          Option.eq_none_iff_forall_ne_some.mpr fun id hid => h id (stringField?_eq_some_iff.mp hid)
        unfold Widget.ofValue?
        rw [hid]
        rfl
      · exact hquery (by rw [field?_object, h]; rfl)
      · exact hquery (by rw [field?_object, h]; rfl)
  | _ => exact iff_of_true rfl (.notObject rfl)

/-- The widgets among the items of an array. -/
def widgetsIn (items : List Value) : List Widget := items.filterMap Widget.ofValue?

theorem widgets_eq_widgetsIn {d : Value} {items : List Value} (h : d.field? "widgets" = some (.array items)) :
    widgets d = widgetsIn items := by
  unfold widgets widgetsIn Lens.items Lens.array?
  rw [Lens.focus_key_ofValue, h]
  change (items.map Lens.ofValue).filterMap _ = _
  rw [List.filterMap_map]
  exact List.filterMap_congr fun v _ => by cases v <;> rfl

theorem widgetsIn_append (front back : List Value) :
    widgetsIn (front ++ back) = widgetsIn front ++ widgetsIn back := List.filterMap_append ..

theorem widgetsIn_of_malformed {items : List Value} (h : ∀ v ∈ items, Malformed v) : widgetsIn items = [] :=
  List.filterMap_eq_nil_iff.mpr fun v hv => (ofValue?_eq_none_iff v).mpr (h v hv)

theorem widgetsIn_append_cons_of_malformed {v : Value} (h : Malformed v) (front back : List Value) :
    widgetsIn (front ++ v :: back) = widgetsIn (front ++ back) := by
  rw [← List.singleton_append, widgetsIn_append, widgetsIn_append, widgetsIn_append,
    widgetsIn_of_malformed (List.forall_mem_singleton.mpr h), List.nil_append]

/-- Items that are no widgets can stand anywhere among the others. -/
theorem widgetsIn_perm {items own malformed : List Value} (hperm : items.Perm (own ++ malformed))
    (h : ∀ v ∈ malformed, Malformed v) : (widgetsIn items).Perm (widgetsIn own) := by
  have hwidgets : (widgetsIn items).Perm (widgetsIn (own ++ malformed)) := hperm.filterMap _
  rwa [widgetsIn_append, widgetsIn_of_malformed h, List.append_nil] at hwidgets

/-! ## Documents with other widgets -/

/-- The document with another array of widgets in the place of its own. -/
def withWidgets (d : Value) (items : List Value) : Value := d.setField "widgets" (.array items)

theorem field?_withWidgets {d : Value} {own : List Value} (h : d.field? "widgets" = some (.array own))
    (items : List Value) : (withWidgets d items).field? "widgets" = some (.array items) := field?_setField_self h

theorem title_withWidgets (d : Value) (items : List Value) : title (withWidgets d items) = title d := by
  unfold title
  rw [Lens.string?_key_ofValue, Lens.string?_key_ofValue, Value.stringField?, Value.stringField?, withWidgets,
    field?_setField_of_ne (by decide)]

/-! ## Removals -/

section Removals

variable {d d' : Value} (h : ∀ x, x ∈ widgetIds d' ↔ x ∈ widgetIds d) (e : Value)
include h

theorem checkRemoval_right : checkRemoval e d' = checkRemoval e d := by
  unfold checkRemoval
  rw [removedIds_congr h]

theorem lost_left : lost d' e = lost d e := by
  ext x
  simp only [lost, Finset.mem_sdiff, List.mem_toFinset, h]

theorem removedIds_perm : (removedIds (widgetIds d') (widgetIds e)).Perm (removedIds (widgetIds d) (widgetIds e)) := by
  refine (List.perm_ext_iff_of_nodup (removedIds_nodup _ _) (removedIds_nodup _ _)).mpr fun x => ?_
  rw [mem_removedIds, mem_removedIds, h]

/-- What may be removed is a single identifier, so the order of the old ones does not matter. -/
theorem checkRemoval_left (removed : List String) : checkRemoval d' e = .ok removed ↔ checkRemoval d e = .ok removed := by
  rw [checkRemoval_eq_ite, checkRemoval_eq_ite, lost_left h]
  split_ifs with hmany
  · exact iff_of_false (fun herror => by cases herror) (fun herror => by cases herror)
  · have hperm := removedIds_perm h e
    have hlength := length_removedIds d e
    have hsame : removedIds (widgetIds d') (widgetIds e) = removedIds (widgetIds d) (widgetIds e) := by
      match hids : removedIds (widgetIds d) (widgetIds e) with
      | [] => exact (hids ▸ hperm).eq_nil
      | [x] => exact (hids ▸ hperm).eq_singleton
      | _ :: _ :: _ =>
        rw [hids, List.length_cons, List.length_cons] at hlength
        omega
    rw [hsame]

end Removals

end Dashboards.Document

namespace Dashboards.Analytics

open Json Document

/-! ## Tallies -/

namespace Tally

instance : Zero Tally := ⟨zero⟩

instance : Add Tally := ⟨add⟩

theorem add_def (a b : Tally) :
    a + b = ⟨a.logs + b.logs, a.traces + b.traces, a.metrics + b.metrics, a.flagged + b.flagged, a.raw || b.raw⟩ := rfl

theorem zero_def : (0 : Tally) = ⟨0, 0, 0, 0, false⟩ := rfl

instance : AddCommMonoid Tally where
  add_assoc a b c := by simp only [add_def, Nat.add_assoc, Bool.or_assoc]
  zero_add a := by simp only [add_def, zero_def, Nat.zero_add, Bool.false_or]
  add_zero a := by simp only [add_def, zero_def, Nat.add_zero, Bool.or_false]
  add_comm a b := by simp only [add_def, Nat.add_comm, Bool.or_comm]
  nsmul := nsmulRec

/-- What some widgets add up to. -/
def ofWidgets (ws : List Widget) : Tally := (ws.map ofWidget).sum

theorem ofWidgets_append (front back : List Widget) :
    ofWidgets (front ++ back) = ofWidgets front + ofWidgets back := by
  rw [ofWidgets, List.map_append, List.sum_append]
  rfl

theorem ofWidgets_perm {ws ws' : List Widget} (h : ws'.Perm ws) : ofWidgets ws' = ofWidgets ws := (h.map _).sum_eq

theorem ofDocument_eq (d : Value) : ofDocument d = ofWidgets (widgets d) := by
  rw [ofWidgets, List.sum_eq_foldl, List.foldl_map]
  rfl

/-- The four counts. -/
def counts (t : Tally) : ℕ × ℕ × ℕ × ℕ := (t.logs, t.traces, t.metrics, t.flagged)

theorem counts_add (a b : Tally) : (a + b).counts = a.counts + b.counts := rfl

theorem dialect_eq_builder_iff (name : Option String) : Dialect.ofName? name = .builder ↔ name = some "builder" := by
  unfold Dialect.ofName?
  split <;> simp_all

/-- A query that does not name the builder's dialect counts nothing. -/
theorem counts_ofQuery {query : Value} (h : query.stringField? "queryType" ≠ some "builder") :
    (ofQuery query).counts = 0 := by
  have hdialect : (classify query).dialect ≠ .builder := by
    unfold classify
    rw [Lens.string?_key_ofValue, Ne, dialect_eq_builder_iff]
    exact h
  unfold ofQuery
  dsimp only
  split
  · exact absurd ‹_› hdialect
  · rfl
  · rfl

/-- An item that is no widget, or a widget whose query does not name the builder's dialect. -/
theorem counts_ofItem {v query : Value} (hquery : v.field? "query" = some query)
    (h : query.stringField? "queryType" ≠ some "builder") : (ofWidgets (widgetsIn [v])).counts = 0 := by
  cases hw : Widget.ofValue? v with
  | none =>
    rw [widgetsIn_of_malformed (List.forall_mem_singleton.mpr ((ofValue?_eq_none_iff v).mp hw))]
    rfl
  | some w =>
    have hwidgets : widgetsIn [v] = [w] := List.filterMap_cons_some hw
    obtain ⟨id, -, hw⟩ := Option.bind_eq_some_iff.mp hw
    obtain ⟨query', hquery', hw⟩ := Option.bind_eq_some_iff.mp hw
    rw [hquery] at hquery'
    cases hquery'
    cases hw
    rw [hwidgets, ofWidgets, List.map_singleton, List.sum_singleton]
    exact counts_ofQuery h

end Tally

/-! ## Summaries -/

/-- The four counts. -/
def Summary.counts (s : Summary) : ℕ × ℕ × ℕ × ℕ :=
  (s.logsPanels, s.tracesPanels, s.metricsPanels, s.flaggedFilters)

theorem counts_summarize (detector : Detector) (d : Value) :
    (summarize detector d).counts = (Tally.ofDocument d).counts := rfl

theorem rawLogs_summarize (detector : Detector) (d : Value) :
    (summarize detector d).rawLogs = ((Tally.ofDocument d).raw && (detector d).logs) := rfl

theorem rawTraces_summarize (detector : Detector) (d : Value) :
    (summarize detector d).rawTraces = ((Tally.ofDocument d).raw && (detector d).traces) := rfl

/-- Two documents have the same counts and raw flags under the same signals. -/
structure SameTally (d e : Value) : Prop where
  counts : ∀ signals, (summarize (fun _ => signals) d).counts = (summarize (fun _ => signals) e).counts
  rawLogs : ∀ signals, (summarize (fun _ => signals) d).rawLogs = (summarize (fun _ => signals) e).rawLogs
  rawTraces : ∀ signals, (summarize (fun _ => signals) d).rawTraces = (summarize (fun _ => signals) e).rawTraces

theorem SameTally.of_tally {d e : Value} (h : Tally.ofDocument d = Tally.ofDocument e) : SameTally d e where
  counts signals := by rw [counts_summarize, counts_summarize, h]
  rawLogs signals := by rw [rawLogs_summarize, rawLogs_summarize, h]
  rawTraces signals := by rw [rawTraces_summarize, rawTraces_summarize, h]

/-- They have the same identifiers and usages as well, in the same order. -/
structure SameReading (d e : Value) : Prop extends SameTally d e where
  widgetIds : widgetIds d = widgetIds e
  usages : ∀ id wanted, usagesOfDocument id wanted d = usagesOfDocument id wanted e

theorem SameReading.of_widgets {d e : Value} (h : widgets d = widgets e) (htitle : title d = title e) :
    SameReading d e where
  toSameTally := .of_tally (by rw [Tally.ofDocument_eq, Tally.ofDocument_eq, h])
  widgetIds := by rw [Document.widgetIds, Document.widgetIds, h]
  usages id wanted := by rw [usagesOfDocument, usagesOfDocument, h, htitle]

/-- What is read off the first document is what is read off the two others together: lists follow one
another, counts add up, and a raw flag is set if it is set for one of them. -/
structure Joins (d a b : Value) : Prop where
  widgetIds : widgetIds d = widgetIds a ++ widgetIds b
  usages : ∀ id wanted, usagesOfDocument id wanted d = usagesOfDocument id wanted a ++ usagesOfDocument id wanted b
  counts : ∀ signals, (summarize (fun _ => signals) d).counts =
    (summarize (fun _ => signals) a).counts + (summarize (fun _ => signals) b).counts
  rawLogs : ∀ signals, (summarize (fun _ => signals) d).rawLogs =
    ((summarize (fun _ => signals) a).rawLogs || (summarize (fun _ => signals) b).rawLogs)
  rawTraces : ∀ signals, (summarize (fun _ => signals) d).rawTraces =
    ((summarize (fun _ => signals) a).rawTraces || (summarize (fun _ => signals) b).rawTraces)

theorem Joins.of_widgets {d a b : Value} (h : widgets d = widgets a ++ widgets b) (ha : title a = title d)
    (hb : title b = title d) : Joins d a b := by
  have htally : Tally.ofDocument d = Tally.ofDocument a + Tally.ofDocument b := by
    rw [Tally.ofDocument_eq, Tally.ofDocument_eq, Tally.ofDocument_eq, h, Tally.ofWidgets_append]
  have hraw : (Tally.ofDocument d).raw = ((Tally.ofDocument a).raw || (Tally.ofDocument b).raw) :=
    congrArg Tally.raw htally
  constructor
  · rw [Document.widgetIds, h, List.map_append]
    rfl
  · intro id wanted
    rw [usagesOfDocument, usagesOfDocument, usagesOfDocument, h, List.flatMap_append, ha, hb]
  · intro signals
    rw [counts_summarize, counts_summarize, counts_summarize, htally, Tally.counts_add]
  · intro signals
    rw [rawLogs_summarize, rawLogs_summarize, rawLogs_summarize, hraw, Bool.and_or_distrib_right]
  · intro signals
    rw [rawTraces_summarize, rawTraces_summarize, rawTraces_summarize, hraw, Bool.and_or_distrib_right]

/-- Where the array of widgets is cut in two, the parts join to the whole. An item that is no widget
can be left out wherever it stands, and one whose query does not name the builder's dialect changes no
count. So the widgets may come in any order, with any items between them that are no widgets: counts and
raw flags stay, and so do all verdicts on removals from the document and by it. -/
theorem traversal_is_additive {d : Value} {own : List Value} (h : d.field? "widgets" = some (.array own)) :
    (∀ front back, own = front ++ back → Joins d (withWidgets d front) (withWidgets d back)) ∧
    (∀ front v back, own = front ++ v :: back → Malformed v → SameReading d (withWidgets d (front ++ back))) ∧
    (∀ front v back query, own = front ++ v :: back → v.field? "query" = some query →
      query.stringField? "queryType" ≠ some "builder" → ∀ signals,
        (summarize (fun _ => signals) d).counts =
          (summarize (fun _ => signals) (withWidgets d (front ++ back))).counts) ∧
    ∀ items malformed, items.Perm (own ++ malformed) → (∀ v ∈ malformed, Malformed v) →
      SameTally (withWidgets d items) d ∧
      ∀ e, checkRemoval e (withWidgets d items) = checkRemoval e d ∧
        ∀ removed, checkRemoval (withWidgets d items) e = .ok removed ↔ checkRemoval d e = .ok removed := by
  have hown : widgets d = widgetsIn own := widgets_eq_widgetsIn h
  have hwith (items : List Value) : widgets (withWidgets d items) = widgetsIn items :=
    widgets_eq_widgetsIn (field?_withWidgets h items)
  have htitle (items : List Value) : title (withWidgets d items) = title d := title_withWidgets d items
  refine ⟨?_, ?_, ?_, ?_⟩
  · rintro front back rfl
    exact .of_widgets (by rw [hown, hwith, hwith, widgetsIn_append]) (htitle _) (htitle _)
  · rintro front v back rfl hv
    exact .of_widgets (by rw [hown, hwith, widgetsIn_append_cons_of_malformed hv]) (htitle _).symm
  · rintro front v back query rfl hquery hbuilder signals
    have hzero := Tally.counts_ofItem hquery hbuilder
    rw [counts_summarize, counts_summarize, Tally.ofDocument_eq, Tally.ofDocument_eq, hown, hwith,
      ← List.singleton_append, widgetsIn_append, widgetsIn_append, widgetsIn_append, Tally.ofWidgets_append,
      Tally.ofWidgets_append, Tally.ofWidgets_append, Tally.counts_add, Tally.counts_add, hzero, zero_add,
      Tally.counts_add]
  · intro items malformed hperm hmalformed
    have hwidgets : (widgets (withWidgets d items)).Perm (widgets d) := by
      rw [hown, hwith]
      exact widgetsIn_perm hperm hmalformed
    have hids : ∀ x, x ∈ widgetIds (withWidgets d items) ↔ x ∈ widgetIds d := fun x => (hwidgets.map _).mem_iff
    refine ⟨.of_tally ?_, fun e => ⟨checkRemoval_right hids e, checkRemoval_left hids e⟩⟩
    rw [Tally.ofDocument_eq, Tally.ofDocument_eq, Tally.ofWidgets_perm hwidgets]

/-- A widget about logs. -/
def charted : Value :=
  .object [("id", .string "a"), ("query", .object [("builder", .object [("queryData", .array [.object
    [("dataSource", .string "logs")]])]), ("queryType", .string "builder")])]

/-- A widget with a raw query. -/
def queried : Value :=
  .object [("id", .string "b"), ("query", .object
    [("clickhouse_sql", .array []), ("queryType", .string "clickhouse_sql")])]

/-- Two widgets and a text between them. -/
def mixed : Value := .object [("widgets", .array [charted, .string "x", queried])]

theorem traversal_of_mixed :
    widgetIds mixed = ["a"] ++ ["b"] ∧
    SameReading mixed (withWidgets mixed [charted, queried]) ∧
    (∀ signals, (summarize (fun _ => signals) mixed).counts = (1, 0, 0, 0)) ∧
    checkRemoval (withWidgets mixed [queried, .null, charted, .string "x"]) (withWidgets mixed [queried]) =
      .ok ["a"] := by
  have hwidgets : mixed.field? "widgets" = some (.array [charted, .string "x", queried]) := rfl
  obtain ⟨hjoins, hmalformed, hquery, hmixed⟩ := traversal_is_additive hwidgets
  have hnull : ∀ v ∈ [Value.null], Malformed v := List.forall_mem_singleton.mpr (.notObject rfl)
  have hperm : [queried, .null, charted, .string "x"].Perm ([charted, .string "x", queried] ++ [.null]) :=
    show ([queried, .null] ++ [charted, .string "x"]).Perm ([charted, .string "x"] ++ [queried, .null]) from
      List.perm_append_comm
  refine ⟨?_, ?_, fun signals => ?_, ?_⟩
  · exact (hjoins [charted] [.string "x", queried] rfl).widgetIds.trans (by decide)
  · exact hmalformed [charted] (.string "x") [queried] rfl (.notObject rfl)
  · exact hquery [charted, .string "x"] queried [] _ rfl rfl (by decide) signals
  · exact (((hmixed _ _ hperm hnull).2 _).2 ["a"]).mpr (by decide)

end Dashboards.Analytics
