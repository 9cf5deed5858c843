import Dashboards.Analytics.Report
import Dashboards.Proofs.Json.RoundTrip
import Dashboards.Proofs.Session.Outcome
import Dashboards.Proofs.Timestamp
import Mathlib

/-!
# What a report adds up

* `Report.append` : counts added, names one after another; `append_assoc`, `empty_append`,
  `append_empty`;
* `Report.ofSummary`, `Report.ofRecord` : what one document contributes, and one record;
* `Report.ofRecords_append` : the report of two lists is the sum of their reports;
* `Report.Similar` : reports that differ in the order of names at most; `Report.similar_of_perm` : in
  any order of the records;
* `Report.total_ofRecords`, `Report.skipped_ofRecords` : how many records are counted and skipped, all
  of them in sum (`Report.total_add_skipped`); `Report.names_ofRecords` : which names are given;
* `Report.Bounded` : no count of documents is above their total;
* `report_adds_up` : the parts of a report are those of its records, and what is shown of files
  (`report_of_three_records`).
-/

namespace Dashboards.Analytics

open Json Document

namespace Report

/-! ## Sums -/

/-- The counts of both, and the names of the first before those of the second. -/
def append (r s : Report) : Report where
  total := r.total + s.total
  populated := r.populated + s.populated
  names := r.names ++ s.names
  logsPanels := r.logsPanels + s.logsPanels
  tracesPanels := r.tracesPanels + s.tracesPanels
  metricsPanels := r.metricsPanels + s.metricsPanels
  flaggedFilters := r.flaggedFilters + s.flaggedFilters
  rawLogs := r.rawLogs + s.rawLogs
  rawTraces := r.rawTraces + s.rawTraces
  rawTracesNames := r.rawTracesNames ++ s.rawTracesNames
  timeSeriesV2 := r.timeSeriesV2 + s.timeSeriesV2
  tagAttributes := r.tagAttributes + s.tagAttributes
  skipped := r.skipped + s.skipped

instance : Append Report := ⟨append⟩

theorem append_def (r s : Report) : r ++ s = r.append s := rfl

section Fields

variable (r s : Report)

@[simp]
theorem total_append : (r ++ s).total = r.total + s.total := rfl

@[simp]
theorem names_append : (r ++ s).names = r.names ++ s.names := rfl

@[simp]
theorem rawTraces_append : (r ++ s).rawTraces = r.rawTraces + s.rawTraces := rfl

@[simp]
theorem rawTracesNames_append : (r ++ s).rawTracesNames = r.rawTracesNames ++ s.rawTracesNames := rfl

@[simp]
theorem skipped_append : (r ++ s).skipped = r.skipped + s.skipped := rfl

end Fields

theorem append_assoc (r s t : Report) : r ++ s ++ t = r ++ (s ++ t) := by
  simp only [append_def, append, Nat.add_assoc, List.append_assoc]

theorem empty_append (r : Report) : empty ++ r = r := by
  simp [append_def, append, empty]

theorem append_empty (r : Report) : r ++ empty = r := by
  simp [append_def, append, empty]

/-! ## Contributions -/

/-- A document without a title adds no name, except to those with raw queries on traces. -/
def ofSummary (s : Summary) : Report where
  total := 1
  populated := s.populated.toNat
  names := if s.title = "" then [] else [s.title]
  logsPanels := s.logsPanels
  tracesPanels := s.tracesPanels
  metricsPanels := s.metricsPanels
  flaggedFilters := s.flaggedFilters
  rawLogs := s.rawLogs.toNat
  rawTraces := s.rawTraces.toNat
  rawTracesNames := if s.rawTraces then [s.title] else []
  timeSeriesV2 := s.timeSeriesV2.toNat
  tagAttributes := s.tagAttributes.toNat
  skipped := 0

/-- The report of a record that cannot be read. -/
def skippedOne : Report := { empty with skipped := 1 }

def ofRecord (detector : Detector) (record : Record) : Report :=
  match parse record.data with
  | .ok document => ofSummary (summarize detector document)
  | .error _ => skippedOne

theorem addSummary_eq (r : Report) (s : Summary) : r.addSummary s = r ++ ofSummary s := by
  simp only [addSummary, append_def, append, ofSummary, Report.mk.injEq, true_and, Nat.add_zero, and_true]
  constructor
  · split_ifs <;> simp
  · split_ifs <;> simp

variable (detector : Detector)

theorem addRecord_eq (r : Report) (record : Record) : r.addRecord detector record = r ++ ofRecord detector record := by
  unfold addRecord ofRecord
  cases parse record.data with
  | ok document => exact addSummary_eq r _
  | error flaw => simp [append_def, append, skippedOne, empty]

theorem foldl_addRecord (records : List Record) (r : Report) :
    records.foldl (addRecord detector) r = r ++ ofRecords detector records := by
  unfold ofRecords
  induction records generalizing r with
  | nil => exact (append_empty r).symm
  | cons record records ih =>
    rw [List.foldl_cons, List.foldl_cons, ih, ih (addRecord _ _ _), addRecord_eq, addRecord_eq, empty_append,
      append_assoc]

theorem ofRecords_append (records others : List Record) :
    ofRecords detector (records ++ others) = ofRecords detector records ++ ofRecords detector others := by
  rw [ofRecords, List.foldl_append, foldl_addRecord]
  rfl

theorem ofRecords_singleton (record : Record) : ofRecords detector [record] = ofRecord detector record := by
  rw [ofRecords, List.foldl_cons, addRecord_eq, empty_append]
  rfl

theorem ofRecords_cons (record : Record) (records : List Record) :
    ofRecords detector (record :: records) = ofRecord detector record ++ ofRecords detector records := by
  rw [← ofRecords_singleton, ← ofRecords_append]
  rfl

/-! ## The order of records -/

/-- The report without the names. -/
def counts (r : Report) : Report := { r with names := [], rawTracesNames := [] }

theorem counts_append (r s : Report) : (r ++ s).counts = r.counts ++ s.counts := rfl

theorem counts_append_comm (r s : Report) : (r ++ s).counts = (s ++ r).counts := by
  simp only [counts, append_def, append, Nat.add_comm]

/-- The counts are equal, and the names are equal up to their order. -/
structure Similar (r s : Report) : Prop where
  counts : r.counts = s.counts
  names : r.names.Perm s.names
  rawTracesNames : r.rawTracesNames.Perm s.rawTracesNames

theorem Similar.refl (r : Report) : r.Similar r := ⟨rfl, .refl _, .refl _⟩

theorem Similar.trans {r s t : Report} (h : r.Similar s) (h' : s.Similar t) : r.Similar t :=
  ⟨h.counts.trans h'.counts, h.names.trans h'.names, h.rawTracesNames.trans h'.rawTracesNames⟩

theorem Similar.append {r r' s s' : Report} (h : r.Similar r') (h' : s.Similar s') : (r ++ s).Similar (r' ++ s') where
  counts := by rw [counts_append, counts_append, h.counts, h'.counts]
  names := h.names.append h'.names
  rawTracesNames := h.rawTracesNames.append h'.rawTracesNames

theorem similar_swap (r s : Report) : (r ++ s).Similar (s ++ r) where
  counts := counts_append_comm r s
  names := List.perm_append_comm
  rawTracesNames := List.perm_append_comm

theorem similar_of_perm {records others : List Record} (h : records.Perm others) :
    (ofRecords detector records).Similar (ofRecords detector others) := by
  induction h with
  | nil => exact .refl _
  | cons record _ ih =>
    rw [ofRecords_cons, ofRecords_cons]
    exact (Similar.refl _).append ih
  | swap record record' records =>
    simp only [ofRecords_cons, ← append_assoc]
    exact (similar_swap _ _).append (.refl _)
  | trans _ _ ih ih' => exact ih.trans ih'

/-! ## Counts of records and documents -/

/-- The total counts the records whose document can be read. -/
theorem total_ofRecords (records : List Record) :
    (ofRecords detector records).total = records.countP fun r => (parse r.data).isOk := by
  induction records with
  | nil => rfl
  | cons record records ih =>
    rw [ofRecords_cons, total_append, List.countP_cons, ← ih, Nat.add_comm, ofRecord]
    cases parse record.data <;> rfl

/-- A report skips as many records as have a document that cannot be read. -/
theorem skipped_ofRecords (records : List Record) :
    (ofRecords detector records).skipped = records.countP fun r => !(parse r.data).isOk := by
  induction records with
  | nil => rfl
  | cons record records ih =>
    rw [ofRecords_cons, skipped_append, List.countP_cons, ← ih, Nat.add_comm, ofRecord]
    cases parse record.data <;> rfl

/-- The names are the titles of the documents that can be read, without empty ones. -/
theorem names_ofRecords (records : List Record) :
    (ofRecords detector records).names =
      (records.filterMap fun r => (parse r.data).toOption.map title).filter (· ≠ "") := by
  induction records with
  | nil => rfl
  | cons record records ih =>
    rw [ofRecords_cons, names_append, List.filterMap_cons, ih, ofRecord]
    cases parse record.data with
    | error flaw => rfl
    | ok document =>
      show (if title document = "" then [] else [title document]) ++ _ = List.filter _ (title document :: _)
      split_ifs with htitle
      · simp [htitle]
      · simp [htitle]

theorem total_add_skipped (records : List Record) :
    (ofRecords detector records).total + (ofRecords detector records).skipped = records.length := by
  rw [total_ofRecords, skipped_ofRecords, List.length_eq_countP_add_countP fun r => (parse r.data).isOk]
  simp

/-- A document is counted once at most under each heading, and named wherever it has a raw query on
traces. -/
structure Bounded (r : Report) : Prop where
  populated : r.populated ≤ r.total
  rawLogs : r.rawLogs ≤ r.total
  rawTraces : r.rawTraces ≤ r.total
  timeSeriesV2 : r.timeSeriesV2 ≤ r.total
  tagAttributes : r.tagAttributes ≤ r.total
  rawTracesNames : r.rawTracesNames.length = r.rawTraces

theorem bounded_empty : empty.Bounded := ⟨le_rfl, le_rfl, le_rfl, le_rfl, le_rfl, rfl⟩

theorem Bounded.append {r s : Report} (h : r.Bounded) (h' : s.Bounded) : (r ++ s).Bounded where
  populated := Nat.add_le_add h.populated h'.populated
  rawLogs := Nat.add_le_add h.rawLogs h'.rawLogs
  rawTraces := Nat.add_le_add h.rawTraces h'.rawTraces
  timeSeriesV2 := Nat.add_le_add h.timeSeriesV2 h'.timeSeriesV2
  tagAttributes := Nat.add_le_add h.tagAttributes h'.tagAttributes
  rawTracesNames := by
    rw [rawTracesNames_append, List.length_append, h.rawTracesNames, h'.rawTracesNames, rawTraces_append]

theorem bounded_ofSummary (s : Summary) : (ofSummary s).Bounded where
  populated := Bool.toNat_le _
  rawLogs := Bool.toNat_le _
  rawTraces := Bool.toNat_le _
  timeSeriesV2 := Bool.toNat_le _
  tagAttributes := Bool.toNat_le _
  rawTracesNames := by
    unfold ofSummary
    cases s.rawTraces <;> rfl

theorem bounded_ofRecord (record : Record) : (ofRecord detector record).Bounded := by
  unfold ofRecord
  cases parse record.data with
  | ok document => exact bounded_ofSummary _
  | error flaw => exact ⟨le_rfl, le_rfl, le_rfl, le_rfl, le_rfl, rfl⟩

theorem bounded_ofRecords (records : List Record) : (ofRecords detector records).Bounded := by
  induction records with
  | nil => exact bounded_empty
  | cons record records ih =>
    rw [ofRecords_cons]
    exact (bounded_ofRecord detector record).append ih

end Report

/-! ## The whole report -/

/-- The report of records in two parts is the sum of the reports of the parts, and one record adds what
its document does, or one to those skipped. That is also what the summary adds that is shown of a file
with the text of the record. In another order of the records only the names are in another order. Every
record is counted as a document or skipped; no count of documents is above their total; each raw query on
traces is named; and a record that cannot be read changes nothing about the others. -/
theorem report_adds_up (detector : Detector) (records others : List Record) :
    Report.ofRecords detector (records ++ others) =
      Report.ofRecords detector records ++ Report.ofRecords detector others ∧
    (∀ record, Report.ofRecords detector [record] =
      match parse record.data with
      | .ok document => .ofSummary (summarize detector document)
      | .error _ => .skippedOne) ∧
    (∀ (record : Record) path w w', Session.outcome (Session.readText path) w = (.ok record.data, w') →
      ∃ summary error,
        Report.ofRecords detect [record] = summary.elim .skippedOne .ofSummary ∧
        ∀ target, ∃ rest : Session.Task Unit, Session.outcome (Session.analyze [path] target) w =
          Session.outcome (Session.display target (.summaries [⟨path, summary, error⟩]) >>= fun _ => rest) w') ∧
    (∀ permuted, permuted.Perm records →
      (Report.ofRecords detector permuted).Similar (Report.ofRecords detector records)) ∧
    (Report.ofRecords detector records).total + (Report.ofRecords detector records).skipped = records.length ∧
    (Report.ofRecords detector records).Bounded ∧
    ∀ record flaw, parse record.data = .error flaw →
      Report.ofRecords detector (records ++ record :: others) =
        { Report.ofRecords detector (records ++ others) with
          skipped := (Report.ofRecords detector (records ++ others)).skipped + 1 } := by
  refine ⟨Report.ofRecords_append detector records others, Report.ofRecords_singleton detector, ?_,
    fun _ => Report.similar_of_perm detector, Report.total_add_skipped detector records,
    Report.bounded_ofRecords detector records, ?_⟩
  · intro record path w w' htext
    obtain ⟨error, hshown⟩ := Session.analyze_outcome htext
    refine ⟨_, error, ?_, hshown⟩
    rw [Report.ofRecords_singleton, Report.ofRecord]
    cases parse record.data <;> rfl
  · intro record flaw hflaw
    have hrecord : Report.ofRecord detector record = .skippedOne := by
      rw [Report.ofRecord, hflaw]
    rw [Report.ofRecords_append, Report.ofRecords_cons, Report.ofRecords_append, hrecord]
    simp only [Report.append_def, Report.append, Report.skippedOne, Report.empty, Nat.zero_add, List.nil_append,
      Report.mk.injEq, true_and]
    omega

/-- Without a title, and with a raw query. -/
def untitled : Value :=
  .object [("widgets", .array [.object [("id", .string "w"), ("query", .object
    [("clickhouse_sql", .string "q"), ("queryType", .string "clickhouse_sql")])]])]

def untitledRecord : Record := .fresh "u" untitled.compact none .newYear

theorem untitled_parses : parse untitledRecord.data = .ok untitled := by
  refine document_parse_of_canonical (v := untitled) ?_ (by decide) rfl
  simp only [untitled, Value.Canonical, Value.CanonicalItems, Value.CanonicalMembers, SortedKeys, and_true, true_and]
  decide

def unreadableRecord : Record := .fresh "x" "" none .newYear

theorem unreadable_fails : ∃ flaw, parse unreadableRecord.data = .error flaw := ⟨_, rfl⟩

/-- All raw queries are taken to be about traces. -/
def aboutTraces : Detector := fun _ => ⟨false, true, false, false⟩

/-- A world with a text on the input. -/
def worldWith (input : String) : Session.World := ⟨⟨[], []⟩, input.toUTF8, "", "", .newYear, fun _ => "", 0⟩

theorem readText_worldWith (input : String) :
    Session.outcome (Session.readText "-") (worldWith input) = (.ok input, worldWith "") := by
  have hdash : Session.isStandardInput "-" = true := by decide
  have hask : Session.outcome (Session.ask .input) (worldWith input) = (.ok (.ok input.toUTF8), worldWith "") := rfl
  have htext : (Except.ok input.toUTF8 : Except Files.Fault ByteArray).bind Files.textOf = .ok input :=
    Files.textOf_toUTF8 input
  rw [Session.readText, if_pos hdash, Session.outcome_bind_ok hask, htext]
  rfl

/-- A document without a title, a record that cannot be read, and the document again, in this order and in
another; and the first of them as it is shown where its text is on the input. -/
theorem report_of_three_records :
    Report.ofRecords aboutTraces [untitledRecord, unreadableRecord, untitledRecord] =
      ⟨2, 0, [], 0, 0, 0, 0, 0, 2, ["", ""], 0, 0, 1⟩ ∧
    (Report.ofRecords aboutTraces [untitledRecord, unreadableRecord]).Similar
      (Report.ofRecords aboutTraces [unreadableRecord, untitledRecord]) ∧
    ∃ summary error, Report.ofRecords detect [untitledRecord] = summary.elim .skippedOne .ofSummary ∧
      ∀ target, ∃ rest : Session.Task Unit,
        Session.outcome (Session.analyze ["-"] target) (worldWith untitledRecord.data) =
          Session.outcome (Session.display target (.summaries [⟨"-", summary, error⟩]) >>= fun _ => rest)
            (worldWith "") := by
  obtain ⟨flaw, hflaw⟩ := unreadable_fails
  obtain ⟨hsum, hsingle, hshown, -, -, -, hskip⟩ := report_adds_up aboutTraces [untitledRecord] [untitledRecord]
  obtain ⟨-, -, -, hperm, -⟩ := report_adds_up aboutTraces [unreadableRecord, untitledRecord] []
  refine ⟨?_, hperm _ (List.Perm.swap _ _ _), hshown untitledRecord "-" _ _ (readText_worldWith _)⟩
  change Report.ofRecords aboutTraces ([untitledRecord] ++ unreadableRecord :: [untitledRecord]) = _
  rw [hskip _ _ hflaw, hsum, hsingle, untitled_parses]
  rfl

end Dashboards.Analytics
