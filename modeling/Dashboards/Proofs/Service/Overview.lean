import Dashboards.Output.Result
import Dashboards.Proofs.Analytics.Report
import Dashboards.Proofs.Service.ReadBack
import Dashboards.Proofs.Store.Listing
import Mathlib

/-!
# What lists and reports show of a store

* `Directory.Filed` : every file that may be one of a record holds a record of its name;
* `Backend.stored`, `Backend.Orderly` : the records of a store, in which no two have one uuid;
  `Orderly.fetchAll`, `Orderly.view` : all are listed in order, and each is found;
* `title_eq_some_iff`, `title_eq_none_iff` : a list shows a title of the records that are got;
* `titles`, `report_of_titles` : a report counts and names what a list shows;
* `overviews_agree` : so lists, reports and single dashboards tell the same
  (`overview_of_three_records`).
-/

namespace Dashboards.Store

open Files (Folder)

namespace Directory

/-- Every file that may be one of a record holds one, and is named after it. -/
structure Filed (folder : Folder) : Prop where
  opened : folder.opened?.isSome
  record : ∀ name ∈ namesIn folder, ∃ r, recordOf? (folder.content? name) = some r ∧ isKey r.uuid ∧
    name = recordName r.uuid

variable {folder : Folder}

theorem Filed.legible (h : Filed folder) : Legible folder := by
  intro name hname
  obtain ⟨r, hr, -⟩ := h.record name hname
  obtain ⟨bytes, hbytes, hr⟩ := Option.bind_eq_some_iff.mp hr
  cases htext : Files.textOf bytes with
  | ok text => exact ⟨bytes, text, hbytes, htext⟩
  | error fault =>
    rw [htext] at hr
    cases hr

theorem Filed.view (h : Filed folder) {r : Record} (hr : r ∈ recordsIn folder) : Directory.view folder r.uuid = some r := by
  obtain ⟨name, hname, hread⟩ := List.mem_filterMap.mp hr
  obtain ⟨s, hs, hkey, rfl⟩ := h.record name hname
  obtain rfl : s = r := by
    rw [hs] at hread
    exact Option.some.inj hread
  rw [view_of_isKey hkey, hs]

end Directory

namespace Backend

/-- The records of a store. -/
def stored : Backend → List Record
  | .memory m => m.records
  | .directory _ folder => Directory.recordsIn folder

/-- A store in memory without two records of one uuid, or a folder of records, each in the file that is
named after it. -/
def Orderly : Backend → Prop
  | .memory m => m.Reached ∧ m.records.Pairwise (·.uuid ≠ ·.uuid)
  | .directory _ folder => Directory.Filed folder

variable {b : Backend}

theorem Orderly.fetchAll (h : b.Orderly) :
    ∃ records, (b.answer .fetchAll).1 = .ok records ∧ records.Perm b.stored ∧ records.Pairwise (·.id ≤ ·.id) := by
  cases b with
  | memory m =>
    have hsorted := List.pairwise_map.mp h.1.ascending.sorted
    exact ⟨m.records, rfl, .refl _, hsorted.imp fun hlt => hlt.le⟩
  | directory root folder =>
    have hall := Directory.readAll_legible (Directory.Filed.opened h) (Directory.Filed.legible h) root
    exact ⟨_, congrArg Prod.fst hall, Directory.sortById_perm _, Directory.sortById_sorted _⟩

theorem Orderly.view (h : b.Orderly) {r : Record} (hr : r ∈ b.stored) : b.view r.uuid = some r := by
  cases b with
  | memory m => exact Memory.find?_of_mem h.2 hr
  | directory root folder => exact Directory.Filed.view h hr

end Backend

end Dashboards.Store

namespace Dashboards.Service

open Files (Folder)
open Output (Listing)
open Store

variable {b : Backend} {record : Record}

/-! ## Lists and single dashboards -/

theorem title_eq_some_iff (h : b.view record.uuid = some record) (title : String) :
    (Listing.ofRecord record).title = some title ↔
      ∃ dashboard, ((Call.get record.uuid).run b).1 = .ok dashboard ∧ dashboard.title = title := by
  unfold Listing.ofRecord
  cases hparse : Document.parse record.data with
  | error flaw =>
    rw [get_unreadable h hparse]
    simp [Except.toOption]
  | ok document =>
    rw [get_of_view h hparse]
    simp [Except.toOption, Dashboard.ofRecord]

theorem title_eq_none_iff (h : b.view record.uuid = some record) :
    (Listing.ofRecord record).title = none ↔
      ∃ explanation, ((Call.get record.uuid).run b).1 = .error (.invalidDocument explanation) := by
  unfold Listing.ofRecord
  cases hparse : Document.parse record.data with
  | error flaw =>
    rw [get_unreadable h hparse]
    simp [Except.toOption]
  | ok document =>
    rw [get_of_view h hparse]
    simp [Except.toOption]

/-! ## Lists and reports -/

/-- The titles that a list of records shows. -/
def titles (records : List Record) : List (Option String) := records.map fun r => (Listing.ofRecord r).title

theorem isSome_title (record : Record) : (Listing.ofRecord record).title.isSome = (Document.parse record.data).isOk := by
  unfold Listing.ofRecord
  cases Document.parse record.data <;> rfl

/-- A report counts the titles that are shown and those that are missing, and names those that are not
empty. -/
theorem report_of_titles (detector : Document.Detector) (records : List Record) :
    (Analytics.Report.ofRecords detector records).total = (titles records).countP (·.isSome) ∧
    (Analytics.Report.ofRecords detector records).skipped = (titles records).countP (·.isNone) ∧
    (Analytics.Report.ofRecords detector records).names = (titles records).reduceOption.filter (· ≠ "") := by
  unfold titles
  refine ⟨?_, ?_, ?_⟩
  · rw [Analytics.Report.total_ofRecords, List.countP_map]
    exact List.countP_congr fun r _ => by simp [isSome_title]
  · rw [Analytics.Report.skipped_ofRecords, List.countP_map]
    exact List.countP_congr fun r _ => by simp [← isSome_title]
  · rw [Analytics.Report.names_ofRecords, List.reduceOption, List.filterMap_map]
    rfl

/-! ## All of them -/

/-- A list shows every stored record once, in the order of identifiers. It shows a title exactly where the
dashboard can be got, and then that of the dashboard; where none is shown, getting the dashboard fails
because of its document. A report counts the records with a title and those without, and names the
titles that are not empty in the order of the list. -/
theorem overviews_agree (hb : b.Orderly) :
    ∃ records, (Call.list.run b).1 = .ok records ∧ records.Perm b.stored ∧ records.Pairwise (·.id ≤ ·.id) ∧
      (∀ record ∈ records,
        (∀ title, (Listing.ofRecord record).title = some title ↔
          ∃ dashboard, ((Call.get record.uuid).run b).1 = .ok dashboard ∧ dashboard.title = title) ∧
        ((Listing.ofRecord record).title = none ↔
          ∃ explanation, ((Call.get record.uuid).run b).1 = .error (.invalidDocument explanation))) ∧
      ∀ detector, ∃ report, ((Call.report detector).run b).1 = .ok report ∧
        report.total = (titles records).countP (·.isSome) ∧ report.skipped = (titles records).countP (·.isNone) ∧
        report.names = (titles records).reduceOption.filter (· ≠ "") := by
  obtain ⟨records, hall, hperm, hsorted⟩ := hb.fetchAll
  refine ⟨records, list_run hall, hperm, hsorted, fun record hrecord => ?_, fun detector => ?_⟩
  · have hview := hb.view (hperm.subset hrecord)
    exact ⟨title_eq_some_iff hview, title_eq_none_iff hview⟩
  · exact ⟨_, report_run hall detector, report_of_titles detector records⟩

/-- A document without a title, one that cannot be read, and one with a title. -/
def threeRecords : List Record :=
  [Analytics.untitledRecord, Analytics.unreadableRecord, .fresh "t" titled.compact none .newYear]

def threeStore : Backend := .memory (.ofRecords threeRecords)

theorem orderly_threeStore : threeStore.Orderly := by
  refine ⟨.seeded threeRecords, List.Pairwise.of_map (·.uuid) (fun _ _ h => h) ?_⟩
  change ["u", "x", "t"].Pairwise (· ≠ ·)
  decide

theorem titles_threeStore : titles threeStore.stored = [some "", none, some "t"] := by
  have hdata : threeStore.stored.map (·.data) =
      [Analytics.untitledRecord.data, Analytics.unreadableRecord.data, titled.compact] := rfl
  have htitles : ∀ records : List Record, titles records =
      (records.map (·.data)).map fun data => (Document.parse data).toOption.map Document.title := fun records => by
    rw [List.map_map]
    rfl
  obtain ⟨flaw, hflaw⟩ := Analytics.unreadable_fails
  rw [htitles, hdata]
  simp only [List.map_cons, List.map_nil, Analytics.untitled_parses, hflaw, titled_parses]
  rfl

/-- A folder with the file of one record, whose document cannot be read. -/
def oneFile : Backend := .directory "r" (.present [Directory.fileOf someRecord])

theorem namesIn_oneFile : Directory.namesIn (.present [Directory.fileOf someRecord]) = ["u.json"] :=
  Directory.namesIn_of_keys ["u"] (by decide) rfl

theorem recordOf?_oneFile :
    Directory.recordOf? ((Folder.present [Directory.fileOf someRecord]).content? "u.json") = some someRecord := by
  have hbytes : (Folder.present [Directory.fileOf someRecord]).content? "u.json" = some someRecord.encode.toUTF8 := rfl
  rw [hbytes, Directory.recordOf?_encode Directory.someRecord_storable]

theorem orderly_oneFile : oneFile.Orderly where
  opened := rfl
  record := by
    rw [namesIn_oneFile, List.forall_mem_singleton]
    exact ⟨someRecord, recordOf?_oneFile, by decide, rfl⟩

theorem stored_oneFile : oneFile.stored = [someRecord] := by
  simp [oneFile, Backend.stored, Directory.recordsIn, namesIn_oneFile, recordOf?_oneFile]

/-- Three records in memory, of which two are counted and one is named, and one in a folder. -/
theorem overview_of_three_records :
    threeStore.Orderly ∧ oneFile.Orderly ∧
    (∃ records, (Call.list.run threeStore).1 = .ok records ∧ titles records = [some "", none, some "t"]) ∧
    (∃ explanation, ((Call.get "x").run threeStore).1 = .error (.invalidDocument explanation)) ∧
    (∃ report, ((Call.report Document.detect).run threeStore).1 = .ok report ∧ report.total = 2 ∧ report.skipped = 1 ∧
      report.names = ["t"]) ∧
    (Call.list.run oneFile).1 = .ok [someRecord] := by
  have hall : (Call.list.run threeStore).1 = .ok threeStore.stored := rfl
  obtain ⟨records, hlist, -, -, hget, hreport⟩ := overviews_agree orderly_threeStore
  obtain rfl : threeStore.stored = records := Except.ok.inj (hall.symm.trans hlist)
  obtain ⟨report, hrun, htotal, hskipped, hnames⟩ := hreport Document.detect
  rw [titles_threeStore] at htotal hskipped hnames
  refine ⟨orderly_threeStore, orderly_oneFile, ⟨_, hlist, titles_threeStore⟩, ?_,
    ⟨report, hrun, htotal, hskipped, hnames⟩, ?_⟩
  · have hmem : { Analytics.unreadableRecord with id := 2 } ∈ threeStore.stored :=
      List.mem_cons_of_mem _ List.mem_cons_self
    obtain ⟨flaw, hflaw⟩ := Analytics.unreadable_fails
    refine (hget _ hmem).2.mp ?_
    change (Document.parse Analytics.unreadableRecord.data).toOption.map Document.title = none
    rw [hflaw]
    rfl
  · obtain ⟨records', hlist', hperm', -⟩ := overviews_agree orderly_oneFile
    rw [stored_oneFile] at hperm'
    rw [hlist', List.perm_singleton.mp hperm']

end Dashboards.Service
