import Dashboards.Proofs.Files.Path
import Dashboards.Proofs.Store.Agreement
import Dashboards.Proofs.Store.Writing
import Mathlib

/-!
# Folders with files of any content

* `namesIn`, `recordsIn` : the names that may be those of records, and the records under them
  (`mem_namesIn_iff`); drafts are not among them (`hasExtension_draftName`);
* `FilesOnly` : files stand under these names; `Legible` : and all of them are text;
* `readRecord_text`, `readRecord_notText` : what comes of one file;
* `readEach_legible`, `readEach_illegible`, `readAll_legible`, `readAll_illegible` : and of all;
* `sortById_sorted` : records are listed in order;
* `Free`, `insert_free` : a new record is stored where nothing is in its way;
* `corrupt_files_are_skipped` : files of text that hold no record are skipped, whatever else they hold
  (`garbage_is_skipped`), and a file that is no text ends all listing (`illegible_blocks`).
-/

namespace Dashboards.Store.Directory

open Files (Folder Fault Entries Node)

variable {root : String} {folder : Folder}

/-! ## What is in a folder -/

/-- The names in a folder that may be those of records. -/
def namesIn : Folder → List String
  | .present entries => (entries.map (·.1)).filter (Files.hasExtension "json")
  | _ => []

/-- The records in a folder, in the order of their files. -/
def recordsIn (folder : Folder) : List Record := (namesIn folder).filterMap fun name => recordOf? (folder.content? name)

/-- No folder stands under a name that may be that of a record. -/
def FilesOnly (folder : Folder) : Prop := ∀ name ∈ namesIn folder, (folder.content? name).isSome

/-- The file of that name is text. -/
def TextUnder (folder : Folder) (name : String) : Prop :=
  ∃ bytes text, folder.content? name = some bytes ∧ Files.textOf bytes = .ok text

def Legible (folder : Folder) : Prop := ∀ name ∈ namesIn folder, TextUnder folder name

theorem mem_namesIn_iff {name : String} :
    name ∈ namesIn folder ↔ Files.hasExtension "json" name ∧ (folder.node? name).isSome := by
  cases folder with
  | missing => simp [namesIn, Folder.node?]
  | blocked fault => simp [namesIn, Folder.node?]
  | present entries => simp only [namesIn, Folder.node?, List.mem_filter, Entries.isSome_find?_iff, and_comm]

theorem mem_namesIn {uuid : String} (hkey : isKey uuid) {bytes : ByteArray}
    (h : folder.content? (recordName uuid) = some bytes) : recordName uuid ∈ namesIn folder := by
  obtain ⟨entries, rfl⟩ := Folder.eq_present_of_target (Folder.target_of_content? h)
  exact List.mem_filter.mpr ⟨Folder.mem_of_content? h, hasExtension_recordName hkey⟩

theorem namesIn_of_keys (uuids : List String) {entries : Entries} (hkeys : ∀ uuid ∈ uuids, isKey uuid)
    (h : entries.map (·.1) = uuids.map recordName) : namesIn (.present entries) = uuids.map recordName := by
  rw [namesIn, h, List.filter_eq_self]
  intro name hname
  obtain ⟨uuid, huuid, rfl⟩ := List.mem_map.mp hname
  exact hasExtension_recordName (hkeys uuid huuid)

theorem hasExtension_draftName (uuid : String) : Files.hasExtension "json" (draftName uuid) = false := by
  apply Files.hasExtension_json_of_getLast?
  simp [draftName]

theorem ne_draftName_of_hasExtension {name : String} (h : Files.hasExtension "json" name) (uuid : String) :
    name ≠ draftName uuid := by
  rintro rfl
  rw [hasExtension_draftName] at h
  cases h

/-- A record that could not be written has changed nothing under the names of records. -/
theorem Written.node?_of_error {root : String} {record : Record} {folder' : Folder} {failure : StoreFailure}
    (h : Written root record folder (.error failure) folder') {name : String}
    (hjson : Files.hasExtension "json" name) : folder'.node? name = folder.node? name := by
  by_cases hne : name = recordName record.uuid
  · rw [hne, h.node?_record_of_error]
  · exact h.node?_of_ne (ne_draftName_of_hasExtension hjson _) hne

/-! ## Reading one file -/

theorem read_of_content? {name : String} {bytes : ByteArray} (h : folder.content? name = some bytes) (root : String) :
    (readRecord root name).run Folder.answer folder =
      (textOutcome (Files.join root name) ((Files.textOf bytes).map some), folder) := by
  rw [readRecord_run, ((Folder.answer_read folder name).2 bytes).mpr h]
  rfl

/-- A text is the record that it holds, or reported as corrupt. -/
theorem readRecord_text {name : String} (h : TextUnder folder name) (root : String) :
    (readRecord root name).run Folder.answer folder =
      (match recordOf? (folder.content? name) with
        | some record => .ok (some record)
        | none => .error (.corrupt (Files.join root name)), folder) := by
  obtain ⟨bytes, text, hbytes, htext⟩ := h
  rw [read_of_content? hbytes, hbytes, recordOf?, Option.bind_some, htext]
  rfl

/-- What is no text cannot be read. -/
theorem readRecord_notText {name : String} (hfile : (folder.content? name).isSome) (h : ¬TextUnder folder name)
    (root : String) :
    ∃ fault, (readRecord root name).run Folder.answer folder = (.error (.io (Files.join root name) fault), folder) := by
  obtain ⟨bytes, hbytes⟩ := Option.isSome_iff_exists.mp hfile
  cases htext : Files.textOf bytes with
  | ok text => exact absurd ⟨bytes, text, hbytes, htext⟩ h
  | error fault =>
    refine ⟨fault, ?_⟩
    rw [read_of_content? hbytes, htext]
    rfl

/-! ## Reading all files -/

theorem readEach_legible {names : List String} (h : ∀ name ∈ names, TextUnder folder name) (root : String) :
    (readEach root names).run Folder.answer folder =
      (.ok (names.filterMap fun name => recordOf? (folder.content? name)), folder) := by
  induction names with
  | nil => rfl
  | cons name names ih =>
    have hrest := ih fun other hother => h other (List.mem_cons_of_mem name hother)
    rw [readEach, run_bind, readRecord_text (h name List.mem_cons_self), List.filterMap_cons]
    cases recordOf? (folder.content? name) with
    | none => exact hrest
    | some record =>
      dsimp only
      rw [run_bind, hrest]
      rfl

/-- One file that is no text ends the reading. -/
theorem readEach_illegible {names : List String} (hfiles : ∀ name ∈ names, (folder.content? name).isSome)
    (h : ∃ name ∈ names, ¬TextUnder folder name) (root : String) :
    ∃ path fault, (readEach root names).run Folder.answer folder = (.error (.io path fault), folder) := by
  induction names with
  | nil =>
    obtain ⟨name, hname, -⟩ := h
    exact absurd hname List.not_mem_nil
  | cons name names ih =>
    rw [readEach, run_bind]
    by_cases htext : TextUnder folder name
    · obtain ⟨other, hother, hnot⟩ := h
      have hmem : other ∈ names := by
        refine (List.mem_cons.mp hother).resolve_left ?_
        rintro rfl
        exact hnot htext
      obtain ⟨path, fault, hrest⟩ := ih (fun n hn => hfiles n (List.mem_cons_of_mem name hn)) ⟨other, hmem, hnot⟩
      refine ⟨path, fault, ?_⟩
      rw [readRecord_text htext]
      cases recordOf? (folder.content? name) with
      | none => exact hrest
      | some record =>
        dsimp only
        rw [run_bind, hrest]
        rfl
    · obtain ⟨fault, hread⟩ := readRecord_notText (hfiles name List.mem_cons_self) htext root
      refine ⟨Files.join root name, fault, ?_⟩
      rw [hread]
      rfl

theorem recordNames_run (hopen : folder.opened?.isSome) (root : String) :
    (recordNames root).run Folder.answer folder = (.ok (namesIn folder), folder) := by
  rw [recordNames, run_step]
  cases folder with
  | missing => rfl
  | blocked fault => cases hopen
  | present entries => rfl

theorem readAll_legible (hopen : folder.opened?.isSome) (h : Legible folder) (root : String) :
    (readAll root).run Folder.answer folder = (.ok (sortById (recordsIn folder)), folder) := by
  rw [readAll, run_bind, recordNames_run hopen]
  dsimp only
  rw [run_bind, readEach_legible h]
  rfl

theorem readAll_illegible (hopen : folder.opened?.isSome) (hfiles : FilesOnly folder) (h : ¬Legible folder)
    (root : String) :
    ∃ path fault, (readAll root).run Folder.answer folder = (.error (.io path fault), folder) := by
  simp only [Legible, not_forall, exists_prop] at h
  obtain ⟨path, fault, hread⟩ := readEach_illegible hfiles h root
  refine ⟨path, fault, ?_⟩
  rw [readAll, run_bind, recordNames_run hopen]
  dsimp only
  rw [run_bind, hread]
  rfl

/-! ## In order -/

theorem insertById_sorted {records : List Record} (h : records.Pairwise (·.id ≤ ·.id)) (r : Record) :
    (insertById r records).Pairwise (·.id ≤ ·.id) := by
  induction records with
  | nil => simp [insertById]
  | cons s rest ih =>
    obtain ⟨hs, hrest⟩ := List.pairwise_cons.mp h
    unfold insertById
    split_ifs with hlt
    · refine List.pairwise_cons.mpr ⟨?_, h⟩
      intro t ht
      rcases List.mem_cons.mp ht with rfl | ht
      · omega
      · have := hs t ht
        omega
    · refine List.pairwise_cons.mpr ⟨?_, ih hrest⟩
      intro t ht
      rcases List.mem_cons.mp ((insertById_perm r rest).subset ht) with rfl | ht
      · omega
      · exact hs t ht

theorem sortById_sorted (records : List Record) : (sortById records).Pairwise (·.id ≤ ·.id) := by
  have hfold : ∀ (rest sorted : List Record), sorted.Pairwise (·.id ≤ ·.id) →
      (rest.foldl (fun sorted r => insertById r sorted) sorted).Pairwise (·.id ≤ ·.id) := by
    intro rest
    induction rest with
    | nil => exact fun _ h => h
    | cons r rest ih => exact fun sorted h => ih _ (insertById_sorted h r)
  exact hfold records [] .nil

/-! ## Storing a new record -/

/-- Nothing stands under the name of the record, and no folder under that of its draft. -/
structure Free (folder : Folder) (uuid : String) : Prop where
  key : isKey uuid
  short : Short uuid
  record : folder.node? (recordName uuid) = none
  draft : ∀ inner, folder.node? (draftName uuid) ≠ some (.folder inner)

namespace Free

variable {uuid : String}

theorem probe (h : Free folder uuid) (hopen : folder.opened?.isSome) :
    (Folder.answer (.probe (recordName uuid)) folder).1 = .ok false := by
  cases folder with
  | missing => rfl
  | blocked fault => cases hopen
  | present entries =>
    have hslot := slot_recordName h.short entries
    have hfind : entries.find? (recordName uuid) = none := h.record
    rw [hfind] at hslot
    simp only [Folder.answer, Folder.slot, hslot]

/-- It is written. -/
theorem write (h : Free folder uuid) (hopen : folder.opened?.isSome) (record : Record) (huuid : record.uuid = uuid)
    (root : String) : ((writeRecord root record).run Folder.answer folder).1 = .ok () := by
  subst huuid
  obtain ⟨entries, hentries⟩ := Option.isSome_iff_exists.mp hopen
  have hrecord := h.record
  have hdraft := h.draft
  rw [Folder.node?_of_opened? hentries] at hrecord hdraft
  have hnone : ∀ inner, entries.find? (recordName record.uuid) ≠ some (.folder inner) := fun inner => by simp [hrecord]
  exact (writeRecord_written root record folder).eq_ok h.key hentries (target_draftName h.short hdraft)
    (target_recordName h.short hnone)

/-- It is numbered behind all that are listed, and nothing is stored if they cannot be. -/
theorem insert_run {record : Record} (h : Free folder record.uuid) (hopen : folder.opened?.isSome) (root : String) :
    ((insert root record).run Folder.answer folder).1 =
      ((readAll root).run Folder.answer folder).1.map fun records => greatestId records + 1 := by
  rw [insert, run_withKey, if_pos h.key, run_step, h.probe hopen, (Folder.answer_probe folder _).1]
  dsimp only [id]
  rw [if_neg Bool.false_ne_true, run_bind, (readAll_run root folder).1]
  cases ((readAll root).run Folder.answer folder).1 with
  | error failure => rfl
  | ok records =>
    have hwrite := h.write hopen { record with id := greatestId records + 1 } rfl root
    dsimp only
    rw [run_bind, hwrite]
    rfl

end Free

/-- A new record gets an identifier behind those of all others, and is found again. -/
theorem insert_free (hopen : folder.opened?.isSome) (h : Legible folder) {record : Record}
    (hrecord : (Request.insert record).Timely) (hfree : Free folder record.uuid)
    (hids : ∀ r ∈ recordsIn folder, r.id < greatestReadable) (root : String) :
    ∃ id, ((insert root record).run Folder.answer folder).1 = .ok id ∧ (∀ r ∈ recordsIn folder, r.id < id) ∧
      view ((insert root record).run Folder.answer folder).2 record.uuid = some { record with id } := by
  have hsorted := sortById_sorted (recordsIn folder)
  have hperm := sortById_perm (recordsIn folder)
  have hbehind : ∀ r ∈ recordsIn folder, r.id < greatestId (sortById (recordsIn folder)) + 1 :=
    fun r hr => lt_greatestId_of_sorted hsorted r (hperm.mem_iff.mpr hr)
  have hreadable : greatestId (sortById (recordsIn folder)) + 1 ≤ greatestReadable := by
    have hmem : ∀ r ∈ sortById (recordsIn folder), r.id < greatestReadable := fun r hr => hids r (hperm.subset hr)
    unfold greatestId
    split
    · next r hr => exact hmem r (List.mem_of_getLast? hr)
    · decide
  have hreply := hfree.insert_run hopen root
  rw [readAll_legible hopen h] at hreply
  refine ⟨_, hreply, hbehind, ?_⟩
  have heffect := insert_effect root hrecord folder
  rw [hreply] at heffect
  obtain ⟨-, hview | ⟨hunread, -⟩⟩ := heffect
  · rw [hview, Function.update_self]
  · exact absurd hreadable (not_le.mpr hunread)

/-! ## Files that hold no record -/

/-- An empty file beside the file of a record. -/
def mixed : Folder := .present [("x.json", .file "".toUTF8), fileOf someRecord]

theorem someRecord_storable : someRecord.Storable :=
  ⟨by decide, by decide, Timestamp.newYear_isValid, Timestamp.newYear_isValid⟩

theorem namesIn_mixed : namesIn mixed = ["x.json", "u.json"] :=
  namesIn_of_keys ["x", "u"] (by decide) rfl

theorem recordOf?_empty : recordOf? (mixed.content? "x.json") = none := by
  have hbytes : mixed.content? "x.json" = some "".toUTF8 := rfl
  rw [hbytes, recordOf?_toUTF8]
  rfl

theorem recordOf?_someRecord : recordOf? (mixed.content? "u.json") = some someRecord := by
  have hbytes : mixed.content? "u.json" = some someRecord.encode.toUTF8 := rfl
  rw [hbytes, recordOf?_encode someRecord_storable]

theorem recordsIn_mixed : recordsIn mixed = [someRecord] := by
  simp [recordsIn, namesIn_mixed, recordOf?_empty, recordOf?_someRecord]

theorem legible_mixed : Legible mixed := by
  unfold Legible
  rw [namesIn_mixed, List.forall_mem_cons, List.forall_mem_singleton]
  exact ⟨⟨_, _, rfl, Files.textOf_toUTF8 ""⟩, _, _, rfl, Files.textOf_toUTF8 someRecord.encode⟩

/-- A byte that begins no character. -/
def garbled : Folder := .present [("x.json", .file ⟨#[0xff]⟩)]

/-! ## Corrupt files -/

/-- Among files, all records are listed exactly if every file that may hold one is text. The list then
holds just the records of the files that hold one, in order; a file that holds none is reported as
corrupt where its record is asked for; and a new record can be stored, with an identifier behind
those of all others. -/
theorem corrupt_files_are_skipped (root : String) (hopen : folder.opened?.isSome) (hfiles : FilesOnly folder) :
    ((∃ records, (handle root .fetchAll folder).1 = .ok records) ↔ Legible folder) ∧
    (Legible folder →
      (∃ records, handle root .fetchAll folder = (.ok records, folder) ∧ records.Perm (recordsIn folder) ∧
        records.Pairwise (·.id ≤ ·.id)) ∧
      (∀ uuid, isKey uuid → (folder.content? (recordName uuid)).isSome → view folder uuid = none →
        (handle root (.fetchOne uuid) folder).1 = .error (.corrupt (Files.join root (recordName uuid)))) ∧
      ∀ record, (Request.insert record).Timely → Free folder record.uuid →
        (∀ r ∈ recordsIn folder, r.id < greatestReadable) →
        ∃ id, (handle root (.insert record) folder).1 = .ok id ∧ (∀ r ∈ recordsIn folder, r.id < id) ∧
          view (handle root (.insert record) folder).2 record.uuid = some { record with id }) := by
  refine ⟨⟨fun h => ?_, fun h => ?_⟩, fun h => ⟨?_, ?_, ?_⟩⟩
  · by_contra hnot
    obtain ⟨records, hrecords⟩ := h
    obtain ⟨path, fault, hread⟩ := readAll_illegible hopen hfiles hnot root
    rw [handle, answer, hread] at hrecords
    cases hrecords
  · exact ⟨_, congrArg Prod.fst (readAll_legible hopen h root)⟩
  · exact ⟨_, readAll_legible hopen h root, sortById_perm _, sortById_sorted _⟩
  · intro uuid hkey hfile hnone
    obtain ⟨bytes, hbytes⟩ := Option.isSome_iff_exists.mp hfile
    rw [view_of_isKey hkey] at hnone
    rw [handle, answer, fetchOne, run_withKey, if_pos hkey, readRecord_text (h _ (mem_namesIn hkey hbytes)), hnone]
  · exact fun record hrecord hfree hids => insert_free hopen h hrecord hfree hids root

/-- The empty file is skipped and reported, and another record is stored behind the one that is there. -/
theorem garbage_is_skipped :
    (handle "r" .fetchAll mixed).1 = .ok [someRecord] ∧
    (handle "r" (.fetchOne "x") mixed).1 = .error (.corrupt (Files.join "r" "x.json")) ∧
    ∃ id, (handle "r" (.insert { someRecord with uuid := "v" }) mixed).1 = .ok id ∧ someRecord.id < id := by
  have hfiles : FilesOnly mixed := by
    unfold FilesOnly
    rw [namesIn_mixed, List.forall_mem_cons, List.forall_mem_singleton]
    exact ⟨rfl, rfl⟩
  obtain ⟨-, h⟩ := corrupt_files_are_skipped "r" rfl hfiles
  obtain ⟨⟨records, hall, hperm, -⟩, hone, hinsert⟩ := h legible_mixed
  rw [recordsIn_mixed] at hperm hinsert
  obtain rfl := List.perm_singleton.mp hperm
  have hfree : Free mixed "v" := ⟨by decide, by decide, rfl, fun _ h => by cases h⟩
  have hids : ∀ r ∈ [someRecord], r.id < greatestReadable := by
    rw [List.forall_mem_singleton]
    decide
  obtain ⟨id, hid, hbehind, -⟩ := hinsert { someRecord with uuid := "v" }
    ⟨Timestamp.newYear_isValid, Timestamp.newYear_isValid⟩ hfree hids
  exact ⟨by rw [hall], hone "x" (by decide) rfl rfl, id, hid, hbehind someRecord (List.mem_singleton_self _)⟩

/-- A file that is no text is not skipped: nothing is listed, nothing is reported as corrupt and nothing can be stored. -/
theorem illegible_blocks : FilesOnly garbled ∧ Free garbled "u" ∧
    (handle "r" .fetchAll garbled).1 = .error (.io (Files.join "r" "x.json") .notText) ∧
    (handle "r" (.fetchOne "x") garbled).1 = .error (.io (Files.join "r" "x.json") .notText) ∧
    (handle "r" (.insert someRecord) garbled).1 = .error (.io (Files.join "r" "x.json") .notText) := by
  have hnames : namesIn garbled = ["x.json"] := namesIn_of_keys ["x"] (by decide) rfl
  have hfiles : FilesOnly garbled := by
    unfold FilesOnly
    rw [hnames, List.forall_mem_singleton]
    rfl
  have hfree : Free garbled "u" := ⟨by decide, by decide, rfl, fun _ h => by cases h⟩
  have hone : (readRecord "r" "x.json").run Folder.answer garbled =
      (.error (.io (Files.join "r" "x.json") .notText), garbled) := by
    rw [read_of_content? rfl]
    rfl
  have hall : (readAll "r").run Folder.answer garbled =
      (.error (.io (Files.join "r" "x.json") .notText), garbled) := by
    rw [readAll, run_bind, recordNames_run rfl, hnames]
    dsimp only
    rw [run_bind, readEach, run_bind, hone]
    rfl
  refine ⟨hfiles, hfree, ?_, ?_, ?_⟩
  · rw [handle, answer, hall]
  · rw [handle, answer, fetchOne, run_withKey, if_pos (by decide), recordName]
    exact congrArg Prod.fst hone
  · rw [handle, answer, Free.insert_run hfree rfl, hall]
    rfl

end Dashboards.Store.Directory
