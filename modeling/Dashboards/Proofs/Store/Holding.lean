import Dashboards.Proofs.Store.Directory
import Dashboards.Proofs.Store.Memory
import Mathlib

/-!
# A folder that holds records and nothing else

* `fileOf`, `filesOf` : the files of records;
* `Short` : a uuid whose files may have their names;
* `Holds stored folder` : the folder holds these records, in this order, and nothing else;
* `Holds.read`, `Holds.probe`, `Holds.remove`, `Holds.write` : single steps on such a folder;
* `Holds.fetchOne`, `Holds.readAll` : one record and all records are read from it;
* `Holds.append`, `Holds.filter`, `Holds.modifyFirst` : what it holds after a change;
* `AnswersAs`, `Holds.answers` : it answers as a store in memory does that goes on numbering from the
  last record (`Holds.insert_run`, `Holds.readableReply`).
-/

namespace Dashboards.Store.Directory

open Files (Folder Fault Entries Node)

/-- The file of a record. -/
def fileOf (r : Record) : String × Node := (recordName r.uuid, .file r.encode.toUTF8)

def filesOf (stored : List Record) : Entries := stored.map fileOf

/-- The names of both files of the uuid are short enough. -/
def Short (uuid : String) : Prop := uuid.utf8ByteSize + 5 ≤ Files.nameLimit

instance (uuid : String) : Decidable (Short uuid) := inferInstanceAs (Decidable (_ ≤ _))

/-! ## Entries -/

theorem utf8ByteSize_recordName (uuid : String) : (recordName uuid).utf8ByteSize = uuid.utf8ByteSize + 5 := by
  rw [recordName, String.utf8ByteSize_append]
  rfl

theorem utf8ByteSize_draftName (uuid : String) : (draftName uuid).utf8ByteSize = uuid.utf8ByteSize + 4 := by
  rw [draftName, String.utf8ByteSize_append]
  rfl

/-- Longer names than those of the folder itself and of the one above it stand for entries. -/
theorem slot_of_size {name : String} (hlong : 3 ≤ name.utf8ByteSize) (hshort : name.utf8ByteSize ≤ Files.nameLimit)
    (entries : Entries) :
    entries.slot name = match entries.find? name with
      | none => .ok .empty
      | some (.file content) => .ok (.file content)
      | some (.folder _) => .ok .folder := by
  have hne : ∀ s : String, s.utf8ByteSize < 3 → name ≠ s := by
    rintro s hs rfl
    omega
  have hname : ¬(decide (name = "") || decide (name = ".") || decide (name = "..")) = true := by
    simp [hne "" (by decide), hne "." (by decide), hne ".." (by decide)]
  rw [Entries.slot]
  exact (if_neg hname).trans (if_neg (not_lt.mpr hshort))

theorem slot_recordName {uuid : String} (h : Short uuid) (entries : Entries) :
    entries.slot (recordName uuid) = match entries.find? (recordName uuid) with
      | none => .ok .empty
      | some (.file content) => .ok (.file content)
      | some (.folder _) => .ok .folder := by
  rw [Short] at h
  exact slot_of_size (by rw [utf8ByteSize_recordName]; omega) (by rw [utf8ByteSize_recordName]; omega) entries

theorem slot_draftName {uuid : String} (h : Short uuid) (entries : Entries) :
    entries.slot (draftName uuid) = match entries.find? (draftName uuid) with
      | none => .ok .empty
      | some (.file content) => .ok (.file content)
      | some (.folder _) => .ok .folder := by
  rw [Short] at h
  exact slot_of_size (by rw [utf8ByteSize_draftName]; omega) (by rw [utf8ByteSize_draftName]; omega) entries

theorem find?_filesOf (uuid : String) (stored : List Record) :
    (filesOf stored).find? (recordName uuid) =
      (stored.find? (·.uuid = uuid)).map fun r => .file r.encode.toUTF8 := by
  induction stored with
  | nil => rfl
  | cons r rest ih =>
    by_cases hr : r.uuid = uuid
    · rw [List.find?_cons_of_pos (by simpa using hr), filesOf, List.map_cons, fileOf, hr]
      exact if_pos rfl
    · rw [List.find?_cons_of_neg (by simpa using hr), ← ih, filesOf, List.map_cons, fileOf]
      exact if_neg fun h => hr (recordName_injective h)

theorem find?_filesOf_draft (uuid : String) (stored : List Record) :
    (filesOf stored).find? (draftName uuid) = none := by
  induction stored with
  | nil => rfl
  | cons r rest ih =>
    rw [← ih, filesOf, List.map_cons, fileOf]
    exact if_neg (recordName_ne_draftName r.uuid uuid)

/-- A record's file is replaced where the record is. -/
theorem set_filesOf {uuid : String} {r : Record} {stored : List Record} {change : Record → Record}
    (hchange : ∀ r, (change r).uuid = r.uuid) (h : stored.find? (·.uuid = uuid) = some r) :
    (filesOf stored).set (recordName uuid) (.file (change r).encode.toUTF8) =
      filesOf (Memory.modifyFirst uuid change stored) := by
  induction stored with
  | nil => cases h
  | cons s rest ih =>
    by_cases hs : s.uuid = uuid
    · rw [List.find?_cons_of_pos (by simpa using hs)] at h
      obtain rfl := Option.some.inj h
      rw [filesOf, List.map_cons, fileOf, hs, Entries.set, if_pos rfl, Memory.modifyFirst, if_pos hs, filesOf,
        List.map_cons, fileOf, hchange, hs]
    · rw [List.find?_cons_of_neg (by simpa using hs)] at h
      rw [filesOf, List.map_cons, fileOf, Entries.set, if_neg fun h => hs (recordName_injective h),
        Memory.modifyFirst, if_neg hs]
      exact congrArg _ (ih h)

theorem erase_filesOf (uuid : String) (stored : List Record) :
    (filesOf stored).erase (recordName uuid) = filesOf (stored.filter (·.uuid ≠ uuid)) := by
  rw [Entries.erase, filesOf, List.filter_map, filesOf]
  congr 1
  apply List.filter_congr
  intro r _
  by_cases hr : r.uuid = uuid
  · simp [fileOf, hr]
  · have hname : recordName r.uuid ≠ recordName uuid := fun h => hr (recordName_injective h)
    simp [fileOf, hr, hname]

/-! ## Names and order -/

theorem hasExtension_recordName {uuid : String} (hkey : isKey uuid) :
    Files.hasExtension "json" (recordName uuid) := by
  have hsuffix : (recordName uuid).endsWith ("." ++ "json") = true := by
    rw [recordName, String.endsWith, String.Slice.endsWith_string_iff]
    simp
  have hlength : 0 < uuid.length := by
    rw [isKey, Bool.and_eq_true, Bool.not_eq_true'] at hkey
    by_contra hzero
    rw [String.length_eq_zero_iff.mp (Nat.eq_zero_of_not_pos hzero)] at hkey
    cases hkey.1
  have hlong : "json".length + 1 < (recordName uuid).length := by
    rw [recordName, String.length_append]
    change 5 < uuid.length + 5
    omega
  rw [Files.hasExtension, hsuffix, Bool.true_and, decide_eq_true_eq]
  exact hlong

theorem insertById_of_lt {r : Record} {records : List Record} (h : ∀ s ∈ records, s.id < r.id) :
    insertById r records = records ++ [r] := by
  induction records with
  | nil => rfl
  | cons s rest ih =>
    have hs := h s List.mem_cons_self
    rw [insertById, if_neg (by omega), ih fun t ht => h t (List.mem_cons_of_mem s ht)]
    rfl

/-- Records in ascending order stay as they are. -/
theorem sortById_of_ascending {records : List Record} (h : records.Pairwise (·.id < ·.id)) :
    sortById records = records := by
  have hfold : ∀ (rest sorted : List Record), (sorted ++ rest).Pairwise (·.id < ·.id) →
      rest.foldl (fun sorted r => insertById r sorted) sorted = sorted ++ rest := by
    intro rest
    induction rest with
    | nil =>
      intro sorted _
      rw [List.append_nil, List.foldl_nil]
    | cons r rest ih =>
      intro sorted hs
      have hlt : ∀ s ∈ sorted, s.id < r.id := fun s hm =>
        (List.pairwise_append.mp hs).2.2 s hm r List.mem_cons_self
      rw [List.foldl_cons, insertById_of_lt hlt, ih (sorted ++ [r]) (by simpa using hs), List.append_assoc]
      rfl
  exact hfold records [] h

/-- The identifier behind the last one of records in order is behind all of them. -/
theorem lt_greatestId_of_sorted {records : List Record} (h : records.Pairwise (·.id ≤ ·.id)) :
    ∀ r ∈ records, r.id < greatestId records + 1 := by
  intro r hr
  obtain ⟨init, last, rfl⟩ : ∃ init last, records = init ++ [last] :=
    ⟨records.dropLast, records.getLast (List.ne_nil_of_mem hr), (List.dropLast_append_getLast _).symm⟩
  rw [greatestId, List.getLast?_concat]
  rcases List.mem_append.mp hr with hr | hr
  · have := (List.pairwise_append.mp h).2.2 r hr last (List.mem_singleton_self last)
    dsimp only
    omega
  · obtain rfl := List.mem_singleton.mp hr
    dsimp only
    omega

/-! ## Folders that hold records -/

/-- The folder holds these records, in the order in which they came, and nothing else. -/
structure Holds (stored : List Record) (folder : Folder) : Prop where
  entries : folder = .present (filesOf stored) ∨ folder = .missing ∧ stored = []
  keys : ∀ r ∈ stored, isKey r.uuid ∧ Short r.uuid
  distinct : stored.Pairwise (·.uuid ≠ ·.uuid)
  storable : ∀ r ∈ stored, r.Storable
  ascending : stored.Pairwise (·.id < ·.id)

theorem Holds.missing : Holds [] .missing where
  entries := .inr ⟨rfl, rfl⟩
  keys := fun _ h => absurd h List.not_mem_nil
  distinct := .nil
  storable := fun _ h => absurd h List.not_mem_nil
  ascending := .nil

theorem Holds.empty : Holds [] (.present []) where
  entries := .inl rfl
  keys := fun _ h => absurd h List.not_mem_nil
  distinct := .nil
  storable := fun _ h => absurd h List.not_mem_nil
  ascending := .nil

namespace Holds

variable {stored : List Record} {folder : Folder} {uuid : String}

theorem make (h : Holds stored folder) : Folder.answer .make folder = (.ok (), .present (filesOf stored)) := by
  rcases h.entries with rfl | ⟨rfl, rfl⟩ <;> rfl

theorem read (h : Holds stored folder) (hshort : Short uuid) :
    Folder.answer (.read (recordName uuid)) folder =
      (match stored.find? (·.uuid = uuid) with
        | some r => .ok r.encode.toUTF8
        | none => .error .notFound, folder) := by
  rcases h.entries with rfl | ⟨rfl, rfl⟩
  · have hslot := slot_recordName hshort (filesOf stored)
    rw [find?_filesOf] at hslot
    cases hfind : stored.find? (·.uuid = uuid) with
    | none =>
      rw [hfind] at hslot
      simp only [Folder.answer, Folder.slot, hslot, Option.map_none]
      rfl
    | some r =>
      rw [hfind] at hslot
      simp only [Folder.answer, Folder.slot, hslot, Option.map_some]
      rfl
  · rfl

theorem probe (h : Holds stored folder) (hshort : Short uuid) :
    Folder.answer (.probe (recordName uuid)) folder =
      (.ok (stored.find? (·.uuid = uuid)).isSome, folder) := by
  rcases h.entries with rfl | ⟨rfl, rfl⟩
  · have hslot := slot_recordName hshort (filesOf stored)
    rw [find?_filesOf] at hslot
    cases hfind : stored.find? (·.uuid = uuid) with
    | none =>
      rw [hfind] at hslot
      simp only [Folder.answer, Folder.slot, hslot, Option.map_none]
      rfl
    | some r =>
      rw [hfind] at hslot
      simp only [Folder.answer, Folder.slot, hslot, Option.map_some]
      rfl
  · rfl

theorem remove (h : Holds stored folder) (hshort : Short uuid) :
    Folder.answer (.remove (recordName uuid)) folder =
      if (stored.find? (·.uuid = uuid)).isSome then
        (.ok (), .present (filesOf (stored.filter (·.uuid ≠ uuid))))
      else (.error .notFound, folder) := by
  rcases h.entries with rfl | ⟨rfl, rfl⟩
  · have hslot := slot_recordName hshort (filesOf stored)
    rw [find?_filesOf] at hslot
    cases hfind : stored.find? (·.uuid = uuid) with
    | none =>
      rw [hfind] at hslot
      simp only [Folder.answer, Folder.slot, hslot, Option.map_none]
      rfl
    | some r =>
      rw [hfind] at hslot
      simp only [Folder.answer, Folder.slot, hslot, Option.map_some, Folder.mapEntries, erase_filesOf]
      rfl
  · rfl

/-- A record is written under its name, its draft is gone again. -/
theorem write (h : Holds stored folder) (root : String) (record : Record) (hkey : isKey record.uuid)
    (hshort : Short record.uuid) :
    (writeRecord root record).run Folder.answer folder =
      (.ok (), .present ((filesOf stored).set (recordName record.uuid) (.file record.encode.toUTF8))) := by
  have hdraft := find?_filesOf_draft record.uuid stored
  have hslot : ∀ entries : Entries, entries.find? (draftName record.uuid) = none →
      entries.slot (draftName record.uuid) = .ok .empty := by
    intro entries hnone
    rw [slot_draftName hshort, hnone]
  have hwrite : Folder.answer (.write (draftName record.uuid) record.encode.toUTF8) (.present (filesOf stored)) =
      (.ok (), .present (filesOf stored ++ [(draftName record.uuid, .file record.encode.toUTF8)])) := by
    simp only [Folder.answer, Folder.slot, hslot _ hdraft, Folder.mapEntries, Entries.set_of_find?_eq_none hdraft]
  have hsource : Entries.slot (filesOf stored ++ [(draftName record.uuid, .file record.encode.toUTF8)])
      (draftName record.uuid) = .ok (.file record.encode.toUTF8) := by
    rw [← Entries.set_of_find?_eq_none hdraft, slot_draftName hshort, Entries.find?_set_self]
  have htarget : Folder.target (.present (filesOf stored ++ [(draftName record.uuid, .file record.encode.toUTF8)]))
      (recordName record.uuid) = .ok () := by
    have hname := slot_recordName hshort (filesOf stored ++ [(draftName record.uuid, .file record.encode.toUTF8)])
    rw [Entries.find?_append_of_ne (recordName_ne_draftName _ _), find?_filesOf] at hname
    rw [Folder.target, Folder.slot, hname]
    cases stored.find? (·.uuid = record.uuid) <;> rfl
  have hrename : Folder.answer (.rename (draftName record.uuid) (recordName record.uuid))
      (.present (filesOf stored ++ [(draftName record.uuid, .file record.encode.toUTF8)])) =
      (.ok (), .present ((filesOf stored).set (recordName record.uuid) (.file record.encode.toUTF8))) := by
    simp only [Folder.answer, Folder.slot, hsource, htarget, Folder.mapEntries, Entries.erase_append_self hdraft]
  rw [writeRecord, run_withKey, if_pos hkey, run_step, h.make]
  dsimp only [id]
  rw [run_step, hwrite]
  dsimp only [id]
  rw [run_step, hrename]
  rfl

/-! ## Requests to them -/

theorem readRecord (h : Holds stored folder) (root : String) (hshort : Short uuid) :
    (Directory.readRecord root (recordName uuid)).run Folder.answer folder =
      (.ok (stored.find? (·.uuid = uuid)), folder) := by
  rw [readRecord_run, h.read hshort]
  cases hfind : stored.find? (·.uuid = uuid) with
  | none => rfl
  | some r =>
    have hdecode := Record.decode?_encode (h.storable r (List.mem_of_find?_eq_some hfind))
    simp only [textOf?, Files.textOf_toUTF8, Except.map, textOutcome, hdecode]

theorem fetchOne (h : Holds stored folder) (root : String) (hkey : isKey uuid) (hshort : Short uuid) :
    (Directory.fetchOne root uuid).run Folder.answer folder = (.ok (stored.find? (·.uuid = uuid)), folder) := by
  rw [Directory.fetchOne, run_withKey, if_pos hkey, h.readRecord root hshort]

theorem readEach (h : Holds stored folder) (root : String) (records : List Record)
    (hsub : ∀ r ∈ records, r ∈ stored) :
    (Directory.readEach root (records.map (recordName ·.uuid))).run Folder.answer folder =
      (.ok records, folder) := by
  induction records with
  | nil => rfl
  | cons r rest ih =>
    have hr := hsub r List.mem_cons_self
    rw [List.map_cons, Directory.readEach, run_bind, h.readRecord root (h.keys r hr).2, Memory.find?_of_mem h.distinct hr]
    dsimp only
    rw [run_bind, ih fun s hs => hsub s (List.mem_cons_of_mem r hs)]
    rfl

theorem recordNames (h : Holds stored folder) (root : String) :
    (Directory.recordNames root).run Folder.answer folder = (.ok (stored.map (recordName ·.uuid)), folder) := by
  have hjson : (stored.map (recordName ·.uuid)).filter (Files.hasExtension "json") =
      stored.map (recordName ·.uuid) := by
    refine List.filter_eq_self.mpr fun name hname => ?_
    obtain ⟨r, hr, rfl⟩ := List.mem_map.mp hname
    exact hasExtension_recordName (h.keys r hr).1
  rw [Directory.recordNames, run_step]
  rcases h.entries with rfl | ⟨rfl, rfl⟩
  · have hnames : (filesOf stored).map (·.1) = stored.map (recordName ·.uuid) := by
      rw [filesOf, List.map_map]
      rfl
    change (Except.ok (((filesOf stored).map (·.1)).filter (Files.hasExtension "json")), _) = _
    rw [hnames, hjson]
    rfl
  · rfl

theorem readAll (h : Holds stored folder) (root : String) :
    (Directory.readAll root).run Folder.answer folder = (.ok stored, folder) := by
  rw [Directory.readAll, run_bind, h.recordNames root]
  dsimp only
  rw [run_bind, h.readEach root stored fun _ hr => hr]
  dsimp only
  rw [sortById_of_ascending h.ascending]
  rfl

/-! ## What they hold afterwards -/

theorem append (h : Holds stored folder) (record : Record) (hkey : isKey record.uuid) (hshort : Short record.uuid)
    (hstorable : record.Storable) (hnew : stored.find? (·.uuid = record.uuid) = none)
    (hlast : ∀ r ∈ stored, r.id < record.id) :
    Holds (stored ++ [record]) (.present ((filesOf stored).set (recordName record.uuid) (.file record.encode.toUTF8))) where
  entries := by
    left
    have hnone : (filesOf stored).find? (recordName record.uuid) = none := by
      rw [find?_filesOf, hnew]
      rfl
    rw [Entries.set_of_find?_eq_none hnone, filesOf, filesOf, List.map_append]
    rfl
  keys := by
    intro r hr
    rcases List.mem_append.mp hr with hr | hr
    · exact h.keys r hr
    · obtain rfl := List.mem_singleton.mp hr
      exact ⟨hkey, hshort⟩
  distinct := by
    refine List.pairwise_append.mpr ⟨h.distinct, List.pairwise_singleton _ _, fun r hr s hs => ?_⟩
    obtain rfl := List.mem_singleton.mp hs
    simpa using List.find?_eq_none.mp hnew r hr
  storable := by
    intro r hr
    rcases List.mem_append.mp hr with hr | hr
    · exact h.storable r hr
    · obtain rfl := List.mem_singleton.mp hr
      exact hstorable
  ascending := by
    refine List.pairwise_append.mpr ⟨h.ascending, List.pairwise_singleton _ _, fun r hr s hs => ?_⟩
    obtain rfl := List.mem_singleton.mp hs
    exact hlast r hr

theorem filter (h : Holds stored folder) (uuid : String) :
    Holds (stored.filter (·.uuid ≠ uuid)) (.present (filesOf (stored.filter (·.uuid ≠ uuid)))) where
  entries := .inl rfl
  keys := fun r hr => h.keys r (List.mem_filter.mp hr).1
  distinct := h.distinct.filter _
  storable := fun r hr => h.storable r (List.mem_filter.mp hr).1
  ascending := h.ascending.filter _

theorem modifyFirst (h : Holds stored folder) {change : Record → Record} (hkeeps : Keeps change)
    (hid : ∀ r, (change r).id = r.id) (uuid : String) :
    Holds (Memory.modifyFirst uuid change stored) (.present (filesOf (Memory.modifyFirst uuid change stored))) where
  entries := .inl rfl
  keys := Memory.forall_modifyFirst (fun r hr => by rwa [hkeeps.uuid]) h.keys
  distinct := by
    have hbefore : (stored.map Record.uuid).Pairwise (· ≠ ·) := List.pairwise_map.mpr h.distinct
    rw [← Memory.map_modifyFirst hkeeps.uuid uuid stored] at hbefore
    exact List.pairwise_map.mp hbefore
  storable := Memory.forall_modifyFirst hkeeps.storable h.storable
  ascending := by
    have hbefore : (stored.map Record.id).Pairwise (· < ·) := List.pairwise_map.mpr h.ascending
    rw [← Memory.map_modifyFirst hid uuid stored] at hbefore
    exact List.pairwise_map.mp hbefore

theorem lt_greatestId (h : Holds stored folder) : ∀ r ∈ stored, r.id < greatestId stored + 1 :=
  lt_greatestId_of_sorted (h.ascending.imp Int.le_of_lt)

end Holds

/-! ## The same answers as in memory -/

/-- A store in memory with these records, that goes on numbering behind the last of them. -/
def memoryOf (stored : List Record) : Memory := ⟨greatestId stored, stored⟩

/-- An identifier that a request gives can be read back. -/
def ReadableReply : (q : Request) → Reply q → Prop
  | .insert _, .ok id => id ≤ greatestReadable
  | _, _ => True

/-- The reply is that of a store in memory, and the folder then holds what that store does. -/
def AnswersAs (q : Request) (stored : List Record) (outcome : Reply q × Folder) : Prop :=
  outcome.1 = ((memoryOf stored).answer q).1 ∧ Holds ((memoryOf stored).answer q).2.records outcome.2

namespace Holds

variable {stored : List Record} {folder : Folder} (root : String)

theorem modify_answers (h : Holds stored folder) {uuid : String} (hkey : isKey uuid) (hshort : Short uuid)
    {change : Record → Record} (hkeeps : Keeps change) (hid : ∀ r, (change r).id = r.id) :
    ((Directory.modify root uuid change).run Folder.answer folder).1 =
        .ok ((memoryOf stored).modify uuid change).1 ∧
      Holds ((memoryOf stored).modify uuid change).2.records
        ((Directory.modify root uuid change).run Folder.answer folder).2 := by
  rw [Directory.modify, run_bind, h.fetchOne root hkey hshort, Memory.modify, Memory.find?, memoryOf]
  cases hfind : stored.find? (·.uuid = uuid) with
  | none => exact ⟨rfl, h⟩
  | some r =>
    have huuid : (change r).uuid = uuid := by
      rw [hkeeps.uuid]
      simpa using List.find?_some hfind
    have hwrite := h.write root (change r) (by rwa [huuid]) (by rwa [huuid])
    dsimp only
    rw [run_bind, hwrite, huuid, set_filesOf hkeeps.uuid hfind]
    exact ⟨rfl, h.modifyFirst hkeeps hid uuid⟩

/-- A new record is numbered behind the last one. -/
theorem insert_run (h : Holds stored folder) {record : Record} (hkey : isKey record.uuid) (hshort : Short record.uuid) :
    (Directory.insert root record).run Folder.answer folder =
      match stored.find? (·.uuid = record.uuid) with
      | some _ => (.error (.conflict record.uuid), folder)
      | none => (.ok (greatestId stored + 1), .present ((filesOf stored).set (recordName record.uuid)
          (.file (Record.encode { record with id := greatestId stored + 1 }).toUTF8))) := by
  rw [Directory.insert, run_withKey, if_pos hkey, run_step, h.probe hshort]
  cases hfind : stored.find? (·.uuid = record.uuid) with
  | some r => rfl
  | none =>
    dsimp only [id, Option.isSome_none]
    rw [if_neg Bool.false_ne_true, run_bind, h.readAll root]
    dsimp only
    rw [run_bind, h.write root { record with id := greatestId stored + 1 } hkey hshort]
    rfl

theorem insert_answers (h : Holds stored folder) {record : Record} (hvalid : (Request.insert record).Timely)
    (hkey : isKey record.uuid) (hshort : Short record.uuid)
    (hreadable : ReadableReply (.insert record) ((Directory.insert root record).run Folder.answer folder).1) :
    AnswersAs (.insert record) stored ((Directory.insert root record).run Folder.answer folder) := by
  rw [h.insert_run root hkey hshort] at hreadable ⊢
  rw [AnswersAs, Memory.answer, Memory.find?, memoryOf]
  cases hfind : stored.find? (·.uuid = record.uuid) with
  | some r => exact ⟨rfl, h⟩
  | none =>
    rw [hfind] at hreadable
    have hlower := le_greatestId h.storable
    exact ⟨rfl, h.append { record with id := greatestId stored + 1 } hkey hshort
      ⟨hlower, hreadable, hvalid.1, hvalid.2⟩ hfind h.lt_greatestId⟩

/-- Identifiers can be read back until there are too many of them. -/
theorem readableReply (h : Holds stored folder) {q : Request} (hkeys : ∀ uuid ∈ q.uuid?, isKey uuid ∧ Short uuid)
    (hbound : greatestId stored < greatestReadable) : ReadableReply q (handle root q folder).1 := by
  cases q with
  | insert record =>
    obtain ⟨hkey, hshort⟩ := hkeys record.uuid rfl
    rw [handle, answer, h.insert_run root hkey hshort]
    cases stored.find? (·.uuid = record.uuid) with
    | some r => trivial
    | none => exact Int.add_one_le_iff.mpr hbound
  | _ => trivial

theorem delete_answers (h : Holds stored folder) {uuid : String} (hkey : isKey uuid) (hshort : Short uuid) :
    AnswersAs (.delete uuid) stored ((Directory.delete root uuid).run Folder.answer folder) := by
  rw [Directory.delete, run_withKey, if_pos hkey, run_step, h.remove hshort, AnswersAs, Memory.answer, Memory.find?,
    memoryOf]
  cases hfind : stored.find? (·.uuid = uuid) with
  | some r => exact ⟨rfl, h.filter uuid⟩
  | none =>
    have hsame : stored.filter (·.uuid ≠ uuid) = stored := by
      rw [List.filter_eq_self]
      simpa using hfind
    refine ⟨rfl, ?_⟩
    change Holds (stored.filter (·.uuid ≠ uuid)) folder
    rw [hsame]
    exact h

/-- A folder that holds records and nothing else answers as a store in memory does. -/
theorem answers (h : Holds stored folder) {q : Request} (hvalid : q.Timely)
    (hkeys : ∀ uuid ∈ q.uuid?, isKey uuid ∧ Short uuid) (hreadable : ReadableReply q (handle root q folder).1) :
    AnswersAs q stored (handle root q folder) := by
  cases q with
  | fetchAll =>
    rw [handle, answer, h.readAll root]
    exact ⟨rfl, h⟩
  | fetchOne uuid =>
    obtain ⟨hkey, hshort⟩ := hkeys uuid rfl
    rw [handle, answer, h.fetchOne root hkey hshort]
    exact ⟨rfl, h⟩
  | insert record =>
    obtain ⟨hkey, hshort⟩ := hkeys record.uuid rfl
    exact h.insert_answers root hvalid hkey hshort hreadable
  | update record =>
    obtain ⟨hkey, hshort⟩ := hkeys record.uuid rfl
    exact h.modify_answers root hkey hshort (keeps_withChange hvalid) fun _ => rfl
  | delete uuid =>
    obtain ⟨hkey, hshort⟩ := hkeys uuid rfl
    exact h.delete_answers root hkey hshort
  | setLocked uuid locked =>
    obtain ⟨hkey, hshort⟩ := hkeys uuid rfl
    exact h.modify_answers root hkey hshort (keeps_withLock locked) fun _ => rfl

end Holds

end Dashboards.Store.Directory
