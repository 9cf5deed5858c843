import Dashboards.Proofs.Store.Interruption
import Mathlib

/-!
# What holds of all documents that are stored

* `Brings` : a request brings only documents that have the property, if it brings any;
* `Memory.Carries`, `Directory.Carries`, `Backend.Carries` : all documents that are listed have it, and
  a folder is one of files that can be read;
* `Directory.Carries.of_files` : what keeps it where some files differ;
* `Backend.Carries.answer` : it is kept by every request that brings nothing else;
* `Backend.Carries.view`, `Backend.Carries.fetchAll` : every record that is found has it, and all
  records are listed;
* `Backend.Carries.update_found` : a record that is found can be updated.
-/

namespace Dashboards.Store

open Files (Folder Entries Node)

/-- A document that the request brings has the property. -/
def Request.Brings (P : String → Prop) : Request → Prop
  | .insert record => P record.data
  | .update record => P record.data
  | _ => True

/-! ## In memory -/

/-- All documents have the property. -/
def Memory.Carries (P : String → Prop) (m : Memory) : Prop := ∀ r ∈ m.records, P r.data

theorem Memory.Carries.modify {P : String → Prop} {m : Memory} (h : m.Carries P) (uuid : String)
    (change : Record → Record) (hchange : ∀ r : Record, P r.data → P (change r).data) :
    (m.modify uuid change).2.Carries P := by
  unfold Memory.modify
  split_ifs
  · exact Memory.forall_modifyFirst hchange h
  · exact h

theorem Memory.Carries.answer {P : String → Prop} {m : Memory} (h : m.Carries P) {q : Request} (hq : q.Brings P) :
    (m.answer q).2.Carries P := by
  cases q with
  | fetchAll => exact h
  | fetchOne uuid => exact h
  | insert record =>
    rw [Memory.answer]
    split_ifs
    · exact h
    · intro r hr
      rcases List.mem_append.mp hr with hr | hr
      · exact h r hr
      · obtain rfl := List.mem_singleton.mp hr
        exact hq
  | update record => exact h.modify record.uuid (·.withChange record) fun _ _ => hq
  | delete uuid => exact fun r hr => h r (List.mem_filter.mp hr).1
  | setLocked uuid locked => exact h.modify uuid (·.withLock locked) fun _ hr => hr

/-! ## In a folder -/

namespace Directory

variable {P : String → Prop} {root : String} {folder folder' : Folder} {record : Record}

/-- The folder holds files only, those of records are text, and their documents have the property. -/
structure Carries (P : String → Prop) (folder : Folder) : Prop where
  plain : Plain folder
  legible : Legible folder
  data : ∀ name ∈ namesIn folder, ∀ r, recordOf? (folder.content? name) = some r → P r.data

namespace Carries

theorem opened (h : Carries P folder) : folder.opened?.isSome := by
  obtain ⟨entries, hopen, -⟩ := h.plain
  rw [hopen]
  rfl

/-- It is enough to look at the files that differ. -/
theorem of_files (h : Carries P folder) (hplain : Plain folder')
    (hfiles : ∀ name ∈ namesIn folder', folder'.node? name = folder.node? name ∨
      TextUnder folder' name ∧ ∀ r, recordOf? (folder'.content? name) = some r → P r.data) : Carries P folder' := by
  have hboth : ∀ name ∈ namesIn folder',
      TextUnder folder' name ∧ ∀ r, recordOf? (folder'.content? name) = some r → P r.data := by
    intro name hname
    rcases hfiles name hname with hsame | hnew
    · obtain ⟨hjson, hnode⟩ := mem_namesIn_iff.mp hname
      rw [hsame] at hnode
      have hmem := mem_namesIn_iff.mpr ⟨hjson, hnode⟩
      unfold TextUnder
      rw [Folder.content?_congr hsame]
      exact ⟨h.legible name hmem, h.data name hmem⟩
    · exact hnew
  exact ⟨hplain, fun name hname => (hboth name hname).1, fun name hname => (hboth name hname).2⟩

theorem missing : Carries P .missing where
  plain := (Left.missing : Left "" .missing).plain
  legible _ hname := absurd hname List.not_mem_nil
  data _ hname := absurd hname List.not_mem_nil

theorem empty : Carries P (.present []) where
  plain := (Left.empty : Left "" (.present [])).plain
  legible _ hname := absurd hname List.not_mem_nil
  data _ hname := absurd hname List.not_mem_nil

/-- Writing keeps it, if what the record is read as has the property. -/
theorem write {reply : Except StoreFailure Unit} (h : Carries P folder)
    (hwritten : Written root record folder reply folder') (hplain : Plain folder')
    (hrecord : ∀ r, recordOf? (some record.encode.toUTF8) = some r → P r.data) : Carries P folder' := by
  refine h.of_files hplain fun name hname => ?_
  have hjson := (mem_namesIn_iff.mp hname).1
  cases reply with
  | error failure => exact .inl (hwritten.node?_of_error hjson)
  | ok _ =>
    by_cases hne : name = recordName record.uuid
    · right
      subst hne
      unfold TextUnder
      rw [hwritten.content?_record]
      exact ⟨⟨_, _, rfl, Files.textOf_toUTF8 _⟩, hrecord⟩
    · exact .inl (hwritten.node?_of_ne (ne_draftName_of_hasExtension hjson _) hne)

theorem view (h : Carries P folder) {uuid : String} (hview : view folder uuid = some record) : P record.data := by
  have hkey := isKey_of_view hview
  rw [view_of_isKey hkey] at hview
  obtain ⟨bytes, hbytes, -⟩ := Option.bind_eq_some_iff.mp hview
  exact h.data _ (mem_namesIn hkey hbytes) record hview

theorem modify (h : Carries P folder) {uuid : String} {change : Record → Record} (hkeeps : Keeps change)
    (hchange : ∀ r : Record, P r.data → P (change r).data)
    (hplain : Plain ((Directory.modify root uuid change).run Folder.answer folder).2) :
    Carries P ((Directory.modify root uuid change).run Folder.answer folder).2 := by
  cases hstored : Directory.view folder uuid with
  | none =>
    rw [(modify_of_none hstored root change).1]
    exact h
  | some stored =>
    rw [modify_of_some hstored] at hplain ⊢
    refine h.write (writeRecord_written root (change stored) folder) hplain fun r hr => ?_
    rw [recordOf?_encode (hkeeps.storable stored (storable_of_view hstored))] at hr
    obtain rfl := Option.some.inj hr
    exact hchange stored (h.view hstored)

theorem insert (h : Carries P folder) (hrecord : (Request.insert record).Timely) (hdata : P record.data)
    (hplain : Plain ((Directory.insert root record).run Folder.answer folder).2) :
    Carries P ((Directory.insert root record).run Folder.answer folder).2 := by
  rcases insert_cases root record folder with ⟨hsame, -⟩ | ⟨records, hrecords, -, hrun⟩
  · rw [hsame]
    exact h
  · have hlower := le_greatestId ((readAll_run root folder).2 records hrecords)
    rw [hrun] at hplain ⊢
    refine h.write (writeRecord_written root { record with id := greatestId records + 1 } folder) hplain fun r hr => ?_
    rcases le_or_gt (greatestId records + 1) greatestReadable with hid | hid
    · have hstorable : Record.Storable { record with id := greatestId records + 1 } :=
        ⟨hlower, hid, hrecord.1, hrecord.2⟩
      rw [recordOf?_encode hstorable] at hr
      obtain rfl := Option.some.inj hr
      exact hdata
    · rw [recordOf?_encode_eq_none hid] at hr
      cases hr

theorem delete (h : Carries P folder) {uuid : String}
    (hplain : Plain ((Directory.delete root uuid).run Folder.answer folder).2) :
    Carries P ((Directory.delete root uuid).run Folder.answer folder).2 := by
  rcases delete_cases root uuid folder with ⟨hsame, -⟩ | ⟨entries, rfl, -, hfolder⟩
  · rw [hsame]
    exact h
  · rw [hfolder] at hplain ⊢
    refine h.of_files hplain fun name hname => .inl (Entries.find?_erase_of_ne ?_)
    rintro rfl
    have hnode := (mem_namesIn_iff.mp hname).2
    rw [show (Folder.present (entries.erase (recordName uuid))).node? (recordName uuid) = none from
      Entries.find?_erase_self] at hnode
    cases hnode

theorem handle (h : Carries P folder) (root : String) {q : Request} (hq : q.Timely) (hbrings : q.Brings P) :
    Carries P (Directory.handle root q folder).2 := by
  have hplain : Plain (Directory.handle root q folder).2 := h.plain.cutOff (cutOff_run (answer root q) folder)
  cases q with
  | fetchAll =>
    rw [Directory.handle, answer, (readAll_run root folder).1]
    exact h
  | fetchOne uuid =>
    rw [Directory.handle, answer, (fetchOne_finds root uuid folder).same]
    exact h
  | insert record => exact h.insert hq hbrings hplain
  | update record => exact h.modify (keeps_withChange hq) (fun _ _ => hbrings) hplain
  | delete uuid => exact h.delete hplain
  | setLocked uuid locked => exact h.modify (keeps_withLock locked) (fun _ hr => hr) hplain

/-- A record that carries the name of its file can be written again. -/
theorem modify_found (h : Carries P folder) {uuid : String} {change : Record → Record}
    (hchange : ∀ r, (change r).uuid = r.uuid) (hview : Directory.view folder uuid = some record)
    (hown : record.uuid = uuid) :
    ((Directory.modify root uuid change).run Folder.answer folder).1 = .ok true := by
  have huuid : (change record).uuid = uuid := by rw [hchange, hown]
  have hshort := short_of_view hview
  have hwritten := writeRecord_written root (change record) folder
  obtain ⟨entries, hopen, hfiles⟩ := h.plain
  rw [modify_of_some hview, hwritten.eq_ok (by rw [huuid]; exact isKey_of_view hview) hopen]
  · rfl
  · rw [huuid]
    exact target_draftName hshort hfiles.find?
  · rw [huuid]
    exact target_recordName hshort hfiles.find?

end Carries

end Directory

/-! ## Stores of either kind -/

namespace Backend

variable {P : String → Prop} {b : Backend}

/-- All documents that are stored have the property, and all records can be listed. -/
def Carries (P : String → Prop) : Backend → Prop
  | .memory m => m.Carries P
  | .directory _ folder => Directory.Carries P folder

theorem Fresh.carries (h : b.Fresh) : b.Carries P := by
  cases h with
  | memory => exact fun r hr => absurd hr List.not_mem_nil
  | missing root => exact Directory.Carries.missing
  | present root => exact Directory.Carries.empty

/-- A request keeps it that brings only such documents. -/
theorem Carries.answer (h : b.Carries P) {q : Request} (hq : q.Timely) (hbrings : q.Brings P) :
    (b.answer q).2.Carries P := by
  cases b with
  | memory m => exact Memory.Carries.answer h hbrings
  | directory root folder => exact Directory.Carries.handle h root hq hbrings

theorem Carries.view (h : b.Carries P) {uuid : String} {record : Record} (hview : b.view uuid = some record) :
    P record.data := by
  cases b with
  | memory m => exact h record (List.mem_of_find?_eq_some hview)
  | directory root folder => exact Directory.Carries.view h hview

theorem Carries.fetchAll (h : b.Carries P) :
    ∃ records, (b.answer .fetchAll).1 = .ok records ∧ ∀ r ∈ records, P r.data := by
  cases b with
  | memory m => exact ⟨m.records, rfl, h⟩
  | directory root folder =>
    refine ⟨_, congrArg Prod.fst (Directory.readAll_legible (Directory.Carries.opened h) h.legible root), ?_⟩
    intro r hr
    obtain ⟨name, hname, hread⟩ := List.mem_filterMap.mp ((Directory.sortById_perm _).subset hr)
    exact h.data name hname r hread

/-- A record that is found under its own uuid can be updated. -/
theorem Carries.update_found (h : b.Carries P) {record stored : Record} (hview : b.view record.uuid = some stored)
    (hown : stored.uuid = record.uuid) : (b.answer (.update record)).1 = .ok true := by
  cases b with
  | memory m =>
    have hfound : m.find? record.uuid = some stored := hview
    change Except.ok (m.modify record.uuid _).1 = _
    simp [Memory.modify, hfound]
  | directory root folder => exact Directory.Carries.modify_found h (fun _ => rfl) hview hown

end Backend

end Dashboards.Store
