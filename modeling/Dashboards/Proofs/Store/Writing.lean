import Dashboards.Proofs.Files.Entry
import Dashboards.Proofs.Store.Holding
import Mathlib

/-!
# How a record is written

* `Written` : what writing a record comes to, one case for each step that may fail (`writeRecord_eq`,
  `writeRecord_written`); `Written.opened`, `node?_of_ne`, `node?_draft`, `eq_of_error`, `eq_of_fault` : what is
  left of the folder; `Written.eq_ok` : where the record is written;
* `modify_of_some`, `modify_of_none`, `insert_cases`, `delete_cases` : a request either changes nothing,
  or it writes one record, or removes one file; `modify_view` : the record that is found then;
* `Housed` : a file may stand under the name of every record; `Roomy` : under those of a new one, in a
  folder that is made for it (`target_recordName`, `target_draftName`);
* `handle_eq_of_not_done` : a request that was not done has changed nothing.
-/

namespace Dashboards.Store.Directory

open Files (Folder Fault Entries Node)

variable {root : String} {record : Record} {folder folder' : Folder}

/-! ## Writing a record -/

/-- What writing a record comes to: the reply and the folder after it. The folder is made, the draft is
written, and it takes the place of the record. -/
inductive Written (root : String) (record : Record) (folder : Folder) : Except StoreFailure Unit → Folder → Prop where
  | noKey : ¬isKey record.uuid → Written root record folder (.error (.invalidKey record.uuid)) folder
  | noFolder {fault : Fault} : folder.opened? = none → Written root record folder (.error (.io root fault)) folder
  | noDraft {entries : Entries} {fault : Fault} : isKey record.uuid → folder.opened? = some entries →
      (Folder.present entries).target (draftName record.uuid) = .error fault →
      Written root record folder (.error (.io (Files.join root (draftName record.uuid)) fault)) (.present entries)
  /-- The draft stays behind. -/
  | stuck {entries : Entries} {fault : Fault} : isKey record.uuid → folder.opened? = some entries →
      (Folder.present entries).target (recordName record.uuid) = .error fault →
      Written root record folder (.error (.io (Files.join root (recordName record.uuid)) fault))
        (.present (entries.set (draftName record.uuid) (.file record.encode.toUTF8)))
  | done {entries : Entries} : isKey record.uuid → folder.opened? = some entries →
      (Folder.present entries).target (recordName record.uuid) = .ok () →
      Written root record folder (.ok ()) (.present
        ((entries.erase (draftName record.uuid)).set (recordName record.uuid) (.file record.encode.toUTF8)))

/-- Writing a record fails at its draft, or at the record itself, or puts it in place. -/
theorem writeRecord_eq (root : String) {entries : Entries} (hkey : isKey record.uuid)
    (hopen : folder.opened? = some entries) :
    (writeRecord root record).run Folder.answer folder =
      match (Folder.present entries).target (draftName record.uuid),
        (Folder.present entries).target (recordName record.uuid) with
      | .error fault, _ => (.error (.io (Files.join root (draftName record.uuid)) fault), .present entries)
      | .ok (), .error fault => (.error (.io (Files.join root (recordName record.uuid)) fault),
          .present (entries.set (draftName record.uuid) (.file record.encode.toUTF8)))
      | .ok (), .ok () => (.ok (), .present
          ((entries.erase (draftName record.uuid)).set (recordName record.uuid) (.file record.encode.toUTF8))) := by
  rw [writeRecord, run_withKey, if_pos hkey, run_step, Folder.answer_make_of_opened? hopen]
  dsimp only [id]
  rw [run_step, Folder.answer_write_eq]
  cases hdraft : (Folder.present entries).target (draftName record.uuid) with
  | error fault => rfl
  | ok _ =>
    have hslot := Folder.slot_set_of_target hdraft record.encode.toUTF8
    dsimp only [id, Folder.mapEntries]
    rw [run_step, Folder.answer_rename_eq hslot, Folder.target_set_of_ne (recordName_ne_draftName _ _)]
    cases (Folder.present entries).target (recordName record.uuid) with
    | error fault => rfl
    | ok _ =>
      dsimp only [id, Folder.mapEntries]
      rw [Entries.erase_set_self]
      rfl

theorem writeRecord_written (root : String) (record : Record) (folder : Folder) :
    Written root record folder ((writeRecord root record).run Folder.answer folder).1
      ((writeRecord root record).run Folder.answer folder).2 := by
  by_cases hkey : isKey record.uuid
  · cases hopen : folder.opened? with
    | none =>
      cases folder with
      | blocked fault =>
        rw [writeRecord, run_withKey, if_pos hkey]
        exact .noFolder rfl
      | _ => cases hopen
    | some entries =>
      rw [writeRecord_eq root hkey hopen]
      split
      · next hdraft => exact .noDraft hkey hopen hdraft
      · next _ htarget => exact .stuck hkey hopen htarget
      · next _ htarget => exact .done hkey hopen htarget
  · rw [writeRecord, run_withKey, if_neg hkey]
    exact .noKey hkey

namespace Written

variable {reply : Except StoreFailure Unit} {failure : StoreFailure}

/-- A folder that can be made stays one. -/
theorem opened (h : Written root record folder reply folder') (hopen : folder.opened?.isSome) :
    folder'.opened?.isSome := by
  cases h with
  | noKey _ => exact hopen
  | noFolder _ => exact hopen
  | _ => rfl

/-- Only the two files of the record's uuid may differ. -/
theorem node?_of_ne (h : Written root record folder reply folder') {name : String}
    (hdraft : name ≠ draftName record.uuid) (hrecord : name ≠ recordName record.uuid) :
    folder'.node? name = folder.node? name := by
  cases h with
  | noKey _ => rfl
  | noFolder _ => rfl
  | noDraft _ hopen _ => exact (Folder.node?_of_opened? hopen name).symm
  | stuck _ hopen _ =>
    rw [Folder.node?_of_opened? hopen]
    exact Entries.find?_set_of_ne hdraft
  | done _ hopen _ =>
    rw [Folder.node?_of_opened? hopen, ← Entries.find?_erase_of_ne hdraft]
    exact Entries.find?_set_of_ne hrecord

/-- The draft of a record that was written is gone. -/
theorem node?_draft (h : Written root record folder (.ok ()) folder') :
    folder'.node? (draftName record.uuid) = none := by
  cases h with
  | done _ _ _ =>
    have hne := (recordName_ne_draftName record.uuid record.uuid).symm
    exact (Entries.find?_set_of_ne hne).trans Entries.find?_erase_self

/-- The record that was written is in its file. -/
theorem content?_record (h : Written root record folder (.ok ()) folder') :
    folder'.content? (recordName record.uuid) = some record.encode.toUTF8 := by
  cases h with
  | @done entries _ _ htarget =>
    have hslot : (entries.erase (draftName record.uuid)).slot (recordName record.uuid) =
        entries.slot (recordName record.uuid) :=
      Entries.slot_congr (Entries.find?_erase_of_ne (recordName_ne_draftName _ _))
    refine Folder.content?_of_slot (Folder.slot_set_of_target ?_ _)
    simp only [Folder.target, Folder.slot, hslot] at htarget ⊢
    exact htarget

/-- A record that could not be written is what it was. -/
theorem node?_record_of_error (h : Written root record folder (.error failure) folder') :
    folder'.node? (recordName record.uuid) = folder.node? (recordName record.uuid) := by
  cases h with
  | noKey _ => rfl
  | noFolder _ => rfl
  | noDraft _ hopen _ => exact (Folder.node?_of_opened? hopen _).symm
  | stuck _ hopen _ =>
    rw [Folder.node?_of_opened? hopen]
    exact Entries.find?_set_of_ne (recordName_ne_draftName _ _)

/-- Where a file may stand under the name of the record, a failure changes nothing. -/
theorem eq_of_error (h : Written root record folder (.error failure) folder')
    (htarget : isKey record.uuid → folder.target (recordName record.uuid) = .ok ()) : folder' = folder := by
  cases h with
  | noKey _ => rfl
  | noFolder _ => rfl
  | noDraft hkey hopen _ =>
    obtain ⟨entries, rfl⟩ := Folder.eq_present_of_target (htarget hkey)
    obtain rfl := Option.some.inj hopen
    rfl
  | stuck hkey hopen hfault =>
    obtain ⟨entries, rfl⟩ := Folder.eq_present_of_target (htarget hkey)
    obtain rfl := Option.some.inj hopen
    rw [htarget hkey] at hfault
    cases hfault

/-- Where files may stand under both names, the record is written. -/
theorem eq_ok {entries : Entries} (h : Written root record folder reply folder') (hkey : isKey record.uuid)
    (hopen : folder.opened? = some entries) (hdraft : (Folder.present entries).target (draftName record.uuid) = .ok ())
    (hrecord : (Folder.present entries).target (recordName record.uuid) = .ok ()) : reply = .ok () := by
  cases h with
  | noKey hnot => exact absurd hkey hnot
  | noFolder hnone => cases hopen.symm.trans hnone
  | noDraft _ hopen' hfault =>
    obtain rfl := Option.some.inj (hopen.symm.trans hopen')
    cases hdraft.symm.trans hfault
  | stuck _ hopen' hfault =>
    obtain rfl := Option.some.inj (hopen.symm.trans hopen')
    cases hrecord.symm.trans hfault
  | done _ _ _ => rfl

/-- The draft of a record that cannot take its place is left. -/
theorem eq_of_fault {entries : Entries} {fault : Fault} (h : Written root record (.present entries) reply folder')
    (hkey : isKey record.uuid) (hdraft : (Folder.present entries).target (draftName record.uuid) = .ok ())
    (hfault : (Folder.present entries).target (recordName record.uuid) = .error fault) :
    reply = .error (.io (Files.join root (recordName record.uuid)) fault) ∧
      folder' = .present (entries.set (draftName record.uuid) (.file record.encode.toUTF8)) := by
  cases h with
  | noKey hnot => exact absurd hkey hnot
  | noFolder hopen => cases hopen
  | noDraft _ hopen hnone =>
    obtain rfl := Option.some.inj hopen
    cases hdraft.symm.trans hnone
  | stuck _ hopen htarget =>
    obtain rfl := Option.some.inj hopen
    obtain rfl := Except.error.inj (hfault.symm.trans htarget)
    exact ⟨rfl, rfl⟩
  | done _ hopen htarget =>
    obtain rfl := Option.some.inj hopen
    cases hfault.symm.trans htarget

end Written

/-! ## Requests that write -/

/-- A record that is there is changed and written, under the uuid that it carries. -/
theorem modify_of_some {uuid : String} {stored : Record} (h : view folder uuid = some stored) (root : String)
    (change : Record → Record) :
    (modify root uuid change).run Folder.answer folder =
      (((writeRecord root (change stored)).run Folder.answer folder).1.map fun () => true,
        ((writeRecord root (change stored)).run Folder.answer folder).2) := by
  obtain ⟨hsame, -, hcomplete⟩ := fetchOne_finds root uuid folder
  rw [modify, run_bind, hsame, hcomplete stored h]
  dsimp only
  rw [run_bind]
  rfl

/-- Under that uuid it is found if it was written and can be read. -/
theorem modify_view {uuid : String} {stored : Record} (h : view folder uuid = some stored) (change : Record → Record)
    (hstorable : (change stored).Storable)
    (hwrite : ((writeRecord root (change stored)).run Folder.answer folder).1 = .ok ()) :
    ((modify root uuid change).run Folder.answer folder).1 = .ok true ∧
      view ((modify root uuid change).run Folder.answer folder).2 =
        Function.update (view folder) (change stored).uuid (some (change stored)) := by
  rw [modify_of_some h]
  rcases writeRecord_view root (change stored) folder with ⟨failure, folder', hrun, -⟩ | ⟨folder', hrun, hview⟩
  · rw [hrun] at hwrite
    cases hwrite
  · rw [recordOf?_encode hstorable] at hview
    rw [hrun]
    exact ⟨rfl, hview⟩

/-- Where there is no record, none is changed. -/
theorem modify_of_none {uuid : String} (h : view folder uuid = none) (root : String) (change : Record → Record) :
    ((modify root uuid change).run Folder.answer folder).2 = folder ∧
      ((modify root uuid change).run Folder.answer folder).1 ≠ .ok true := by
  obtain ⟨hsame, hsound, -⟩ := fetchOne_finds root uuid folder
  rw [modify, run_bind, hsame]
  cases hreply : ((fetchOne root uuid).run Folder.answer folder).1 with
  | error failure => exact ⟨rfl, fun h => by cases h⟩
  | ok found =>
    obtain rfl := (hsound _ hreply).trans h
    exact ⟨rfl, fun h => by cases h⟩

/-- Inserting changes nothing, or writes the new record where no file of its uuid was. -/
theorem insert_cases (root : String) (record : Record) (folder : Folder) :
    ((insert root record).run Folder.answer folder).2 = folder ∧
      (∀ id, ((insert root record).run Folder.answer folder).1 ≠ .ok id) ∨
    ∃ records, ((readAll root).run Folder.answer folder).1 = .ok records ∧
      (Folder.answer (.probe (recordName record.uuid)) folder).1 = .ok false ∧
      (insert root record).run Folder.answer folder =
        (((writeRecord root { record with id := greatestId records + 1 }).run Folder.answer folder).1.map
            fun () => greatestId records + 1,
          ((writeRecord root { record with id := greatestId records + 1 }).run Folder.answer folder).2) := by
  rw [insert, run_withKey]
  split_ifs
  · rw [run_step, (Folder.answer_probe folder _).1]
    cases hprobe : (Folder.answer (.probe (recordName record.uuid)) folder).1 with
    | error fault => exact .inl ⟨rfl, fun _ h => by cases h⟩
    | ok taken =>
      cases taken with
      | true => exact .inl ⟨rfl, fun _ h => by cases h⟩
      | false =>
        dsimp only [id]
        rw [if_neg Bool.false_ne_true, run_bind, (readAll_run root folder).1]
        cases hread : ((readAll root).run Folder.answer folder).1 with
        | error failure => exact .inl ⟨rfl, fun _ h => by cases h⟩
        | ok records =>
          right
          dsimp only
          rw [run_bind]
          exact ⟨records, rfl, rfl, rfl⟩
  · exact .inl ⟨rfl, fun _ h => by cases h⟩

/-- Deleting changes nothing, or removes one file. -/
theorem delete_cases (root uuid : String) (folder : Folder) :
    ((delete root uuid).run Folder.answer folder).2 = folder ∧
      ((delete root uuid).run Folder.answer folder).1 ≠ .ok true ∨
    ∃ entries, folder = .present entries ∧ ((delete root uuid).run Folder.answer folder).1 = .ok true ∧
      ((delete root uuid).run Folder.answer folder).2 = .present (entries.erase (recordName uuid)) := by
  rw [delete, run_withKey]
  split_ifs with hkey
  · rw [run_step]
    rcases Folder.answer_remove_eq folder (recordName uuid) with ⟨fault, hremove⟩ | ⟨entries, rfl, hremove⟩
    · left
      rw [hremove]
      cases fault <;> exact ⟨rfl, fun h => by cases h⟩
    · right
      rw [hremove]
      exact ⟨entries, rfl, rfl, rfl⟩
  · exact .inl ⟨rfl, fun h => by cases h⟩

/-! ## Requests that fail -/

/-- The file of a record that is there may be written anew. -/
theorem target_of_view {uuid : String} (h : view folder uuid = some record) :
    folder.target (recordName uuid) = .ok () := by
  rw [view_of_isKey (isKey_of_view h)] at h
  obtain ⟨bytes, hbytes, -⟩ := Option.bind_eq_some_iff.mp h
  exact Folder.target_of_content? hbytes

/-- A record is found under names that files may have. -/
theorem short_of_view {uuid : String} (h : view folder uuid = some record) : Short uuid := by
  obtain ⟨s, hslot, -⟩ := Folder.exists_slot_of_target (target_of_view h)
  have hsize := Folder.size_of_slot hslot
  rw [utf8ByteSize_recordName] at hsize
  exact hsize

/-- Whatever record the file of a uuid holds, a file may stand under that record's own name. -/
def Housed (folder : Folder) : Prop :=
  ∀ uuid record, view folder uuid = some record → isKey record.uuid →
    folder.target (recordName record.uuid) = .ok ()

theorem modify_eq_of_ne (hhoused : Housed folder) {uuid : String} {change : Record → Record}
    (hchange : ∀ r, (change r).uuid = r.uuid)
    (h : ((modify root uuid change).run Folder.answer folder).1 ≠ .ok true) :
    ((modify root uuid change).run Folder.answer folder).2 = folder := by
  cases hstored : view folder uuid with
  | none => exact (modify_of_none hstored root change).1
  | some stored =>
    have hwritten := writeRecord_written root (change stored) folder
    rw [modify_of_some hstored] at h ⊢
    cases hreply : ((writeRecord root (change stored)).run Folder.answer folder).1 with
    | ok _ =>
      rw [hreply] at h
      exact absurd rfl h
    | error failure =>
      rw [hreply] at hwritten
      refine hwritten.eq_of_error fun hkey => ?_
      rw [hchange] at hkey ⊢
      exact hhoused uuid stored hstored hkey

/-- There is room for the files of a new record, should its folder be made for it. -/
def Roomy (folder : Folder) (uuid : String) : Prop := folder = .missing → Short uuid

/-- Where no folder stands, a file may, under a name of usual length. -/
theorem target_of_size {name : String} (hlong : 3 ≤ name.utf8ByteSize) (hshort : name.utf8ByteSize ≤ Files.nameLimit)
    {entries : Entries} (h : ∀ inner, entries.find? name ≠ some (.folder inner)) :
    (Folder.present entries).target name = .ok () := by
  have hslot := slot_of_size hlong hshort entries
  simp only [Folder.target, Folder.slot, hslot]
  cases hfind : entries.find? name with
  | none => rfl
  | some node =>
    cases node with
    | file content => rfl
    | folder inner => exact absurd hfind (h inner)

theorem target_recordName {uuid : String} (h : Short uuid) {entries : Entries}
    (hfree : ∀ inner, entries.find? (recordName uuid) ≠ some (.folder inner)) :
    (Folder.present entries).target (recordName uuid) = .ok () := by
  have hsize := utf8ByteSize_recordName uuid
  unfold Short at h
  exact target_of_size (by omega) (by omega) hfree

theorem target_draftName {uuid : String} (h : Short uuid) {entries : Entries}
    (hfree : ∀ inner, entries.find? (draftName uuid) ≠ some (.folder inner)) :
    (Folder.present entries).target (draftName uuid) = .ok () := by
  have hsize := utf8ByteSize_draftName uuid
  unfold Short at h
  exact target_of_size (by omega) (by omega) hfree

theorem insert_eq_of_ne (hroomy : Roomy folder record.uuid)
    (h : ∀ id, ((insert root record).run Folder.answer folder).1 ≠ .ok id) :
    ((insert root record).run Folder.answer folder).2 = folder := by
  rcases insert_cases root record folder with ⟨hsame, -⟩ | ⟨records, -, hprobe, hrun⟩
  · exact hsame
  · have hwritten := writeRecord_written root { record with id := greatestId records + 1 } folder
    rw [hrun] at h ⊢
    generalize (writeRecord root { record with id := greatestId records + 1 }).run Folder.answer folder = outcome
      at h hwritten
    obtain ⟨reply, folder'⟩ := outcome
    cases reply with
    | ok _ => exact absurd rfl (h _)
    | error failure =>
      cases folder with
      | present entries => exact hwritten.eq_of_error fun _ => Folder.target_of_probe hprobe
      | blocked fault =>
        cases hwritten with
        | noKey _ => rfl
        | noFolder _ => rfl
        | noDraft _ hopen _ => cases hopen
        | stuck _ hopen _ => cases hopen
      | missing =>
        cases hwritten with
        | noKey _ => rfl
        | noFolder hopen => cases hopen
        | noDraft _ hopen hfault =>
          obtain rfl := Option.some.inj hopen
          rw [target_draftName (hroomy rfl) fun _ h => by cases h] at hfault
          cases hfault
        | stuck _ hopen hfault =>
          obtain rfl := Option.some.inj hopen
          rw [target_recordName (hroomy rfl) fun _ h => by cases h] at hfault
          cases hfault

/-- A request that was not done has changed nothing. -/
theorem handle_eq_of_not_done (root : String) (hhoused : Housed folder) {q : Request}
    (hroomy : ∀ record, q = .insert record → Roomy folder record.uuid)
    (h : ¬Done q (handle root q folder).1) : (handle root q folder).2 = folder := by
  cases q with
  | fetchAll => exact (readAll_run root folder).1
  | fetchOne uuid => exact (fetchOne_finds root uuid folder).same
  | insert record =>
    refine insert_eq_of_ne (hroomy record rfl) fun id hid => h ?_
    rw [show (handle root (.insert record) folder).1 = .ok id from hid]
    trivial
  | update record =>
    refine modify_eq_of_ne hhoused (fun _ => rfl) fun hdone => h ?_
    rw [show (handle root (.update record) folder).1 = .ok true from hdone]
    rfl
  | delete uuid =>
    rcases delete_cases root uuid folder with ⟨hsame, -⟩ | ⟨entries, -, hdone, -⟩
    · exact hsame
    · rw [show (handle root (.delete uuid) folder).1 = .ok true from hdone] at h
      exact absurd rfl h
  | setLocked uuid locked =>
    refine modify_eq_of_ne hhoused (fun _ => rfl) fun hdone => h ?_
    rw [show (handle root (.setLocked uuid locked) folder).1 = .ok true from hdone]
    rfl

end Dashboards.Store.Directory
