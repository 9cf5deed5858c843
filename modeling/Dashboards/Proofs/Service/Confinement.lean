import Dashboards.Proofs.Service.Failing
import Mathlib

/-!
# Writes to one record

* `Confined` : no entry of a folder differs but the file of one uuid, and its draft may be gone;
* `modify_confined`, `setLocked_confined`, `update_confined` : requests and calls that change a record,
  where the file of the uuid holds no record of another uuid;
* `fetchOne_relocked` : a lock that was set is read back;
* `setLocked_written`, `update_written` : where a record is written, whatever file it was read from;
* `writes_stay_confined` : nothing else is changed, and the files of locked records stay as they are
  (`own_lock_is_set`), unless a record is in the file of another (`stray_writes_escape`).
-/

namespace Dashboards.Store.Directory

open Files (Folder)

/-- Nothing differs but the file of the uuid; its draft may be gone. -/
structure Confined (uuid : String) (folder folder' : Folder) : Prop where
  others : ∀ name, name ≠ draftName uuid → name ≠ recordName uuid → folder'.node? name = folder.node? name
  draft : folder'.node? (draftName uuid) = folder.node? (draftName uuid) ∨ folder'.node? (draftName uuid) = none

section Confined

variable {uuid : String} {folder : Folder}

theorem Confined.refl (uuid : String) (folder : Folder) : Confined uuid folder folder where
  others _ _ _ := rfl
  draft := .inl rfl

/-- The file of another record stays as it is. -/
theorem Confined.record {folder' : Folder} (h : Confined uuid folder folder') {other : String} (hne : other ≠ uuid) :
    folder'.node? (recordName other) = folder.node? (recordName other) :=
  h.others _ (recordName_ne_draftName other uuid) fun heq => hne (recordName_injective heq)

variable (hown : ∀ record, view folder uuid = some record → record.uuid = uuid) (root : String)

include hown

theorem modify_confined {change : Record → Record} (hchange : ∀ r, (change r).uuid = r.uuid) :
    Confined uuid folder ((modify root uuid change).run Folder.answer folder).2 := by
  cases hstored : view folder uuid with
  | none =>
    rw [(modify_of_none hstored root change).1]
    exact .refl uuid folder
  | some stored =>
    have huuid : (change stored).uuid = uuid := (hchange stored).trans (hown stored hstored)
    have hwritten := writeRecord_written root (change stored) folder
    rw [modify_of_some hstored]
    generalize (writeRecord root (change stored)).run Folder.answer folder = outcome at hwritten
    obtain ⟨reply, folder'⟩ := outcome
    cases reply with
    | ok _ =>
      constructor
      · intro name hdraft hrecord
        rw [← huuid] at hdraft hrecord
        exact hwritten.node?_of_ne hdraft hrecord
      · right
        rw [← huuid]
        exact hwritten.node?_draft
    | error failure =>
      have hsame : folder' = folder := by
        refine hwritten.eq_of_error fun _ => ?_
        rw [huuid]
        exact target_of_view hstored
      subst hsame
      exact .refl uuid folder'

/-- A lock that was set is read back. -/
theorem fetchOne_relocked {locked : Bool} (hok : (handle root (.setLocked uuid locked) folder).1 = .ok true) :
    ∃ record, (handle root (.fetchOne uuid) (handle root (.setLocked uuid locked) folder).2).1 = .ok (some record) ∧
      record.locked = locked := by
  have hmodified := modified root hown (keeps_withLock locked)
  rw [show ((modify root uuid (·.withLock locked)).run Folder.answer folder).1 = .ok true from hok] at hmodified
  obtain ⟨stored, -, hview⟩ := hmodified
  refine ⟨stored.withLock locked, ?_, rfl⟩
  refine (fetchOne_finds root uuid _).complete _ ?_
  exact (congrFun hview uuid).trans (Function.update_self uuid _ _)

end Confined

end Dashboards.Store.Directory

namespace Dashboards.Service

open Json Store Directory
open Files (Folder)

theorem reply_of_setLocked {uuid : String} {locked : Bool} {b : Backend}
    (h : ((Call.setLocked uuid locked).run b).1 = .ok ()) : (b.answer (.setLocked uuid locked)).1 = .ok true := by
  rw [Call.run, Call.task, setLocked_run] at h
  dsimp only at h
  split at h
  · assumption
  · cases h
  · cases h

section Confined

variable {uuid : String} {folder : Folder} (hown : ∀ record, view folder uuid = some record → record.uuid = uuid)
  (root : String)

include hown

theorem setLocked_confined (locked : Bool) :
    ∃ folder', (Call.setLocked uuid locked).next (.directory root folder) = .directory root folder' ∧
      Confined uuid folder folder' ∧
      (((Call.setLocked uuid locked).run (.directory root folder)).1 = .ok () →
        ∃ record, (handle root (.fetchOne uuid) folder').1 = .ok (some record) ∧ record.locked = locked) := by
  refine ⟨(handle root (.setLocked uuid locked) folder).2, ?_, modify_confined hown root fun _ => rfl, fun hok => ?_⟩
  · rw [Call.next, Call.run, Call.task, setLocked_run]
    rfl
  · exact fetchOne_relocked hown root (reply_of_setLocked hok)

theorem update_confined (now : Timestamp) (data : Value) (user : Option String) :
    ∃ folder', (Call.update now uuid data user).next (.directory root folder) = .directory root folder' ∧
      Confined uuid folder folder' ∧
      (user.isSome → ∀ other record, recordOf? (folder.content? (recordName other)) = some record → record.locked →
        folder'.node? (recordName other) = folder.node? (recordName other)) := by
  rcases update_run now uuid data user (.directory root folder) with
    ⟨failure, hrun⟩ | ⟨record, hrecord, hobject, hadmits, hreplaces⟩
  · refine ⟨folder, ?_, .refl uuid folder, fun _ _ _ _ _ => rfl⟩
    exact congrArg Prod.snd hrun
  · have huuid : (updatedRecord record now data user).uuid = uuid := hown record hrecord
    have hconfined : Confined uuid folder (handle root (.update (updatedRecord record now data user)) folder).2 := by
      rw [handle, answer, huuid]
      exact modify_confined hown root fun _ => rfl
    refine ⟨_, congrArg Prod.snd (update_admitted hrecord hobject hadmits hreplaces now), hconfined, ?_⟩
    intro huser other stored hstored hlocked
    refine hconfined.record ?_
    rintro rfl
    -- the locked record would be the one that was found, which lets no user change it
    rw [← view_of_isKey (isKey_of_view hrecord)] at hstored
    obtain rfl := Option.some.inj (hstored.symm.trans hrecord)
    exact hadmits ⟨huser, hlocked⟩

end Confined

/-! ## Where records are written -/

section Written

variable {uuid : String} {folder : Folder} {stored : Record} {root : String}

/-- A lock is set in the file of the uuid that the record carries. -/
theorem setLocked_written (hstored : view folder uuid = some stored) {locked : Bool}
    (hwrite : ((writeRecord root (stored.withLock locked)).run Folder.answer folder).1 = .ok ()) :
    ((Call.setLocked uuid locked).run (.directory root folder)).1 = .ok () ∧
      ∃ folder', (Call.setLocked uuid locked).next (.directory root folder) = .directory root folder' ∧
        view folder' = Function.update (view folder) stored.uuid (some (stored.withLock locked)) := by
  have hstorable := (keeps_withLock locked).storable stored (storable_of_view hstored)
  obtain ⟨hdone, hview⟩ := modify_view hstored (·.withLock locked) hstorable hwrite
  refine ⟨?_, _, ?_, hview⟩
  · rw [Call.run, Call.task, setLocked_run, Backend.answer, handle, answer, hdone]
  · rw [Call.next, Call.run, Call.task, setLocked_run, Backend.answer, handle, answer]

/-- So is the document of an update, even if it was another file that was checked. -/
theorem update_written {record : Record} (hrecord : view folder uuid = some record) {data : Value}
    (hobject : data.isObject) {user : Option String} (hadmits : Admits record user) (hreplaces : Replaces record data)
    {now : Timestamp} (hnow : now.isValid) (hstored : view folder record.uuid = some stored)
    (hwrite : ((writeRecord root (stored.withChange (updatedRecord record now data user))).run Folder.answer folder).1 =
      .ok ()) :
    ∃ folder', (Call.update now uuid data user).next (.directory root folder) = .directory root folder' ∧
      view folder' = Function.update (view folder) stored.uuid
        (some (stored.withChange (updatedRecord record now data user))) := by
  have hkeeps : Keeps (·.withChange (updatedRecord record now data user)) := keeps_withChange hnow
  have hstorable := hkeeps.storable stored (storable_of_view hstored)
  obtain ⟨-, hview⟩ := modify_view hstored (·.withChange (updatedRecord record now data user)) hstorable hwrite
  have hrun := update_admitted (b := .directory root folder) hrecord hobject hadmits hreplaces now
  exact ⟨_, congrArg Prod.snd hrun, hview⟩

end Written

/-! ## A record in its own file, and in that of another -/

/-- The record of `b` is in its own file. -/
def settled : Folder := .present [fileOf stray]

theorem view_settled : view settled "b" = some stray := by
  have hcontent : settled.content? (recordName "b") = some stray.encode.toUTF8 := rfl
  rw [view_of_isKey (by decide), hcontent, recordOf?_encode stray_storable]

/-- The record of `b` is locked in its own file, and not locked in the file of `a`. -/
def copied : Folder := astray [("b.json", .file (stray.withLock true).encode.toUTF8)]

theorem view_copied : view copied "b" = some (stray.withLock true) := by
  have hcontent : copied.content? (recordName "b") = some (stray.withLock true).encode.toUTF8 := rfl
  rw [view_of_isKey (by decide), hcontent, recordOf?_encode ((keeps_withLock true).storable stray stray_storable)]

theorem write_copied (record : Record) (huuid : record.uuid = "b") :
    ((writeRecord "r" record).run Folder.answer copied).1 = .ok () := by
  refine (writeRecord_written "r" record copied).eq_ok ?_ rfl ?_ ?_ <;> rw [huuid] <;> rfl

/-! ## All that is changed -/

/-- Where the file of a uuid holds no record of another uuid, changing its record leaves all else in the
folder as it is. No user's update changes the file of a locked record, and a lock that was set is read
back. -/
theorem writes_stay_confined {uuid : String} {folder : Folder}
    (hown : ∀ record, view folder uuid = some record → record.uuid = uuid) (root : String) :
    (∀ record, record.uuid = uuid → Confined uuid folder (handle root (.update record) folder).2) ∧
    (∀ locked, Confined uuid folder (handle root (.setLocked uuid locked) folder).2) ∧
    (∀ locked, ∃ folder', (Call.setLocked uuid locked).next (.directory root folder) = .directory root folder' ∧
      Confined uuid folder folder' ∧
      (((Call.setLocked uuid locked).run (.directory root folder)).1 = .ok () →
        ∃ record, (handle root (.fetchOne uuid) folder').1 = .ok (some record) ∧ record.locked = locked)) ∧
    ∀ now data user, ∃ folder', (Call.update now uuid data user).next (.directory root folder) =
        .directory root folder' ∧ Confined uuid folder folder' ∧
      (user.isSome → ∀ other record, recordOf? (folder.content? (recordName other)) = some record → record.locked →
        folder'.node? (recordName other) = folder.node? (recordName other)) := by
  refine ⟨?_, fun _ => ?_, setLocked_confined hown root, update_confined hown root⟩
  · rintro record rfl
    exact modify_confined hown root fun _ => rfl
  · exact modify_confined hown root fun _ => rfl

/-- A record in its own file is locked and read back. -/
theorem own_lock_is_set : ∃ folder', (Call.setLocked "b" true).next (.directory "r" settled) = .directory "r" folder' ∧
    Confined "b" settled folder' ∧
    ∃ record, (handle "r" (.fetchOne "b") folder').1 = .ok (some record) ∧ record.locked = true := by
  have hown : ∀ record, view settled "b" = some record → record.uuid = "b" := by
    intro record hrecord
    obtain rfl := Option.some.inj (view_settled.symm.trans hrecord)
    rfl
  have hwrite := (writeRecord_written "r" (stray.withLock true) settled).eq_ok (by decide) rfl rfl rfl
  obtain ⟨-, -, hset, -⟩ := writes_stay_confined hown "r"
  obtain ⟨folder', hnext, hconfined, hread⟩ := hset true
  exact ⟨folder', hnext, hconfined, hread (setLocked_written view_settled hwrite).1⟩

/-- A user's update of `a` changes the file of `b`, which is locked; locking `a` succeeds and locks the
file of `b`, and `a` is read as it was. -/
theorem stray_writes_escape :
    (view copied "b" = some (stray.withLock true) ∧
      ∃ folder', (Call.update .newYear "a" titled (some "x")).next (.directory "r" copied) = .directory "r" folder' ∧
        view folder' "b" ≠ some (stray.withLock true)) ∧
    ((Call.setLocked "a" true).run (.directory "r" copied)).1 = .ok () ∧
      ∃ folder', (Call.setLocked "a" true).next (.directory "r" copied) = .directory "r" folder' ∧
        (handle "r" (.fetchOne "a") folder').1 = .ok (some stray) ∧ stray.locked = false := by
  have hview : view copied "a" = some stray := view_astray _
  have hadmits : Admits stray (some "x") := fun h => by cases h.2
  have hreplaces : Replaces stray titled := ⟨titled, [], titled_parses, rfl⟩
  have hchange := write_copied ((stray.withLock true).withChange (updatedRecord stray .newYear titled (some "x"))) rfl
  obtain ⟨folder', hnext, hafter⟩ := update_written hview rfl hadmits hreplaces Timestamp.newYear_isValid view_copied
    hchange
  have hlock := write_copied (stray.withLock true) rfl
  obtain ⟨hok, folder'', hnext', hafter'⟩ := setLocked_written hview hlock
  refine ⟨⟨view_copied, folder', hnext, fun h => ?_⟩, hok, folder'', hnext', ?_, rfl⟩
  · rw [hafter] at h
    have huser := congrArg (Option.map Record.updatedBy) ((Function.update_self "b" _ _).symm.trans h)
    cases huser
  · refine (fetchOne_finds "r" "a" folder'').complete stray ?_
    rw [hafter', ← hview]
    exact Function.update_of_ne (by decide) _ _

end Dashboards.Service
