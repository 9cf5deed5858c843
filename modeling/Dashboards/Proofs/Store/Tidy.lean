import Dashboards.Proofs.Store.Backend
import Dashboards.Proofs.Store.Writing
import Mathlib

/-!
# Stores without files that hold no record

* `Directory.Tidy` : under the name of a record stands that record or nothing; `Tidy.of_same` : what
  keeps it so;
* `Tidy.write`, `Tidy.modify`, `Tidy.insert`, `Tidy.delete`, `Tidy.handle` : requests do;
* `Tidy.modify_absent` : a record that is not there is not found, and nothing fails;
* `Backend.Tidy`, `Backend.Serves` : stores of either kind, and the uuids that they can hold
  (`answer_tidy`, `serves_answer`, `serves_of_view`); `answer_update_absent`.
-/

namespace Dashboards.Store.Directory

open Files (Folder Entries)

/-- A folder can be there, and no file of it has the name of a record and holds none. -/
structure Tidy (folder : Folder) : Prop where
  opened : folder.opened?.isSome
  absent : ∀ uuid, isKey uuid → view folder uuid = none → folder.node? (recordName uuid) = none

variable {root uuid : String} {folder folder' : Folder}

namespace Tidy

theorem missing : Tidy .missing := ⟨rfl, fun _ _ _ => rfl⟩

theorem empty : Tidy (.present []) := ⟨rfl, fun _ _ _ => rfl⟩

/-- What stands under the name of a record that cannot be found has not changed, or is gone. -/
theorem of_same (h : Tidy folder) (hopen : folder'.opened?.isSome)
    (hsame : ∀ uuid, view folder' uuid = none → folder'.node? (recordName uuid) = folder.node? (recordName uuid) ∨
      folder'.node? (recordName uuid) = none) : Tidy folder' where
  opened := hopen
  absent uuid hkey hnone := by
    rcases hsame uuid hnone with hnode | hnode
    · rw [view_of_isKey hkey, Folder.content?_congr hnode, ← view_of_isKey hkey] at hnone
      rw [hnode]
      exact h.absent uuid hkey hnone
    · exact hnode

theorem write {record : Record} {reply : Except StoreFailure Unit} (h : Tidy folder)
    (hwritten : Written root record folder reply folder') (hfound : reply = .ok () → view folder' record.uuid ≠ none) :
    Tidy folder' := by
  refine h.of_same (hwritten.opened h.opened) fun uuid hnone => .inl ?_
  by_cases huuid : uuid = record.uuid
  · subst huuid
    cases reply with
    | ok _ => exact absurd hnone (hfound rfl)
    | error failure => exact hwritten.node?_record_of_error
  · exact hwritten.node?_of_ne (recordName_ne_draftName _ _) fun heq => huuid (recordName_injective heq)

theorem modify (h : Tidy folder) (root uuid : String) {change : Record → Record} (hkeeps : Keeps change) :
    Tidy ((Directory.modify root uuid change).run Folder.answer folder).2 := by
  cases hstored : view folder uuid with
  | none =>
    rw [(modify_of_none hstored root change).1]
    exact h
  | some stored =>
    have hstorable := hkeeps.storable stored (storable_of_view hstored)
    rw [modify_of_some hstored]
    refine h.write (writeRecord_written root (change stored) folder) fun hwrite => ?_
    have hview := (modify_view hstored change hstorable hwrite).2
    rw [modify_of_some hstored] at hview
    rw [hview, Function.update_self]
    exact Option.some_ne_none _

theorem insert (h : Tidy folder) (root : String) {record : Record} (hrecord : (Request.insert record).Timely)
    (hreadable : ReadableReply (.insert record) ((Directory.insert root record).run Folder.answer folder).1) :
    Tidy ((Directory.insert root record).run Folder.answer folder).2 := by
  rcases insert_cases root record folder with ⟨hsame, -⟩ | ⟨records, -, -, hrun⟩
  · rw [hsame]
    exact h
  · have heffect := insert_effect root hrecord folder
    have hwritten := writeRecord_written root { record with id := greatestId records + 1 } folder
    rw [hrun] at heffect hreadable ⊢
    refine h.write hwritten fun hwrite => ?_
    rw [hwrite] at heffect hreadable
    obtain ⟨-, hview | ⟨hunread, -⟩⟩ := heffect
    · intro hnone
      rw [hview, Function.update_self] at hnone
      cases hnone
    · exact absurd hreadable (not_le.mpr hunread)

theorem delete (h : Tidy folder) (root uuid : String) :
    Tidy ((Directory.delete root uuid).run Folder.answer folder).2 := by
  rcases delete_cases root uuid folder with ⟨hsame, -⟩ | ⟨entries, rfl, -, hfolder⟩
  · rw [hsame]
    exact h
  · rw [hfolder]
    refine h.of_same rfl fun other _ => ?_
    by_cases hname : recordName other = recordName uuid
    · right
      rw [hname]
      exact Entries.find?_erase_self
    · left
      exact Entries.find?_erase_of_ne hname

theorem handle (h : Tidy folder) (root : String) {q : Request} (hq : q.Timely)
    (hreadable : ReadableReply q (Directory.handle root q folder).1) : Tidy (Directory.handle root q folder).2 := by
  cases q with
  | fetchAll =>
    rw [Directory.handle, answer, (readAll_run root folder).1]
    exact h
  | fetchOne uuid =>
    rw [Directory.handle, answer, (fetchOne_finds root uuid folder).same]
    exact h
  | insert record => exact h.insert root hq hreadable
  | update record => exact h.modify root record.uuid (keeps_withChange hq)
  | delete uuid => exact h.delete root uuid
  | setLocked uuid locked => exact h.modify root uuid (keeps_withLock locked)

theorem fetchOne_absent (h : Tidy folder) (root : String) (hkey : isKey uuid) (hshort : Short uuid)
    (hnone : view folder uuid = none) :
    (Directory.fetchOne root uuid).run Folder.answer folder = (.ok none, folder) := by
  have hread : (Folder.answer (.read (recordName uuid)) folder).1 = .error .notFound := by
    have hnode := h.absent uuid hkey hnone
    have hopen := h.opened
    cases folder with
    | missing => rfl
    | blocked fault => cases hopen
    | present entries =>
      have hslot := slot_recordName hshort entries
      rw [show entries.find? (recordName uuid) = none from hnode] at hslot
      simp only [Folder.answer, Folder.slot, hslot]
      rfl
  rw [fetchOne, run_withKey, if_pos hkey, readRecord_run, hread]
  rfl

theorem modify_absent (h : Tidy folder) (root : String) (hkey : isKey uuid) (hshort : Short uuid)
    (hnone : view folder uuid = none) (change : Record → Record) :
    (Directory.modify root uuid change).run Folder.answer folder = (.ok false, folder) := by
  rw [Directory.modify, run_bind, h.fetchOne_absent root hkey hshort hnone]
  rfl

end Tidy

end Dashboards.Store.Directory

namespace Dashboards.Store.Backend

def Tidy : Backend → Prop
  | .memory _ => True
  | .directory _ folder => Directory.Tidy folder

/-- A record of that uuid can be stored. -/
def Serves (uuid : String) : Backend → Prop
  | .memory _ => True
  | .directory _ _ => Directory.isKey uuid ∧ Directory.Short uuid

variable {b : Backend} {uuid : String}

theorem Fresh.tidy (h : b.Fresh) : b.Tidy := by
  cases h with
  | memory => trivial
  | missing root => exact .missing
  | present root => exact .empty

theorem answer_tidy (h : b.Tidy) {q : Request} (hq : q.Timely)
    (hreadable : Directory.ReadableReply q (b.answer q).1) : (b.answer q).2.Tidy := by
  cases b with
  | memory m => trivial
  | directory root folder => exact Directory.Tidy.handle h root hq hreadable

theorem serves_answer {q : Request} (h : b.Serves uuid) : (b.answer q).2.Serves uuid := by
  cases b with
  | memory m => trivial
  | directory root folder => exact h

theorem serves_of_view {record : Record} (h : b.view uuid = some record) : b.Serves uuid := by
  cases b with
  | memory m => trivial
  | directory root folder => exact ⟨Directory.isKey_of_view h, Directory.short_of_view h⟩

/-- An update of a record that is not there changes nothing and says so. -/
theorem answer_update_absent (h : b.Tidy) {record : Record} (hserves : b.Serves record.uuid)
    (hnone : b.view record.uuid = none) : b.answer (.update record) = (.ok false, b) := by
  cases b with
  | memory m =>
    have hfind : m.find? record.uuid = none := hnone
    simp [answer, Memory.answer, Memory.modify, hfind]
  | directory root folder =>
    have hrun := Directory.Tidy.modify_absent h root hserves.1 hserves.2 hnone (·.withChange record)
    rw [answer, Directory.handle, Directory.answer, hrun]

end Dashboards.Store.Backend
