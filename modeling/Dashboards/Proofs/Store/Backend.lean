import Dashboards.Proofs.Store.Directory
import Dashboards.Proofs.Store.Memory
import Mathlib

/-!
# Stores of either kind

* `Exchange` : a request with its reply;
* `Backend` : a store in memory, or one in a folder, with `Backend.answer` and `Backend.view`;
* `Backend.Fresh` : a store that nothing was stored in;
* `answer_effect` : every request does what it should;
* `answer_fetchOne` : a record is found exactly if it is there, and reading changes nothing.
-/

namespace Dashboards.Store

/-- A request and the reply to it. -/
structure Exchange where
  request : Request
  reply : Reply request

inductive Backend where
  | memory (m : Memory)
  /-- A folder that is shown under the path `root`. -/
  | directory (root : String) (folder : Files.Folder)

namespace Backend

/-- The reply to a request and the store after it. -/
def answer (q : Request) : Backend → Reply q × Backend
  | .memory m => ((m.answer q).1, .memory (m.answer q).2)
  | .directory root folder =>
    ((Directory.handle root q folder).1, .directory root (Directory.handle root q folder).2)

/-- The record of each uuid. -/
def view : Backend → View
  | .memory m => m.find?
  | .directory _ folder => Directory.view folder

/-- Nothing was stored yet; a folder need not even be there. -/
inductive Fresh : Backend → Prop where
  | memory : Fresh (.memory .empty)
  | missing (root : String) : Fresh (.directory root .missing)
  | present (root : String) : Fresh (.directory root (.present []))

theorem Fresh.view_eq {b : Backend} (h : b.Fresh) : b.view = fun _ => none := by
  funext uuid
  cases h with
  | memory => rfl
  | missing root =>
    change (if _ then Directory.recordOf? none else none) = none
    split_ifs <;> rfl
  | present root =>
    change (if _ then Directory.recordOf? ((Files.Folder.present []).content? _) else none) = none
    rw [Files.Folder.content?_present_nil]
    split_ifs <;> rfl

theorem Fresh.named {b : Backend} (h : b.Fresh) : b.view.Named := by
  intro uuid record hrecord
  rw [h.view_eq] at hrecord
  cases hrecord

/-- Every request does what it should. -/
theorem answer_effect {q : Request} (hq : q.Timely) {b : Backend} (hb : b.view.Named) :
    Effect q (b.answer q).1 b.view (b.answer q).2.view := by
  cases b with
  | memory m => exact Memory.answer_effect q m
  | directory root folder => exact Directory.answer_effect root hq hb

/-- Reading one record changes nothing. -/
theorem answer_fetchOne (uuid : String) (b : Backend) : (b.answer (.fetchOne uuid)).2 = b := by
  cases b with
  | memory m => rfl
  | directory root folder => exact congrArg (directory root) (Directory.fetchOne_finds root uuid folder).same

/-- Reading all records changes nothing. -/
theorem answer_fetchAll (b : Backend) : (b.answer .fetchAll).2 = b := by
  cases b with
  | memory m => rfl
  | directory root folder => exact congrArg (directory root) (Directory.readAll_run root folder).1

/-- A record that is there is found. -/
theorem answer_fetchOne_some {uuid : String} {b : Backend} {record : Record} (h : b.view uuid = some record) :
    (b.answer (.fetchOne uuid)).1 = .ok (some record) := by
  cases b with
  | memory m => exact congrArg Except.ok h
  | directory root folder => exact (Directory.fetchOne_finds root uuid folder).complete record h

/-- A record that is not there is not found, whatever else the reply says. -/
theorem answer_fetchOne_none {uuid : String} {b : Backend} (h : b.view uuid = none) :
    (b.answer (.fetchOne uuid)).1 = .ok none ∨ ∃ failure, (b.answer (.fetchOne uuid)).1 = .error failure := by
  cases b with
  | memory m => exact .inl (congrArg Except.ok h)
  | directory root folder =>
    cases hreply : ((Directory.fetchOne root uuid).run Files.Folder.answer folder).1 with
    | error failure => exact .inr ⟨failure, hreply⟩
    | ok found =>
      rw [(Directory.fetchOne_finds root uuid folder).sound found hreply] at hreply
      exact .inl (hreply.trans (congrArg Except.ok h))

end Backend

end Dashboards.Store
