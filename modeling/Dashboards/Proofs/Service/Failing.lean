import Dashboards.Proofs.Service.ReadBack
import Dashboards.Proofs.Service.Requests
import Dashboards.Proofs.Store.Writing
import Mathlib

/-!
# Calls that fail

* `Memory.answer_eq_of_not_done` : a request that was not done has changed nothing, in memory;
* `Vain` : a request found nothing to change; `Concludes` : a program ends with the request that
  changes something, in success if it was done (`task_concludes`);
* `Call.newUuid?`, `Call.HasRoom` : what the folder has to allow; `answer_eq_of_not_done` : a request of
  a call that was not done has changed nothing;
* `run_eq_of_error` : a program that concludes and fails has changed nothing;
* `astray` : a folder that holds a record in the file of another;
* `failure_changes_nothing` : no call that fails changes anything, and reading never does
  (`stray_update_changes_nothing`), unless a record cannot be written to its own file
  (`stray_draft_left`).
-/

namespace Dashboards.Store

/-- A request that was not done has changed nothing. -/
theorem Memory.answer_eq_of_not_done {q : Request} {m : Memory} (h : ¬Done q (m.answer q).1) : (m.answer q).2 = m := by
  have hmodify : ∀ {uuid : String} {change : Record → Record}, (m.modify uuid change).1 ≠ true →
      (m.modify uuid change).2 = m := by
    intro uuid change hne
    unfold Memory.modify at hne ⊢
    split_ifs at hne ⊢
    · exact absurd rfl hne
    · rfl
  cases q with
  | fetchAll => rfl
  | fetchOne uuid => rfl
  | insert record =>
    rw [Memory.answer] at h ⊢
    split_ifs at h ⊢
    · rfl
    · exact absurd trivial h
  | update record => exact hmodify h
  | delete uuid =>
    have hnone : ¬(m.find? uuid).isSome = true := h
    change m.without uuid = m
    unfold Memory.without
    rw [List.filter_eq_self.mpr]
    simpa [Memory.find?] using hnone
  | setLocked uuid locked => exact hmodify h

/-- The store was asked to change a record, and there is none. -/
def Vain : (q : Request) → Reply q → Prop
  | .update _, .ok found => found = false
  | .delete _, .ok found => found = false
  | .setLocked _ _, .ok found => found = false
  | _, _ => False

end Dashboards.Store

namespace Dashboards.Service

open Json Store
open Files (Folder Entries)

/-! ## How programs end -/

/-- A program ends in success with the request that was done, and where nothing was found to change, it
fails to find the uuid that it is about. -/
def Concludes (about : Option String) {α : Type} : Task α → Prop
  | .done _ => True
  | .ask q next => ∀ reply, (Done q reply → ∃ result, next reply = .done (.ok result)) ∧
      (Vain q reply → ∃ uuid ∈ about, next reply = .done (.error (.notFound uuid))) ∧ Concludes about (next reply)

section Concludes

variable {α β : Type} {about : Option String}

/-- A request that changes nothing may be followed by any program that concludes. -/
theorem concludes_ask {q : Request} {outcome : Reply q → Except StoreFailure α} {next : α → Task β}
    (hdone : ∀ reply, ¬Done q reply) (hvain : ∀ reply, ¬Vain q reply) (hnext : ∀ a, Concludes about (next a)) :
    Concludes about (ask q outcome next) := by
  intro reply
  refine ⟨fun h => absurd h (hdone reply), fun h => absurd h (hvain reply), ?_⟩
  dsimp only
  cases outcome reply with
  | error failure => trivial
  | ok a => exact hnext a

theorem concludes_fetchAll (result : List Record → α) :
    Concludes about (ask .fetchAll id fun records => .done (.ok (result records))) :=
  concludes_ask (fun _ => id) (fun _ => id) fun _ => trivial

theorem concludes_require {check : Except Document.Flaw α} {next : α → Task β}
    (hnext : ∀ a, Concludes about (next a)) : Concludes about (require check next) := by
  cases check with
  | error flaw => trivial
  | ok a => exact hnext a

theorem concludes_withRecord {uuid : String} {next : Record → Task α}
    (hnext : ∀ record, Concludes about (next record)) : Concludes about (withRecord uuid next) := by
  apply concludes_ask (fun _ => id) (fun _ => id)
  intro found
  cases found with
  | none => trivial
  | some record => exact hnext record

theorem concludes_unlessLocked {record : Record} {uuid : String} {user : Option String} {next : Task α}
    (hnext : Concludes about next) : Concludes about (unlessLocked record uuid user next) := by
  unfold unlessLocked
  split_ifs
  · trivial
  · exact hnext

/-- A program that ends with the change of a record, or does not find it. -/
theorem concludes_change {q : Request} {outcome : Reply q → Except StoreFailure Bool} {uuid : String} {result : α}
    (h : ∀ reply, (Done q reply → outcome reply = .ok true) ∧ (Vain q reply → outcome reply = .ok false)) :
    Concludes (some uuid) (ask q outcome fun
      | true => .done (.ok result)
      | false => fail (.notFound uuid)) := by
  intro reply
  obtain ⟨hdone, hvain⟩ := h reply
  dsimp only
  refine ⟨fun hd => ⟨result, ?_⟩, fun hv => ⟨uuid, rfl, ?_⟩, ?_⟩
  · rw [hdone hd]
  · rw [hvain hv]
    rfl
  · cases outcome reply with
    | error failure => trivial
    | ok found => cases found <;> trivial

end Concludes

/-- The uuid that a call is about, if it is given one. -/
def Call.uuid? : Call → Option String
  | .get uuid => some uuid
  | .update _ uuid _ _ => some uuid
  | .delete uuid _ => some uuid
  | .setLocked uuid _ => some uuid
  | _ => none

theorem update_concludes (now : Timestamp) (uuid : String) (data : Value) (user : Option String) :
    Concludes (some uuid) (Service.update now uuid data user) := by
  unfold Service.update
  apply concludes_require
  intro _
  apply concludes_withRecord
  intro record
  apply concludes_unlessLocked
  apply concludes_require
  intro document
  cases Document.checkRemoval document data with
  | error excess => trivial
  | ok removed => exact concludes_change (by rintro (failure | _ | _) <;> simp [Done, Vain])

theorem delete_concludes (uuid : String) (user : Option String) :
    Concludes (some uuid) (Service.delete uuid user) := by
  unfold Service.delete
  apply concludes_withRecord
  intro record
  apply concludes_unlessLocked
  exact concludes_change (by rintro (failure | _ | _) <;> simp [Done, Vain])

theorem setLocked_concludes (uuid : String) (locked : Bool) :
    Concludes (some uuid) (Service.setLocked uuid locked) :=
  concludes_change (by rintro (failure | _ | _) <;> simp [Done, Vain])

theorem create_concludes (now : Timestamp) (freshUuid : String) (data : Value) (user : Option String) :
    Concludes none (Service.create now freshUuid data user) := by
  unfold Service.create
  apply concludes_require
  intro _ reply
  cases reply with
  | error failure => exact ⟨False.elim, False.elim, trivial⟩
  | ok id => exact ⟨fun _ => ⟨_, rfl⟩, False.elim, trivial⟩

/-- Every call ends with the request that changes something. -/
theorem task_concludes (c : Call) : Concludes c.uuid? c.task := by
  cases c with
  | create now freshUuid data user => exact create_concludes now freshUuid data user
  | list => exact concludes_fetchAll _
  | get uuid => exact concludes_withRecord fun _ => concludes_require fun _ => trivial
  | update now uuid data user => exact update_concludes now uuid data user
  | delete uuid user => exact delete_concludes uuid user
  | setLocked uuid locked => exact setLocked_concludes uuid locked
  | report detector => exact concludes_fetchAll _
  | metricUsage metrics => exact concludes_fetchAll _

/-! ## Failing without a change -/

/-- A program that fails has changed nothing, if requests that are not done change nothing. -/
theorem run_eq_of_error {α : Type} {asks : List Exchange → Request → Prop} {about : Option String} {b : Backend}
    (hsame : ∀ past q, asks past q → ¬Done q (b.answer q).1 → (b.answer q).2 = b) {p : Task α} {failure : Failure} :
    ∀ {past}, Follows asks past p → Concludes about p → (p.run Backend.answer b).1 = .error failure →
      (p.run Backend.answer b).2 = b := by
  induction p with
  | done outcome => exact fun _ _ _ => rfl
  | ask q next ih =>
    intro past hfollows hconcludes hfails
    obtain ⟨hdone, -, hrest⟩ := hconcludes (b.answer q).1
    rw [Program.run_ask] at hfails ⊢
    by_cases h : Done q (b.answer q).1
    · obtain ⟨result, hresult⟩ := hdone h
      rw [hresult] at hfails
      cases hfails
    · rw [hsame past q hfollows.1 h] at hfails ⊢
      exact ih _ (hfollows.2 _) hrest hfails

/-- The uuid under which a call stores a new record. -/
def Call.newUuid? : Call → Option String
  | .create _ freshUuid data _ => some ((ownUuid? data).getD freshUuid)
  | _ => none

/-- Nothing stands in the way of the files that the call may write. -/
def Call.HasRoom (c : Call) : Backend → Prop
  | .memory _ => True
  | .directory _ folder => Directory.Housed folder ∧ ∀ uuid ∈ c.newUuid?, Directory.Roomy folder uuid

theorem Call.Asks.newUuid {c : Call} {past : List Exchange} {record : Record} (h : c.Asks past (.insert record)) :
    record.uuid ∈ c.newUuid? := by
  obtain ⟨now, freshUuid, data, user, rfl, rfl⟩ := h.created
  rfl

theorem answer_eq_of_not_done {c : Call} {b : Backend} (hroom : c.HasRoom b) {past : List Exchange} {q : Request}
    (hasks : c.Asks past q) (h : ¬Done q (b.answer q).1) : (b.answer q).2 = b := by
  cases b with
  | memory m => exact congrArg Backend.memory (Memory.answer_eq_of_not_done h)
  | directory root folder =>
    refine congrArg (Backend.directory root) (Directory.handle_eq_of_not_done root hroom.1 ?_ h)
    rintro record rfl
    exact hroom.2 _ hasks.newUuid

/-- The call only reads. -/
def Call.Reads : Call → Prop
  | .list | .get _ | .report _ | .metricUsage _ => True
  | _ => False

theorem next_eq_of_reads {c : Call} (h : c.Reads) (b : Backend) : c.next b = b := by
  cases c with
  | list => exact fetchAll_run id b
  | get uuid => exact get_run uuid b
  | report detector => exact fetchAll_run (Analytics.Report.ofRecords detector) b
  | metricUsage metrics => exact fetchAll_run (Analytics.Index.ofRecords metrics) b
  | _ => exact h.elim

/-! ## A record in the file of another -/

/-- The record of a uuid that is not the one of its file. -/
def stray : Record := createdRecord .newYear "b" titled none 1

theorem stray_storable : stray.Storable :=
  ⟨by decide, by decide, Timestamp.newYear_isValid, Timestamp.newYear_isValid⟩

/-- The file of `a` holds the record of `b`. -/
def astray (entries : Entries) : Folder := .present (("a.json", .file stray.encode.toUTF8) :: entries)

theorem view_astray (entries : Entries) : Directory.view (astray entries) "a" = some stray := by
  rw [Directory.view_of_isKey (by decide)]
  exact Directory.recordOf?_encode stray_storable

theorem view_astray_of_ne {uuid : String} (h : uuid ≠ "a") : Directory.view (astray []) uuid = none := by
  have hnode : (astray []).node? (Directory.recordName uuid) = none := by
    refine if_neg fun heq => h ?_
    exact Directory.recordName_injective (heq.symm : _ = Directory.recordName "a")
  rw [Directory.view, Folder.content?_eq_none_of_node? hnode]
  split_ifs <;> rfl

theorem housed_astray : Directory.Housed (astray []) := by
  intro uuid record hrecord _
  by_cases huuid : uuid = "a"
  · subst huuid
    rw [view_astray] at hrecord
    obtain rfl := Option.some.inj hrecord
    rfl
  · rw [view_astray_of_ne huuid] at hrecord
    cases hrecord

/-! ## Calls -/

/-- A call that fails has changed nothing, whatever is stored, and a call that reads changes nothing at
all. In a folder, files must be able to stand under the names of the records that are written. -/
theorem failure_changes_nothing (c : Call) (b : Backend) :
    (c.Reads → c.next b = b) ∧
      (c.HasRoom b → ∀ failure, (c.run b).1 = .error failure → c.next b = b) := by
  refine ⟨fun h => next_eq_of_reads h b, fun hroom failure hfails => ?_⟩
  exact run_eq_of_error (fun _ _ => answer_eq_of_not_done hroom) (task_follows c) (task_concludes c) hfails

/-- An update finds the record in the file of `a`, and no record `b` to change. -/
theorem stray_update_changes_nothing : ∃ failure,
    ((Call.update .newYear "a" titled none).run (.directory "r" (astray []))).1 = .error failure ∧
      (Call.update .newYear "a" titled none).next (.directory "r" (astray [])) = .directory "r" (astray []) := by
  have hview : (Backend.directory "r" (astray [])).view "a" = some stray := view_astray []
  have hadmits : Admits stray none := fun h => by cases h.1
  have hreplaces : Replaces stray titled := ⟨titled, [], titled_parses, rfl⟩
  have hrun : (Call.update .newYear "a" titled none).run (.directory "r" (astray [])) = _ :=
    update_admitted hview rfl hadmits hreplaces .newYear
  obtain ⟨failure, hfails⟩ : ∃ failure,
      ((Call.update .newYear "a" titled none).run (.directory "r" (astray []))).1 = .error failure := by
    have hnone : Directory.view (astray []) "b" = none := view_astray_of_ne (by decide)
    have hne : ((Backend.directory "r" (astray [])).answer (.update (updatedRecord stray .newYear titled none))).1 ≠
        .ok true := (Directory.modify_of_none hnone "r" (·.withChange (updatedRecord stray .newYear titled none))).2
    rw [hrun]
    dsimp only
    split
    · next hreply => exact absurd hreply hne
    · exact ⟨_, rfl⟩
    · exact ⟨_, rfl⟩
  exact ⟨failure, hfails, (failure_changes_nothing _ _).2 ⟨housed_astray, fun uuid h => by cases h⟩ failure hfails⟩

/-- The record that the file of `a` holds cannot be written where a folder is, and its draft is left. -/
theorem stray_draft_left : ∃ failure,
    ((Call.setLocked "a" true).run (.directory "r" (astray [("b.json", .folder [])]))).1 = .error failure ∧
      (Call.setLocked "a" true).next (.directory "r" (astray [("b.json", .folder [])])) ≠
        .directory "r" (astray [("b.json", .folder [])]) := by
  have hview := view_astray [("b.json", .folder [])]
  have hwritten := Directory.writeRecord_written "r" (stray.withLock true) (astray [("b.json", .folder [])])
  obtain ⟨hreply, hfolder⟩ := hwritten.eq_of_fault (by decide) rfl rfl
  have hanswer : (Backend.directory "r" (astray [("b.json", .folder [])])).answer (.setLocked "a" true) = _ :=
    congrArg (fun outcome => (outcome.1, Backend.directory "r" outcome.2))
      (Directory.modify_of_some hview "r" (·.withLock true))
  rw [Call.next, Call.run, Call.task, setLocked_run, hanswer, hreply, hfolder]
  refine ⟨_, rfl, fun h => ?_⟩
  injection h with _ h
  have hnone : (astray [("b.json", .folder [])]).node? (Directory.draftName "b") = none := rfl
  rw [← h] at hnone
  cases Files.Entries.find?_set_self.symm.trans hnone

end Dashboards.Service
