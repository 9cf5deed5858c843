import Dashboards.Proofs.Store.Backend
import Dashboards.Service
import Mathlib

/-!
# Calls of operations on dashboards

* `Call` : an operation with its arguments; `Call.run` : what comes of it on a store, and the store
  after it (`Call.next`);
* `Call.Timely` : the clock shows a time of the calendar; `Call.FromText` : a document was read from
  a text;
* `Call.Effect` : what an outcome tells about the records before and after the call;
* `run_ask`, `run_require`, `run_withRecord_some`, `run_withRecord_none`,
  `run_unlessLocked` : the steps of an operation;
* `create_effect`, `update_effect`, `delete_effect`, `setLocked_effect`, `run_effect` : every call does
  what it should.
-/

namespace Dashboards.Service

open Json Store

/-- An operation with its arguments, the clock and a fresh uuid among them. -/
inductive Call where
  | create (now : Timestamp) (freshUuid : String) (data : Value) (user : Option String)
  | list
  | get (uuid : String)
  | update (now : Timestamp) (uuid : String) (data : Value) (user : Option String)
  | delete (uuid : String) (user : Option String)
  | setLocked (uuid : String) (locked : Bool)
  | report (detector : Document.Detector)
  | metricUsage (metrics : List String)

namespace Call

/-- What an operation ends in if it succeeds. -/
@[reducible] def Outcome : Call → Type
  | create _ _ _ _ => Dashboard
  | list => List Record
  | get _ => Dashboard
  | update _ _ _ _ => Dashboard
  | delete _ _ => Unit
  | setLocked _ _ => Unit
  | report _ => Analytics.Report
  | metricUsage _ => Analytics.Index

def task : (c : Call) → Task c.Outcome
  | create now freshUuid data user => Service.create now freshUuid data user
  | list => Service.list
  | get uuid => Service.get uuid
  | update now uuid data user => Service.update now uuid data user
  | delete uuid user => Service.delete uuid user
  | setLocked uuid locked => Service.setLocked uuid locked
  | report detector => Service.report detector
  | metricUsage metrics => Service.metricUsage metrics

/-- What comes of a call, and the store after it. -/
def run (c : Call) (b : Backend) : Except Failure c.Outcome × Backend := c.task.run Backend.answer b

def next (c : Call) (b : Backend) : Backend := (c.run b).2

/-- The clock shows a time of the calendar. -/
def Timely : Call → Prop
  | create now _ _ _ => now.isValid
  | update now _ _ _ => now.isValid
  | _ => True

/-- The data that a call brings. -/
def data? : Call → Option Value
  | create _ _ data _ => some data
  | update _ _ data _ => some data
  | _ => none

/-- Data that is a document was read from a text. -/
def FromText (c : Call) : Prop :=
  ∀ data ∈ c.data?, data.isObject → ∃ text, Document.parse text = .ok data

end Call

/-- The record that a new dashboard is stored as. -/
def createdRecord (now : Timestamp) (freshUuid : String) (data : Value) (user : Option String) (id : Int) :
    Record :=
  { Record.fresh ((ownUuid? data).getD freshUuid) data.compact user now with id }

/-- A record with its document replaced. -/
def updatedRecord (record : Record) (now : Timestamp) (data : Value) (user : Option String) : Record :=
  { record with updatedAt := now, updatedBy := user, data := data.compact }

/-- The lock does not stop the user. -/
def Admits (record : Record) (user : Option String) : Prop := ¬(user.isSome ∧ record.locked)

/-- The new document may replace the one of the record. -/
def Replaces (record : Record) (data : Value) : Prop :=
  ∃ document removed, Document.parse record.data = .ok document ∧
    Document.checkRemoval document data = .ok removed

/-- What an outcome tells about the records before and after a call. -/
def Call.Effect : (c : Call) → Except Failure c.Outcome → View → View → Prop
  | .create now freshUuid data user, .ok dashboard, v, v' =>
    ∃ record, record = createdRecord now freshUuid data user record.id ∧
      dashboard = .ofRecord record data ∧ data.isObject ∧ v record.uuid = none ∧
      (v' = Function.update v record.uuid (some record) ∨ greatestReadable < record.id ∧ v' = v)
  | .update now uuid data user, .ok dashboard, v, v' =>
    ∃ record, v uuid = some record ∧ data.isObject ∧ Admits record user ∧ Replaces record data ∧
      dashboard = .ofRecord (updatedRecord record now data user) data ∧
      v' = Function.update v uuid (some (updatedRecord record now data user))
  | .delete uuid user, .ok _, v, v' =>
    ∃ record, v uuid = some record ∧ Admits record user ∧ v' = Function.update v uuid none
  | .setLocked uuid locked, .ok _, v, v' =>
    ∃ record, v uuid = some record ∧ v' = Function.update v uuid (some (record.withLock locked))
  | _, _, v, v' => v' = v

/-! ## Steps -/

section Steps

variable {α β : Type} (b : Backend)

theorem run_ask (q : Request) (outcome : Reply q → Except StoreFailure α) (next : α → Task β) :
    (ask q outcome next).run Backend.answer b =
      match outcome (b.answer q).1 with
      | .ok a => (next a).run Backend.answer (b.answer q).2
      | .error failure => (.error (.store failure), (b.answer q).2) := by
  rw [ask, Program.run_ask]
  change Program.run Backend.answer (match outcome (b.answer q).1 with
    | .ok a => next a
    | .error failure => fail (.store failure)) (b.answer q).2 = _
  cases outcome (b.answer q).1 <;> rfl

theorem run_require (check : Except Document.Flaw α) (next : α → Task β) :
    (require check next).run Backend.answer b =
      match check with
      | .ok a => (next a).run Backend.answer b
      | .error flaw => (.error (.invalidDocument flaw.message), b) := by
  cases check <;> rfl

theorem run_withRecord_some {uuid : String} {record : Record} (h : b.view uuid = some record)
    (next : Record → Task α) :
    (withRecord uuid next).run Backend.answer b = (next record).run Backend.answer b := by
  rw [withRecord, run_ask, Backend.answer_fetchOne, Backend.answer_fetchOne_some h]
  rfl

/-- How a call fails whose record is not there. -/
def fetchFailure (uuid : String) : Failure :=
  match (b.answer (.fetchOne uuid)).1 with
  | .error failure => .store failure
  | .ok _ => .notFound uuid

theorem run_withRecord_none {uuid : String} (h : b.view uuid = none) (next : Record → Task α) :
    (withRecord uuid next).run Backend.answer b = (.error (fetchFailure b uuid), b) := by
  rw [withRecord, run_ask, Backend.answer_fetchOne, fetchFailure]
  rcases Backend.answer_fetchOne_none h with hreply | ⟨failure, hreply⟩
  · rw [hreply]
    rfl
  · rw [hreply]
    rfl

theorem run_unlessLocked (record : Record) (uuid : String) (user : Option String) (next : Task α) :
    (unlessLocked record uuid user next).run Backend.answer b =
      if user.isSome && record.locked then (.error (.locked uuid), b)
      else next.run Backend.answer b := by
  rw [unlessLocked]
  split_ifs <;> rfl

end Steps

theorem admits_iff {record : Record} {user : Option String} :
    Admits record user ↔ (user.isSome && record.locked) = false := by
  cases user <;> simp [Admits]

/-! ## Operations -/

variable {b : Backend}

theorem isObject_of_checkRoot {data : Value} (h : Document.checkRoot data = .ok ()) : data.isObject := by
  by_contra hnot
  rw [Document.checkRoot, if_neg hnot] at h
  cases h

theorem isObject_of_checkNew {data : Value} (h : Document.checkNew data = .ok ()) : data.isObject := by
  by_contra hnot
  rw [Document.checkNew, Document.checkRoot, if_neg hnot] at h
  cases h

theorem create_run (now : Timestamp) (freshUuid : String) (data : Value) (user : Option String) (b : Backend) :
    (∃ failure, (Service.create now freshUuid data user).run Backend.answer b = (.error failure, b)) ∨
    data.isObject ∧ (Service.create now freshUuid data user).run Backend.answer b =
      ((b.answer (.insert (createdRecord now freshUuid data user 0))).1.mapError Failure.store |>.map
        fun id => .ofRecord (createdRecord now freshUuid data user id) data,
      (b.answer (.insert (createdRecord now freshUuid data user 0))).2) := by
  rw [Service.create, run_require]
  cases hcheck : Document.checkNew data with
  | error flaw => exact .inl ⟨_, rfl⟩
  | ok _ =>
    refine .inr ⟨isObject_of_checkNew hcheck, ?_⟩
    change (ask (.insert (createdRecord now freshUuid data user 0)) id _).run Backend.answer b = _
    rw [run_ask]
    dsimp only [id]
    cases (b.answer (.insert (createdRecord now freshUuid data user 0))).1 <;> rfl

theorem create_effect {now : Timestamp} (hnow : now.isValid) (hb : b.view.Named) (freshUuid : String)
    (data : Value) (user : Option String) :
    (Call.create now freshUuid data user).Effect
      ((Service.create now freshUuid data user).run Backend.answer b).1 b.view
      ((Service.create now freshUuid data user).run Backend.answer b).2.view := by
  rcases create_run now freshUuid data user b with ⟨failure, hrun⟩ | ⟨hobject, hrun⟩
  · rw [hrun]
    exact rfl
  · have heffect := Backend.answer_effect
      (q := .insert (createdRecord now freshUuid data user 0)) ⟨hnow, hnow⟩ hb
    rw [hrun]
    cases hreply : (b.answer (.insert (createdRecord now freshUuid data user 0))).1 with
    | error failure =>
      rw [hreply] at heffect
      exact heffect
    | ok id =>
      rw [hreply] at heffect
      exact ⟨createdRecord now freshUuid data user id, rfl, rfl, hobject, heffect⟩

/-- An update that lock and limit allow asks the store for the change. -/
theorem update_admitted {uuid : String} {record : Record} (hrecord : b.view uuid = some record) {data : Value}
    (hobject : data.isObject) {user : Option String} (hadmits : Admits record user) (hreplaces : Replaces record data)
    (now : Timestamp) :
    (Service.update now uuid data user).run Backend.answer b =
      (match (b.answer (.update (updatedRecord record now data user))).1 with
        | .ok true => .ok (.ofRecord (updatedRecord record now data user) data)
        | .ok false => .error (.notFound uuid)
        | .error failure => .error (.store failure),
      (b.answer (.update (updatedRecord record now data user))).2) := by
  obtain ⟨document, removed, hparse, hremoval⟩ := hreplaces
  have hcheck : Document.checkRoot data = .ok () := by
    rw [Document.checkRoot, if_pos hobject]
  have hlocked : ¬(user.isSome && record.locked) = true := by
    rw [admits_iff.mp hadmits]
    exact Bool.false_ne_true
  rw [Service.update, run_require, hcheck]
  dsimp only
  rw [run_withRecord_some b hrecord, run_unlessLocked, if_neg hlocked, run_require, hparse]
  dsimp only
  rw [hremoval]
  change (ask (.update (updatedRecord record now data user)) id _).run Backend.answer b = _
  rw [run_ask]
  dsimp only [id]
  cases (b.answer (.update (updatedRecord record now data user))).1 with
  | error failure => rfl
  | ok found => cases found <;> rfl

/-- An update either fails before it asks the store to change anything, or has passed all checks. -/
theorem update_run (now : Timestamp) (uuid : String) (data : Value) (user : Option String) (b : Backend) :
    (∃ failure, (Service.update now uuid data user).run Backend.answer b = (.error failure, b)) ∨
    ∃ record, b.view uuid = some record ∧ data.isObject ∧ Admits record user ∧ Replaces record data := by
  rw [Service.update, run_require]
  cases hcheck : Document.checkRoot data with
  | error flaw => exact .inl ⟨_, rfl⟩
  | ok _ =>
    dsimp only
    cases hrecord : b.view uuid with
    | none => exact .inl ⟨_, run_withRecord_none b hrecord _⟩
    | some record =>
      rw [run_withRecord_some b hrecord, run_unlessLocked]
      split_ifs with hlocked
      · exact .inl ⟨_, rfl⟩
      · rw [run_require]
        cases hparse : Document.parse record.data with
        | error flaw => exact .inl ⟨_, rfl⟩
        | ok document =>
          dsimp only
          cases hremoval : Document.checkRemoval document data with
          | error excess => exact .inl ⟨_, rfl⟩
          | ok removed =>
            exact .inr ⟨record, rfl, isObject_of_checkRoot hcheck, admits_iff.mpr (by simpa using hlocked),
              document, removed, hparse, hremoval⟩

theorem update_effect {now : Timestamp} (hnow : now.isValid) (hb : b.view.Named) (uuid : String)
    (data : Value) (user : Option String) :
    (Call.update now uuid data user).Effect
      ((Service.update now uuid data user).run Backend.answer b).1 b.view
      ((Service.update now uuid data user).run Backend.answer b).2.view := by
  rcases update_run now uuid data user b with ⟨failure, hrun⟩ | ⟨record, hrecord, hobject, hadmits, hreplaces⟩
  · rw [hrun]
    exact rfl
  · have huuid := hb uuid record hrecord
    have heffect : Modified record.uuid _ _ _ _ := Backend.answer_effect
      (q := .update (updatedRecord record now data user)) hnow hb
    rw [update_admitted hrecord hobject hadmits hreplaces]
    cases hreply : (b.answer (.update (updatedRecord record now data user))).1 with
    | error failure =>
      rw [hreply] at heffect
      exact heffect
    | ok found =>
      rw [hreply] at heffect
      cases found with
      | false => exact heffect.2
      | true =>
        obtain ⟨stored, hstored, hview⟩ := heffect
        rw [huuid] at hstored hview
        obtain rfl : record = stored := by
          rw [hrecord] at hstored
          exact Option.some.inj hstored
        exact ⟨record, hrecord, hobject, hadmits, hreplaces, rfl, hview⟩

theorem delete_effect (hb : b.view.Named) (uuid : String) (user : Option String) :
    (Call.delete uuid user).Effect ((Service.delete uuid user).run Backend.answer b).1 b.view
      ((Service.delete uuid user).run Backend.answer b).2.view := by
  rw [Service.delete]
  cases hrecord : b.view uuid with
  | none =>
    rw [run_withRecord_none b hrecord]
    exact rfl
  | some record =>
    rw [run_withRecord_some b hrecord, run_unlessLocked]
    split_ifs with hlocked
    · exact rfl
    · have heffect := Backend.answer_effect (q := .delete uuid) trivial hb
      rw [run_ask]
      cases hreply : (b.answer (.delete uuid)).1 with
      | error failure =>
        rw [hreply] at heffect
        exact heffect
      | ok found =>
        rw [hreply] at heffect
        cases found with
        | false => exact heffect.2
        | true => exact ⟨record, hrecord, admits_iff.mpr (by simpa using hlocked), heffect⟩

theorem setLocked_run (uuid : String) (locked : Bool) (b : Backend) :
    (Service.setLocked uuid locked).run Backend.answer b =
      (match (b.answer (.setLocked uuid locked)).1 with
        | .ok true => .ok ()
        | .ok false => .error (.notFound uuid)
        | .error failure => .error (.store failure),
      (b.answer (.setLocked uuid locked)).2) := by
  rw [Service.setLocked, run_ask]
  dsimp only [id]
  cases (b.answer (.setLocked uuid locked)).1 with
  | error failure => rfl
  | ok found => cases found <;> rfl

theorem setLocked_effect (hb : b.view.Named) (uuid : String) (locked : Bool) :
    (Call.setLocked uuid locked).Effect ((Service.setLocked uuid locked).run Backend.answer b).1 b.view
      ((Service.setLocked uuid locked).run Backend.answer b).2.view := by
  have heffect : Modified _ _ _ _ _ := Backend.answer_effect (q := .setLocked uuid locked) trivial hb
  rw [Service.setLocked, run_ask]
  cases hreply : (b.answer (.setLocked uuid locked)).1 with
  | error failure =>
    rw [hreply] at heffect
    exact heffect
  | ok found =>
    rw [hreply] at heffect
    cases found with
    | false => exact heffect.2
    | true => exact heffect

/-- Operations that only read change nothing. -/
theorem get_run (uuid : String) (b : Backend) : ((Service.get uuid).run Backend.answer b).2 = b := by
  rw [Service.get]
  cases hrecord : b.view uuid with
  | none =>
    rw [run_withRecord_none b hrecord]
  | some record =>
    rw [run_withRecord_some b hrecord, run_require]
    cases Document.parse record.data <;> rfl

theorem fetchAll_run {α : Type} (result : List Record → α) (b : Backend) :
    ((ask .fetchAll id fun records => .done (.ok (result records))).run Backend.answer b).2 = b := by
  rw [run_ask, Backend.answer_fetchAll]
  cases (b.answer .fetchAll).1 <;> rfl

/-- Every call does what it should. -/
theorem run_effect {c : Call} (hc : c.Timely) (hb : b.view.Named) :
    c.Effect (c.run b).1 b.view (c.next b).view := by
  cases c with
  | create now freshUuid data user => exact create_effect hc hb freshUuid data user
  | list => exact congrArg Backend.view (fetchAll_run id b)
  | get uuid => exact congrArg Backend.view (get_run uuid b)
  | update now uuid data user => exact update_effect hc hb uuid data user
  | delete uuid user => exact delete_effect hb uuid user
  | setLocked uuid locked => exact setLocked_effect hb uuid locked
  | report detector => exact congrArg Backend.view (fetchAll_run (Analytics.Report.ofRecords detector) b)
  | metricUsage metrics => exact congrArg Backend.view (fetchAll_run (Analytics.Index.ofRecords metrics) b)

end Dashboards.Service
