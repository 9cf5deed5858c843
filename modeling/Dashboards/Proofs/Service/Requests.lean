import Dashboards.Proofs.Service.Call
import Mathlib

/-!
# The requests that a call asks

* `Follows` : a program asks only what the exchanges so far allow;
* `follows_ask`, `follows_require`, `follows_withRecord`, `follows_unlessLocked` : the steps of an
  operation;
* `found` : a record was found; `Call.Asks` : the requests of a call, in their order;
  `Call.Asks.timely` : none stores a time that is not one of the calendar; `Call.Asks.created`,
  `Call.Asks.updated` : the calls that insert and update;
* `task_follows` : a call asks these and no others;
* `update_task` : an update that may be made asks them.
-/

namespace Dashboards.Service

open Json Store

/-- A program asks only what the exchanges so far allow, the last one first. -/
def Follows {α : Type} (asks : List Exchange → Request → Prop) : List Exchange → Task α → Prop
  | _, .done _ => True
  | past, .ask q next => asks past q ∧ ∀ reply, Follows asks (⟨q, reply⟩ :: past) (next reply)

/-- A record was found. -/
def found (uuid : String) (record : Record) : Exchange := ⟨.fetchOne uuid, .ok (some record)⟩

/-! ## Steps -/

section Steps

variable {α β : Type} {asks : List Exchange → Request → Prop} {past : List Exchange}

theorem follows_ask {q : Request} {outcome : Reply q → Except StoreFailure α} {next : α → Task β}
    (hq : asks past q)
    (hnext : ∀ reply a, outcome reply = .ok a → Follows asks (⟨q, reply⟩ :: past) (next a)) :
    Follows asks past (ask q outcome next) := by
  refine ⟨hq, fun reply => ?_⟩
  dsimp only
  cases houtcome : outcome reply with
  | error failure => trivial
  | ok a => exact hnext reply a houtcome

/-- A call that ends with the reply to this request. -/
theorem follows_last {q : Request} {outcome : Reply q → Except StoreFailure α} {next : α → Except Failure β}
    (hq : asks past q) : Follows asks past (ask q outcome fun a => .done (next a)) :=
  follows_ask hq fun _ _ _ => trivial

theorem follows_require {check : Except Document.Flaw α} {next : α → Task β}
    (hnext : ∀ a, check = .ok a → Follows asks past (next a)) : Follows asks past (require check next) := by
  cases check with
  | error flaw => trivial
  | ok a => exact hnext a rfl

theorem follows_withRecord {uuid : String} {next : Record → Task α} (hq : asks past (.fetchOne uuid))
    (hnext : ∀ record, Follows asks (found uuid record :: past) (next record)) :
    Follows asks past (withRecord uuid next) := by
  refine follows_ask hq fun reply found hfound => ?_
  cases found with
  | none => trivial
  | some record =>
    have hreply : reply = .ok (some record) := hfound
    rw [hreply]
    exact hnext record

theorem follows_unlessLocked {record : Record} {uuid : String} {user : Option String} {next : Task α}
    (hnext : Admits record user → Follows asks past next) :
    Follows asks past (unlessLocked record uuid user next) := by
  unfold unlessLocked
  split_ifs with hlocked
  · trivial
  · exact hnext (admits_iff.mpr (by simpa using hlocked))

end Steps

/-! ## Calls -/

/-- The requests that a call asks, given its exchanges so far, the last one first. -/
def Call.Asks : Call → List Exchange → Request → Prop
  | .create now freshUuid data user, past, q => past = [] ∧ q = .insert (createdRecord now freshUuid data user 0)
  | .get uuid, past, q => past = [] ∧ q = .fetchOne uuid
  | .update now uuid data user, past, q =>
    past = [] ∧ q = .fetchOne uuid ∨
      ∃ record, past = [found uuid record] ∧ Admits record user ∧ Replaces record data ∧
        q = .update (updatedRecord record now data user)
  | .delete uuid user, past, q =>
    past = [] ∧ q = .fetchOne uuid ∨
      ∃ record, past = [found uuid record] ∧ Admits record user ∧ q = .delete uuid
  | .setLocked uuid locked, past, q => past = [] ∧ q = .setLocked uuid locked
  | .list, past, q => past = [] ∧ q = .fetchAll
  | .report _, past, q => past = [] ∧ q = .fetchAll
  | .metricUsage _, past, q => past = [] ∧ q = .fetchAll

/-- A call asks to store times of the calendar only. -/
theorem Call.Asks.timely {c : Call} (hc : c.Timely) {past : List Exchange} {q : Request} (h : c.Asks past q) :
    q.Timely := by
  cases c with
  | create now freshUuid data user =>
    obtain ⟨-, rfl⟩ := h
    exact ⟨hc, hc⟩
  | update now uuid data user =>
    obtain ⟨-, rfl⟩ | ⟨record, -, -, -, rfl⟩ := h
    · trivial
    · exact hc
  | delete uuid user =>
    obtain ⟨-, rfl⟩ | ⟨record, -, -, rfl⟩ := h
    · trivial
    · trivial
  | _ =>
    obtain ⟨-, rfl⟩ := h
    trivial

/-- What is inserted was created by the call. -/
theorem Call.Asks.created {c : Call} {past : List Exchange} {record : Record} (h : c.Asks past (.insert record)) :
    ∃ now freshUuid data user, c = .create now freshUuid data user ∧
      record = createdRecord now freshUuid data user 0 := by
  cases c with
  | create now freshUuid data user =>
    obtain ⟨-, heq⟩ := h
    exact ⟨now, freshUuid, data, user, rfl, Request.insert.inj heq⟩
  | update now uuid data user => rcases h with ⟨-, heq⟩ | ⟨_, -, -, -, heq⟩ <;> cases heq
  | delete uuid user => rcases h with ⟨-, heq⟩ | ⟨_, -, -, heq⟩ <;> cases heq
  | _ => cases h.2

/-- A record that is to be updated was found by the call. -/
theorem Call.Asks.updated {c : Call} {past : List Exchange} {record : Record} (h : c.Asks past (.update record)) :
    ∃ now uuid data user stored, c = .update now uuid data user ∧ past = [found uuid stored] ∧
      record = updatedRecord stored now data user := by
  cases c with
  | update now uuid data user =>
    rcases h with ⟨-, heq⟩ | ⟨stored, hpast, -, -, heq⟩
    · cases heq
    · exact ⟨now, uuid, data, user, stored, rfl, hpast, Request.update.inj heq⟩
  | delete uuid user => rcases h with ⟨-, heq⟩ | ⟨_, -, -, heq⟩ <;> cases heq
  | _ => cases h.2

theorem update_follows (now : Timestamp) (uuid : String) (data : Value) (user : Option String) :
    Follows (Call.update now uuid data user).Asks [] (Service.update now uuid data user) := by
  unfold Service.update
  apply follows_require
  intro _ _
  apply follows_withRecord (.inl ⟨rfl, rfl⟩)
  intro record
  apply follows_unlessLocked
  intro hadmits
  apply follows_require
  intro document hparse
  cases hremoval : Document.checkRemoval document data with
  | error excess => trivial
  | ok removed =>
    refine follows_ask (.inr ⟨record, rfl, hadmits, ⟨document, removed, hparse, hremoval⟩, rfl⟩) fun _ found _ => ?_
    cases found <;> trivial

theorem delete_follows (uuid : String) (user : Option String) :
    Follows (Call.delete uuid user).Asks [] (Service.delete uuid user) := by
  unfold Service.delete
  apply follows_withRecord (.inl ⟨rfl, rfl⟩)
  intro record
  apply follows_unlessLocked
  intro hadmits
  refine follows_ask (.inr ⟨record, rfl, hadmits, rfl⟩) fun _ found _ => ?_
  cases found <;> trivial

/-- A call asks its own requests and no others. -/
theorem task_follows (c : Call) : Follows c.Asks [] c.task := by
  cases c with
  | create now freshUuid data user => exact follows_require fun _ _ => follows_last ⟨rfl, rfl⟩
  | list => exact follows_last ⟨rfl, rfl⟩
  | get uuid =>
    refine follows_withRecord ⟨rfl, rfl⟩ fun record => ?_
    exact follows_require fun _ _ => trivial
  | update now uuid data user => exact update_follows now uuid data user
  | delete uuid user => exact delete_follows uuid user
  | setLocked uuid locked =>
    refine follows_ask ⟨rfl, rfl⟩ fun _ found _ => ?_
    cases found <;> trivial
  | report detector => exact follows_last ⟨rfl, rfl⟩
  | metricUsage metrics => exact follows_last ⟨rfl, rfl⟩

/-- An update of data that is an object fetches the record, and asks for the change if that may be made. -/
theorem update_task {now : Timestamp} {uuid : String} {data : Value} {user : Option String}
    (hobject : data.isObject) :
    ∃ next, (Call.update now uuid data user).task = .ask (.fetchOne uuid) next ∧
      ∀ record, Admits record user → Replaces record data →
        ∃ last, next (.ok (some record)) = .ask (.update (updatedRecord record now data user)) last := by
  have hcheck : Document.checkRoot data = .ok () := by
    rw [Document.checkRoot, if_pos hobject]
  change ∃ next, Service.update now uuid data user = _ ∧ _
  unfold Service.update
  rw [hcheck]
  refine ⟨_, rfl, ?_⟩
  intro record hadmits hreplaces
  obtain ⟨document, removed, hparse, hremoval⟩ := hreplaces
  dsimp only [id]
  rw [unlessLocked, if_neg (by simpa [Admits] using hadmits), hparse]
  dsimp only [require]
  rw [hremoval]
  exact ⟨_, rfl⟩

end Dashboards.Service
