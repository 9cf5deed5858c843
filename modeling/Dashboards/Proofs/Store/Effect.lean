import Dashboards.Proofs.Record.Envelope
import Dashboards.Store
import Mathlib

/-!
# What a request does to the records of a store

* `View` : the record of each uuid; `View.Named` : each carries the uuid that it is found under
  (`View.forall_update`, `View.Named.update`);
* `Request.Timely` : what is to be stored has times of the calendar;
* `Modified` : the outcome of changing one record; `Effect` : the outcome of a request;
* `Request.uuid?` : the uuid that a request is about; `Request.target?` : the only uuid whose record
  a request may change (`Effect.frame`);
* `Done` : the store did what it was asked to; `Origin` : how a request made a record what it is
  (`Effect.origin`);
* `Effect.named` : no request breaks `View.Named`.
-/

namespace Dashboards.Store

/-- The record of each uuid. -/
abbrev View := String → Option Record

/-- A record is found under its own uuid. -/
def View.Named (v : View) : Prop := ∀ uuid record, v uuid = some record → record.uuid = uuid

/-- What is to be stored has times of the calendar. -/
def Request.Timely : Request → Prop
  | .insert record => record.createdAt.isValid ∧ record.updatedAt.isValid
  | .update record => record.updatedAt.isValid
  | _ => True

instance : DecidablePred Request.Timely
  | .insert record => inferInstanceAs (Decidable (record.createdAt.isValid ∧ record.updatedAt.isValid))
  | .update record => inferInstanceAs (Decidable (record.updatedAt.isValid = true))
  | .fetchAll | .fetchOne _ | .delete _ | .setLocked _ _ => .isTrue trivial

/-- A record was changed, or there is none, or the store failed and kept what it had. -/
def Modified (uuid : String) (change : Record → Record) (reply : Except StoreFailure Bool) (v v' : View) :
    Prop :=
  match reply with
  | .ok true => ∃ record, v uuid = some record ∧ v' = Function.update v uuid (some (change record))
  | .ok false => v uuid = none ∧ v' = v
  | .error _ => v' = v

/-- The greatest identifier that can be read back. -/
def greatestReadable : Int := 9223372036854775807

/-- What a reply tells about the records before and after it. -/
def Effect : (q : Request) → Reply q → View → View → Prop
  | .fetchAll, _, v, v' => v' = v
  | .fetchOne uuid, reply, v, v' =>
    v' = v ∧ (∀ found, reply = .ok found → found = v uuid) ∧
      ∀ record, v uuid = some record → reply = .ok (some record)
  | .insert record, .ok id, v, v' =>
    v record.uuid = none ∧
      (v' = Function.update v record.uuid (some { record with id }) ∨ greatestReadable < id ∧ v' = v)
  | .insert _, .error _, v, v' => v' = v
  | .update record, reply, v, v' => Modified record.uuid (·.withChange record) reply v v'
  | .delete uuid, .ok true, v, v' => v' = Function.update v uuid none
  | .delete uuid, .ok false, v, v' => v uuid = none ∧ v' = v
  | .delete _, .error _, v, v' => v' = v
  | .setLocked uuid locked, reply, v, v' => Modified uuid (·.withLock locked) reply v v'

/-- The uuid that a request is about, if it is about one. -/
def Request.uuid? : Request → Option String
  | .fetchAll => none
  | .fetchOne uuid => some uuid
  | .insert record => some record.uuid
  | .update record => some record.uuid
  | .delete uuid => some uuid
  | .setLocked uuid _ => some uuid

/-- The uuid whose record a request may change. -/
def Request.target? : Request → Option String
  | .fetchAll => none
  | .fetchOne _ => none
  | .insert record => some record.uuid
  | .update record => some record.uuid
  | .delete uuid => some uuid
  | .setLocked uuid _ => some uuid

/-- The store did what it was asked to, and it was asked to change something. -/
def Done : (q : Request) → Reply q → Prop
  | .insert _, .ok _ => True
  | .update _, .ok found => found
  | .delete _, .ok found => found
  | .setLocked _ _, .ok found => found
  | _, _ => False

/-- How a request made the record of a uuid what it is. -/
inductive Origin (v : View) (uuid : String) : Request → Record → Prop where
  | inserted {record : Record} (id : Int) : record.uuid = uuid → Origin v uuid (.insert record) { record with id }
  | changed {record stored : Record} : record.uuid = uuid → v uuid = some stored →
      Origin v uuid (.update record) (stored.withChange record)
  | relocked {locked : Bool} {stored : Record} : v uuid = some stored →
      Origin v uuid (.setLocked uuid locked) (stored.withLock locked)

variable {v v' : View}

/-- What holds of every record still does if it holds of the new one. -/
theorem View.forall_update {P : String → Record → Prop} (hv : ∀ uuid record, v uuid = some record → P uuid record)
    {uuid : String} {found : Option Record} (h : ∀ record ∈ found, P uuid record) :
    ∀ other record, Function.update v uuid found other = some record → P other record := by
  intro other record hrecord
  by_cases hne : other = uuid
  · subst hne
    rw [Function.update_self] at hrecord
    exact h record hrecord
  · rw [Function.update_of_ne hne] at hrecord
    exact hv other record hrecord

theorem View.Named.update (hv : v.Named) {uuid : String} {found : Option Record}
    (h : ∀ record ∈ found, record.uuid = uuid) : View.Named (Function.update v uuid found) :=
  View.forall_update hv h

/-! ## One record changed -/

section Modified

variable {uuid : String} {change : Record → Record} {reply : Except StoreFailure Bool}

theorem Modified.eq_or (h : Modified uuid change reply v v') :
    v' = v ∨ ∃ record, reply = .ok true ∧ v uuid = some record ∧
      v' = Function.update v uuid (some (change record)) := by
  unfold Modified at h
  split at h
  · obtain ⟨record, hv, hv'⟩ := h
    exact .inr ⟨record, rfl, hv, hv'⟩
  · exact .inl h.2
  · exact .inl h

theorem Modified.frame (h : Modified uuid change reply v v') {other : String} (hne : other ≠ uuid) :
    v' other = v other := by
  rcases h.eq_or with rfl | ⟨record, -, -, rfl⟩
  · rfl
  · exact Function.update_of_ne hne _ _

end Modified

/-! ## Any request -/

/-- A request changes no record but that of its own uuid. -/
theorem Effect.frame {q : Request} {reply : Reply q} (h : Effect q reply v v') {uuid : String}
    (hne : q.target? ≠ some uuid) : v' uuid = v uuid := by
  cases q with
  | fetchAll => exact congrFun h uuid
  | fetchOne _ => exact congrFun h.1 uuid
  | insert record =>
    have hne : uuid ≠ record.uuid := fun heq => hne (by rw [heq]; rfl)
    cases reply with
    | error _ => exact congrFun h uuid
    | ok id =>
      rcases h.2 with rfl | ⟨-, rfl⟩
      · exact Function.update_of_ne hne _ _
      · rfl
  | update record => exact Modified.frame h fun heq => hne (by rw [heq]; rfl)
  | delete target =>
    have hne : uuid ≠ target := fun heq => hne (by rw [heq]; rfl)
    cases reply with
    | error _ => exact congrFun h uuid
    | ok found =>
      cases found with
      | false => exact congrFun h.2 uuid
      | true =>
        obtain rfl := h
        exact Function.update_of_ne hne _ _
  | setLocked target locked => exact Modified.frame h fun heq => hne (by rw [heq]; rfl)

/-- A record was there before, or the request is what it comes from. -/
theorem Effect.origin {q : Request} {reply : Reply q} (h : Effect q reply v v') {uuid : String} {r : Record}
    (hr : v' uuid = some r) : v uuid = some r ∨ Done q reply ∧ Origin v uuid q r := by
  by_cases htarget : q.target? = some uuid
  · cases q with
    | fetchAll => cases htarget
    | fetchOne _ => cases htarget
    | insert record =>
      obtain rfl : record.uuid = uuid := Option.some.inj htarget
      cases reply with
      | error _ =>
        obtain rfl := h
        exact .inl hr
      | ok id =>
        rcases h.2 with rfl | ⟨-, rfl⟩
        · rw [Function.update_self] at hr
          obtain rfl := Option.some.inj hr
          exact .inr ⟨trivial, .inserted id rfl⟩
        · exact .inl hr
    | update record =>
      obtain rfl : record.uuid = uuid := Option.some.inj htarget
      rcases Modified.eq_or h with rfl | ⟨stored, rfl, hstored, rfl⟩
      · exact .inl hr
      · rw [Function.update_self] at hr
        obtain rfl := Option.some.inj hr
        exact .inr ⟨rfl, .changed rfl hstored⟩
    | delete target =>
      obtain rfl : target = uuid := Option.some.inj htarget
      cases reply with
      | error _ =>
        obtain rfl := h
        exact .inl hr
      | ok found =>
        cases found with
        | false =>
          obtain ⟨-, rfl⟩ := h
          exact .inl hr
        | true =>
          obtain rfl := h
          rw [Function.update_self] at hr
          cases hr
    | setLocked target locked =>
      obtain rfl : target = uuid := Option.some.inj htarget
      rcases Modified.eq_or h with rfl | ⟨stored, rfl, hstored, rfl⟩
      · exact .inl hr
      · rw [Function.update_self] at hr
        obtain rfl := Option.some.inj hr
        exact .inr ⟨rfl, .relocked hstored⟩
  · rw [h.frame htarget] at hr
    exact .inl hr

/-- Records are still found under their own uuids. -/
theorem Effect.named {q : Request} {reply : Reply q} (h : Effect q reply v v') (hv : v.Named) : v'.Named := by
  intro uuid r hr
  obtain hkept | ⟨-, horigin⟩ := h.origin hr
  · exact hv uuid r hkept
  · cases horigin with
    | inserted id huuid => exact huuid
    | @changed _ stored _ hstored => exact hv uuid stored hstored
    | @relocked _ stored hstored => exact hv uuid stored hstored

end Dashboards.Store
