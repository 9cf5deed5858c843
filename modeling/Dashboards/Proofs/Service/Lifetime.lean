import Dashboards.Proofs.Service.Failing
import Dashboards.Proofs.Service.Interleaving
import Dashboards.Proofs.Store.Tidy
import Mathlib

/-!
# What becomes of a record while calls are in flight

* `Exchange.turn?`, `Exchange.lock?` : a record was inserted or deleted, or its lock was set;
* `born?`, `lockSince` : the record that was last inserted and not deleted since, and its lock, as told
  by the events (`born?_cons`, `lockSince_cons`);
* `Change` : what an event does to a record (`Lawful.change`);
* `Stands`, `Accounts` : the record that is stored is the one that the events tell of
  (`Accounts.cons`);
* `Settled` : the invariant (`Settled.start`, `Settled.begin`, `Settled.answer`, `Reached.settled`);
* `late_update` : an update of a record that was deleted meanwhile fails and changes nothing
  (`exists_late`);
* `lifetimes_hold` : both, in all that a fresh store may come to (`late_update_fails`).
-/

namespace Dashboards.Store.Exchange

/-- The record of the uuid was inserted, or it was deleted. -/
def turn? (uuid : String) : Exchange → Option (Option Record)
  | ⟨.insert record, .ok id⟩ => if record.uuid = uuid then some (some { record with id }) else none
  | ⟨.delete target, .ok true⟩ => if target = uuid then some none else none
  | _ => none

/-- The lock of the record was set. -/
def lock? (uuid : String) : Exchange → Option Bool
  | ⟨.setLocked target locked, .ok true⟩ => if target = uuid then some locked else none
  | _ => none

/-- Requests that change other records neither insert nor delete it, and do not set its lock. -/
theorem quiet_of_target?_ne {uuid : String} {x : Exchange} (h : x.request.target? ≠ some uuid) :
    x.turn? uuid = none ∧ x.lock? uuid = none := by
  obtain ⟨q, reply⟩ := x
  cases q with
  | insert record =>
    have hne : record.uuid ≠ uuid := fun heq => h (congrArg some heq)
    cases reply with
    | error failure => exact ⟨rfl, rfl⟩
    | ok id => exact ⟨if_neg hne, rfl⟩
  | delete target =>
    have hne : target ≠ uuid := fun heq => h (congrArg some heq)
    rcases reply with failure | _ | _
    · exact ⟨rfl, rfl⟩
    · exact ⟨rfl, rfl⟩
    · exact ⟨if_neg hne, rfl⟩
  | setLocked target locked =>
    have hne : target ≠ uuid := fun heq => h (congrArg some heq)
    rcases reply with failure | _ | _
    · exact ⟨rfl, rfl⟩
    · exact ⟨rfl, rfl⟩
    · exact ⟨rfl, if_neg hne⟩
  | _ => exact ⟨rfl, rfl⟩

end Dashboards.Store.Exchange

namespace Dashboards.Service

open Json Store Traffic

/-! ## What the events tell -/

/-- The record of the uuid that was last inserted, unless it was deleted since. The last event is the
first of the list. -/
def born? (uuid : String) (events : List Event) : Option Record := (events.findSome? (·.exchange.turn? uuid)).join

/-- The lock of the record, which it has by the last request that set it since the record was inserted. -/
def lockSince (uuid : String) (events : List Event) : Bool :=
  ((events.takeWhile fun e => (e.exchange.turn? uuid).isNone).findSome? (·.exchange.lock? uuid)).getD false

theorem born?_cons (uuid : String) (e : Event) (events : List Event) :
    born? uuid (e :: events) = (e.exchange.turn? uuid).getD (born? uuid events) := by
  unfold born?
  rw [List.findSome?_cons]
  cases e.exchange.turn? uuid <;> rfl

theorem lockSince_cons (uuid : String) (e : Event) (events : List Event) :
    lockSince uuid (e :: events) =
      if (e.exchange.turn? uuid).isSome then false else (e.exchange.lock? uuid).getD (lockSince uuid events) := by
  unfold lockSince
  cases hturn : e.exchange.turn? uuid with
  | some found => simp [hturn]
  | none =>
    simp only [List.takeWhile_cons, hturn, Option.isNone_none, if_true, List.findSome?_cons]
    cases e.exchange.lock? uuid <;> rfl

/-! ## What an event does -/

/-- What an event does to the record of a uuid, as told by its exchange. -/
inductive Change (uuid : String) (x : Exchange) : Option Record → Option Record → Prop where
  | kept {found : Option Record} : x.turn? uuid = none → x.lock? uuid = none → Change uuid x found found
  | updated {stored change : Record} : x.turn? uuid = none → x.lock? uuid = none →
      Change uuid x (some stored) (some (stored.withChange change))
  | relocked {stored : Record} {locked : Bool} : x.turn? uuid = none → x.lock? uuid = some locked →
      Change uuid x (some stored) (some (stored.withLock locked))
  | inserted {born : Record} : x.turn? uuid = some (some born) → born.locked = false → Change uuid x none (some born)
  | deleted {found : Option Record} : x.turn? uuid = some none → Change uuid x found none

theorem change_of_effect {x : Exchange} {v v' : View} (h : Effect x.request x.reply v v')
    (hreadable : Directory.ReadableReply x.request x.reply)
    (hunlocked : ∀ record, x.request = .insert record → record.locked = false) (uuid : String) :
    Change uuid x (v uuid) (v' uuid) := by
  by_cases htarget : x.request.target? = some uuid
  · obtain ⟨q, reply⟩ := x
    cases q with
    | fetchAll => cases htarget
    | fetchOne target => cases htarget
    | insert record =>
      obtain rfl : record.uuid = uuid := Option.some.inj htarget
      cases reply with
      | error failure =>
        obtain rfl := h
        exact .kept rfl rfl
      | ok id =>
        obtain ⟨hnone, rfl | ⟨hunread, -⟩⟩ := h
        · rw [hnone, Function.update_self]
          exact .inserted (if_pos rfl) (hunlocked record rfl)
        · exact absurd hreadable (not_le.mpr hunread)
    | update record =>
      obtain rfl : record.uuid = uuid := Option.some.inj htarget
      rcases Modified.eq_or h with rfl | ⟨stored, -, hstored, rfl⟩
      · exact .kept rfl rfl
      · rw [hstored, Function.update_self]
        exact .updated rfl rfl
    | delete target =>
      obtain rfl : target = uuid := Option.some.inj htarget
      rcases reply with failure | _ | _
      · obtain rfl := h
        exact .kept rfl rfl
      · obtain ⟨-, rfl⟩ := h
        exact .kept rfl rfl
      · obtain rfl := h
        rw [Function.update_self]
        exact .deleted (if_pos rfl)
    | setLocked target locked =>
      obtain rfl : target = uuid := Option.some.inj htarget
      rcases reply with failure | _ | _
      · obtain rfl := h
        exact .kept rfl rfl
      · obtain ⟨-, rfl⟩ := h
        exact .kept rfl rfl
      · obtain ⟨stored, hstored, rfl⟩ := h
        rw [hstored, Function.update_self]
        exact .relocked rfl (if_pos rfl)
  · obtain ⟨hturn, hlock⟩ := Exchange.quiet_of_target?_ne htarget
    rw [h.frame htarget]
    exact .kept hturn hlock

/-- The store gave an identifier that can be read back. -/
def Event.Readable (e : Event) : Prop := Directory.ReadableReply e.request e.reply

theorem Event.Lawful.change {e : Event} (h : e.Lawful) (hreadable : e.Readable) (uuid : String) :
    Change uuid e.exchange (e.before.view uuid) (e.after.view uuid) := by
  refine change_of_effect (x := e.exchange) h.effect hreadable (fun record hrequest => ?_) uuid
  obtain ⟨past, hasks⟩ := h.asks
  rw [show e.request = .insert record from hrequest] at hasks
  obtain ⟨now, freshUuid, data, user, -, rfl⟩ := hasks.created
  rfl

/-! ## The record that is stored -/

/-- A record is still the one that was inserted, under that lock. -/
structure Stands (born : Record) (locked : Bool) (stored : Record) : Prop where
  id : stored.id = born.id
  uuid : stored.uuid = born.uuid
  createdAt : stored.createdAt = born.createdAt
  createdBy : stored.createdBy = born.createdBy
  locked : stored.locked = locked

/-- The events tell of this record, or of none. -/
def Accounts (uuid : String) (events : List Event) (found : Option Record) : Prop :=
  Option.Rel (fun born stored => Stands born (lockSince uuid events) stored) (born? uuid events) found

section Accounts

variable {uuid : String} {e : Event} {events : List Event} {found found' : Option Record}

theorem Accounts.isSome (h : Accounts uuid events found) : found.isSome = (born? uuid events).isSome := by
  unfold Accounts at h
  generalize born? uuid events = born at h ⊢
  cases h <;> rfl

theorem Accounts.cons (h : Accounts uuid events found) (hchange : Change uuid e.exchange found found') :
    Accounts uuid (e :: events) found' := by
  unfold Accounts at h ⊢
  rw [born?_cons, lockSince_cons]
  generalize born? uuid events = born at h
  cases hchange with
  | kept hturn hlock =>
    rw [hturn, hlock]
    exact h
  | updated hturn hlock =>
    rw [hturn, hlock]
    cases h with
    | some hstands => exact .some ⟨hstands.id, hstands.uuid, hstands.createdAt, hstands.createdBy, hstands.locked⟩
  | relocked hturn hlock =>
    rw [hturn, hlock]
    cases h with
    | some hstands => exact .some ⟨hstands.id, hstands.uuid, hstands.createdAt, hstands.createdBy, rfl⟩
  | inserted hturn hunlocked =>
    rw [hturn]
    exact .some ⟨rfl, rfl, rfl, rfl, hunlocked⟩
  | deleted hturn =>
    rw [hturn]
    exact .none

end Accounts

/-! ## The invariant -/

structure Settled (t : Traffic) : Prop where
  tidy : t.store.Tidy
  accounts : ∀ uuid, Accounts uuid t.events (t.store.view uuid)
  serves : ∀ e ∈ t.events, ∀ uuid record, e.exchange = found uuid record → t.store.Serves uuid
  concludes : ∀ (i : Nat) (f : Flight), t.flights[i]? = some f → Concludes f.call.uuid? f.rest

section Settled

variable {t : Traffic}

theorem Settled.start {b : Backend} (hb : b.Fresh) : Settled ⟨b, [], []⟩ where
  tidy := hb.tidy
  accounts uuid := by
    rw [hb.view_eq]
    exact .none
  serves _ he := absurd he List.not_mem_nil
  concludes _ _ hf := by simp at hf

theorem Settled.begin (h : Settled t) (c : Call) : Settled (t.begin c) where
  tidy := h.tidy
  accounts := h.accounts
  serves := h.serves
  concludes i f hf := by
    rcases flights_begin hf with hf | ⟨-, rfl⟩
    · exact h.concludes i f hf
    · exact task_concludes c

theorem Settled.answer (h : Settled t) {i : Nat} {c : Call} {q : Request} {next : Reply q → Task c.Outcome}
    (hi : t.flights[i]? = some ⟨c, .ask q next⟩) (hlawful : Event.Lawful ⟨i, c, q, t.store⟩)
    (hreadable : Event.Readable ⟨i, c, q, t.store⟩) : Settled (t.answer i c q next) where
  tidy := Backend.answer_tidy h.tidy hlawful.timely hreadable
  accounts uuid := (h.accounts uuid).cons (hlawful.change hreadable uuid)
  serves e he uuid record hfound := by
    apply Backend.serves_answer
    rcases List.mem_cons.mp he with rfl | he
    · exact Backend.serves_of_view (view_of_found hlawful hfound).1
    · exact h.serves e he uuid record hfound
  concludes j f hf := by
    rcases flights_answer hi hf with ⟨rfl, rfl⟩ | ⟨-, hf⟩
    · exact (h.concludes i _ hi (t.store.answer q).1).2.2
    · exact h.concludes j f hf

theorem Traffic.Reached.settled (h : t.Reached) (hreadable : ∀ e ∈ t.events, e.Readable) : Settled t := by
  induction h with
  | start hb => exact .start hb
  | @begin _ c _ _ ih => exact (ih hreadable).begin c
  | answer ht hi ih =>
    have hlawful := (ht.answer hi).consistent.lawful _ List.mem_cons_self
    obtain ⟨hlast, hrest⟩ := List.forall_mem_cons.mp hreadable
    exact (ih hrest).answer hi hlawful hlast

end Settled

/-! ## Late updates -/

section Late

variable {t : Traffic} {i : Nat} {c : Call} {record : Record} {next : Reply (.update record) → Task c.Outcome}

/-- A call that is to update a record is about its uuid, and the store can hold it. -/
theorem update_about (ht : t.Reached) (hsettled : Settled t)
    (hi : t.flights[i]? = some ⟨c, .ask (.update record) next⟩) :
    c.uuid? = some record.uuid ∧ t.store.Serves record.uuid := by
  have hconsistent := ht.consistent
  have hasks : c.Asks (t.past i) (.update record) := (hconsistent.follows i _ hi).1
  obtain ⟨now, uuid, data, user, stored, rfl, hpast, rfl⟩ := hasks.updated
  obtain ⟨later, fetch, earlier, hevents, -, hfound, -⟩ := exists_event_of_past hpast
  have hmem : fetch ∈ t.events := by simp [hevents]
  have hlawful := hconsistent.lawful fetch hmem
  obtain rfl : stored.uuid = uuid := hlawful.named uuid stored (view_of_found hlawful hfound).1
  exact ⟨rfl, hsettled.serves fetch hmem stored.uuid stored hfound⟩

/-- An update of a record that was deleted meanwhile does not find it, and changes nothing. -/
theorem late_update (ht : t.Reached) (hsettled : Settled t)
    (hi : t.flights[i]? = some ⟨c, .ask (.update record) next⟩) (hnone : born? record.uuid t.events = none) :
    (t.answer i c (.update record) next).store = t.store ∧
      (t.answer i c (.update record) next).flights[i]? = some ⟨c, .done (.error (.notFound record.uuid))⟩ := by
  obtain ⟨habout, hserves⟩ := update_about ht hsettled hi
  have hview : t.store.view record.uuid = none := by
    have hsome := (hsettled.accounts record.uuid).isSome
    rw [hnone] at hsome
    simpa using hsome
  have hanswer := Backend.answer_update_absent hsettled.tidy hserves hview
  have hnext : next (.ok false) = .done (.error (.notFound record.uuid)) := by
    obtain ⟨-, hvain, -⟩ := hsettled.concludes i _ hi (.ok false)
    obtain ⟨uuid, huuid, hnext⟩ := hvain rfl
    obtain rfl : record.uuid = uuid := Option.some.inj (habout.symm.trans huuid)
    exact hnext
  unfold Traffic.answer
  rw [hanswer]
  refine ⟨rfl, ?_⟩
  rw [List.getElem?_set_self (List.getElem?_eq_some_iff.mp hi).1, hnext]

end Late

/-- A dashboard is created, fetched to be updated, and deleted before the store is asked for the update. -/
theorem exists_late : ∃ t c record next, Traffic.Reached t ∧ (∀ e ∈ t.events, e.Readable) ∧
    t.flights[1]? = some ⟨c, .ask (.update record) next⟩ ∧ record.uuid = "u" ∧ born? "u" t.events = none := by
  have hadmits : Admits titledRecord (some "x") := fun h => by cases h.2
  have hreplaces : Replaces titledRecord titled := ⟨titled, [], titled_parses, rfl⟩
  obtain ⟨create, hcreate⟩ : ∃ next, (Call.create .newYear "u" titled none).task =
    .ask (.insert (createdRecord .newYear "u" titled none 0)) next := ⟨_, rfl⟩
  obtain ⟨update, hupdate, hlast⟩ : ∃ next, (Call.update .newYear "u" titled (some "x")).task = _ ∧ _ := update_task rfl
  obtain ⟨last, hlast⟩ := hlast titledRecord hadmits hreplaces
  obtain ⟨delete, gone, hdelete, hgone⟩ : ∃ next last, (Call.delete "u" none).task = .ask (.fetchOne "u") next ∧
    next (.ok (some titledRecord)) = .ask (.delete "u") last := ⟨_, _, rfl, rfl⟩
  have hbegun := (((Reached.start .memory).begin (titled_sound none).1.1).begin (titled_sound (some "x")).2.1).begin
    (c := .delete "u" none) trivial
  have hcreated := hbegun.answer (i := 0) (congrArg some (congrArg (Flight.mk _) hcreate))
  have hfetched := hcreated.answer (i := 1) (congrArg some (congrArg (Flight.mk _) hupdate))
  have hfetched' := hfetched.answer (i := 2) (congrArg some (congrArg (Flight.mk _) hdelete))
  have hdeleted := hfetched'.answer (i := 2) (congrArg some (congrArg (Flight.mk _) hgone))
  refine ⟨_, _, _, last, hdeleted, ?_, congrArg some (congrArg (Flight.mk _) hlast), rfl, rfl⟩
  have hfirst : (1 : Int) ≤ greatestReadable := by decide
  exact List.forall_mem_cons.mpr ⟨trivial, List.forall_mem_cons.mpr ⟨trivial, List.forall_mem_cons.mpr
    ⟨trivial, List.forall_mem_singleton.mpr hfirst⟩⟩⟩

/-! ## All that is reached -/

/-- However calls interleave, a record is there exactly if the last request that inserted or deleted it
inserted it. It has the identifier, the time and the user of that request, and the lock last set since,
and it is not locked if none was. Where it was deleted, an update that has passed all checks fails to
find it and changes nothing. Identifiers that were given have 64 bits. -/
theorem lifetimes_hold {t : Traffic} (ht : t.Reached) (hreadable : ∀ e ∈ t.events, e.Readable) (uuid : String) :
    (t.store.view uuid).isSome = (born? uuid t.events).isSome ∧
    (∀ born ∈ born? uuid t.events, ∀ stored ∈ t.store.view uuid, Stands born (lockSince uuid t.events) stored) ∧
    (born? uuid t.events = none → ∀ i c record next, t.flights[i]? = some ⟨c, .ask (.update record) next⟩ →
      record.uuid = uuid → (t.answer i c (.update record) next).store = t.store ∧
        (t.answer i c (.update record) next).flights[i]? = some ⟨c, .done (.error (.notFound uuid))⟩) := by
  have hsettled := ht.settled hreadable
  have haccounts := hsettled.accounts uuid
  refine ⟨haccounts.isSome, ?_, ?_⟩
  · intro born hborn stored hstored
    unfold Accounts at haccounts
    rw [hborn, hstored] at haccounts
    cases haccounts with
    | some hstands => exact hstands
  · rintro hnone i c record next hi rfl
    exact late_update ht hsettled hi hnone

/-- A dashboard was deleted before it is updated, and the update fails to find it. -/
theorem late_update_fails : ∃ t c record next, Traffic.Reached t ∧
    t.flights[1]? = some ⟨c, .ask (.update record) next⟩ ∧ t.store.view "u" = none ∧
    (t.answer 1 c (.update record) next).flights[1]? = some ⟨c, .done (.error (.notFound "u"))⟩ := by
  obtain ⟨t, c, record, next, ht, hreadable, hwaiting, huuid, hnone⟩ := exists_late
  obtain ⟨hsome, -, hlate⟩ := lifetimes_hold ht hreadable "u"
  refine ⟨t, c, record, next, ht, hwaiting, ?_, (hlate hnone 1 c record next hwaiting huuid).2⟩
  rw [hnone] at hsome
  simpa using hsome
end Dashboards.Service
