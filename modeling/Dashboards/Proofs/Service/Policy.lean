import Dashboards.Proofs.Document.Removal
import Dashboards.Proofs.Service.ReadBack
import Mathlib

/-!
# Locks and removals along runs

* `after`, `Throughout` : the store that calls lead to, one after the other, and what holds of every
  call on the way;
* `Fate` : what one call does to one record (`fate`);
* `Refused`, `refused_of_locked` : a lock stops the writes of users;
* `locked_throughout` : a locked record stays as it is until a call that may end the lock;
* `Descends`, `descends_throughout` : what a record keeps while it is not deleted, and how much of
  its document;
* `policy_along_runs` : both, on every run from a store that nothing was stored in
  (`titled_stays`).
-/

namespace Dashboards.Service

open Json Store

/-! ## Runs -/

/-- The store after some calls. -/
def after : List Call → Backend → Backend
  | [], b => b
  | c :: calls, b => after calls (c.next b)

/-- Every call of a run, and the store that it meets, has the property. -/
def Throughout (P : Call → Backend → Prop) : List Call → Backend → Prop
  | [], _ => True
  | c :: calls, b => P c b ∧ Throughout P calls (c.next b)

/-- The call is successful. -/
def Call.Succeeds (c : Call) (b : Backend) : Prop := (c.run b).1.isOk

instance (c : Call) (b : Backend) : Decidable (c.Succeeds b) := inferInstanceAs (Decidable (_ = true))

/-- Calls that may end the lock of a record: unlocking it, and what the system does. -/
def Call.EndsLock (uuid : String) : Call → Prop
  | .setLocked target locked => target = uuid ∧ locked = false
  | .update _ target _ user => target = uuid ∧ user = none
  | .delete target user => target = uuid ∧ user = none
  | _ => False

/-- A user's update or delete of a record. -/
def Call.WritesAsUser (uuid : String) : Call → Prop
  | .update _ target _ user => target = uuid ∧ user.isSome
  | .delete target user => target = uuid ∧ user.isSome
  | _ => False

def Call.Deletes (uuid : String) : Call → Prop
  | .delete target _ => target = uuid
  | _ => False

def Call.Updates (uuid : String) : Call → Prop
  | .update _ target _ _ => target = uuid
  | _ => False

instance (uuid : String) : (c : Call) → Decidable (c.Updates uuid)
  | .update _ target _ _ => inferInstanceAs (Decidable (target = uuid))
  | .create _ _ _ _ => .isFalse id
  | .list => .isFalse id
  | .get _ => .isFalse id
  | .delete _ _ => .isFalse id
  | .setLocked _ _ => .isFalse id
  | .report _ => .isFalse id
  | .metricUsage _ => .isFalse id

/-- The number of successful updates of a record. -/
def updateCount (uuid : String) : List Call → Backend → Nat
  | [], _ => 0
  | c :: calls, b =>
    (if c.Updates uuid ∧ c.Succeeds b then 1 else 0) + updateCount uuid calls (c.next b)

/-- The call fails because of the lock, or because its data is no document at all. -/
def Call.Refused (uuid : String) (c : Call) (b : Backend) : Prop :=
  (c.run b).1 = .error (.locked uuid) ∨
    (∃ data ∈ c.data?, ¬data.isObject) ∧ ∃ explanation, (c.run b).1 = .error (.invalidDocument explanation)

/-- Calls from outside: the clock is right and documents were read from texts. -/
def Call.Sound (c : Call) : Prop := c.Timely ∧ c.FromText

/-! ## One call -/

/-- What may become of a record. -/
inductive Fate (uuid : String) (record : Record) (b : Backend) : Call → Option Record → Prop where
  | kept (c : Call) : Fate uuid record b c (some record)
  | updated {now : Timestamp} {data : Value} {user : Option String} :
    (Call.update now uuid data user).Succeeds b → data.isObject → Admits record user → Replaces record data →
      Fate uuid record b (.update now uuid data user) (some (updatedRecord record now data user))
  | deleted {user : Option String} : (Call.delete uuid user).Succeeds b → Admits record user →
      Fate uuid record b (.delete uuid user) none
  | relocked {locked : Bool} : (Call.setLocked uuid locked).Succeeds b →
      Fate uuid record b (.setLocked uuid locked) (some (record.withLock locked))

theorem succeeds_of_eq {c : Call} {b : Backend} {result : c.Outcome} (h : (c.run b).1 = .ok result) :
    c.Succeeds b := by
  rw [Call.Succeeds, h]
  rfl

section Fate

variable {uuid : String} {record : Record} {b : Backend}

theorem fate {c : Call} (hc : c.Timely) (hb : b.view.Named) (h : b.view uuid = some record) :
    Fate uuid record b c ((c.next b).view uuid) := by
  have heffect := run_effect hc hb
  have hkept : (c.next b).view = b.view → Fate uuid record b c ((c.next b).view uuid) := by
    intro hsame
    rw [hsame, h]
    exact .kept c
  have hother : ∀ {target : String} {found : Option Record}, (c.next b).view = Function.update b.view target found →
      uuid ≠ target → Fate uuid record b c ((c.next b).view uuid) := by
    intro target found hview hne
    rw [hview, Function.update_of_ne hne, h]
    exact .kept c
  cases hrun : (c.run b).1 with
  | error failure =>
    rw [hrun] at heffect
    cases c <;> exact hkept heffect
  | ok result =>
    have hok := succeeds_of_eq hrun
    rw [hrun] at heffect
    cases c with
    | create now freshUuid data user =>
      obtain ⟨new, -, -, -, hfree, hview | ⟨-, hview⟩⟩ := heffect
      · have hne : uuid ≠ new.uuid := by
          rintro rfl
          rw [h] at hfree
          cases hfree
        exact hother hview hne
      · exact hkept hview
    | update now target data user =>
      obtain ⟨found, hfound, hobject, hadmits, hreplaces, -, hview⟩ := heffect
      by_cases hne : uuid = target
      · subst hne
        obtain rfl : record = found := Option.some.inj (h.symm.trans hfound)
        rw [hview, Function.update_self]
        exact .updated hok hobject hadmits hreplaces
      · exact hother hview hne
    | delete target user =>
      obtain ⟨found, hfound, hadmits, hview⟩ := heffect
      by_cases hne : uuid = target
      · subst hne
        obtain rfl : record = found := Option.some.inj (h.symm.trans hfound)
        rw [hview, Function.update_self]
        exact .deleted hok hadmits
      · exact hother hview hne
    | setLocked target locked =>
      obtain ⟨found, hfound, hview⟩ := heffect
      by_cases hne : uuid = target
      · subst hne
        obtain rfl : record = found := Option.some.inj (h.symm.trans hfound)
        rw [hview, Function.update_self]
        exact .relocked hok
      · exact hother hview hne
    | _ => exact hkept heffect

/-- A lock stops the writes of users. -/
theorem refused_of_locked {c : Call} (h : b.view uuid = some record) (hlocked : record.locked)
    (hc : c.WritesAsUser uuid) : c.Refused uuid b := by
  cases c with
  | update now target data user =>
    obtain ⟨rfl, huser⟩ := hc
    change (((Service.update now target data user).run Backend.answer b).1 = _) ∨
      _ ∧ ∃ explanation, ((Service.update now target data user).run Backend.answer b).1 = _
    rw [Service.update, run_require]
    by_cases hobject : data.isObject
    · left
      rw [Document.checkRoot, if_pos hobject]
      dsimp only
      rw [run_withRecord_some b h, run_unlessLocked, if_pos (by rw [huser, hlocked]; rfl)]
    · right
      rw [Document.checkRoot, if_neg hobject]
      exact ⟨⟨data, rfl, hobject⟩, _, rfl⟩
  | delete target user =>
    obtain ⟨rfl, huser⟩ := hc
    left
    change ((Service.delete target user).run Backend.answer b).1 = _
    rw [Service.delete, run_withRecord_some b h, run_unlessLocked, if_pos (by rw [huser, hlocked]; rfl)]
  | _ => exact hc.elim

/-- A locked record stays as it is, unless the call may end the lock. -/
theorem locked_step {c : Call} (hc : c.Timely) (hb : b.view.Named) (h : b.view uuid = some record)
    (hlocked : record.locked) (hends : ¬(c.EndsLock uuid ∧ c.Succeeds b)) :
    (c.next b).view uuid = some record := by
  have huser : ∀ {user : Option String}, Admits record user → user = none := by
    intro user hadmits
    by_contra hne
    exact hadmits ⟨Option.isSome_iff_ne_none.mpr hne, hlocked⟩
  have hfate := fate hc hb h
  generalize (c.next b).view uuid = found at hfate
  cases hfate with
  | kept => rfl
  | updated hok _ hadmits _ => exact absurd ⟨⟨rfl, huser hadmits⟩, hok⟩ hends
  | deleted hok hadmits => exact absurd ⟨⟨rfl, huser hadmits⟩, hok⟩ hends
  | @relocked locked hok =>
    cases locked with
    | false => exact absurd ⟨⟨rfl, rfl⟩, hok⟩ hends
    | true => rw [Record.withLock, ← hlocked]

end Fate

/-! ## What a record keeps -/

/-- Documents of stored records can be read. -/
def Documented (v : View) : Prop :=
  ∀ uuid record, v uuid = some record → ∃ document, Document.parse record.data = .ok document

/-- One record later became the other, and its document lost at most `n` identifiers. -/
structure Descends (n : Nat) (old new : Record) : Prop where
  id : new.id = old.id
  uuid : new.uuid = old.uuid
  createdAt : new.createdAt = old.createdAt
  createdBy : new.createdBy = old.createdBy
  lost : ∃ document document', Document.parse old.data = .ok document ∧
    Document.parse new.data = .ok document' ∧ (Document.lost document document').card ≤ n

theorem Descends.refl {record : Record} {document : Value} (h : Document.parse record.data = .ok document) :
    Descends 0 record record where
  id := rfl
  uuid := rfl
  createdAt := rfl
  createdBy := rfl
  lost := ⟨document, document, h, h, by rw [Document.lost_self, Finset.card_empty]⟩

theorem Descends.weaken {n m : Nat} {old new : Record} (h : Descends n old new) (hle : n ≤ m) :
    Descends m old new where
  id := h.id
  uuid := h.uuid
  createdAt := h.createdAt
  createdBy := h.createdBy
  lost := by
    obtain ⟨document, document', hold, hnew, hcard⟩ := h.lost
    exact ⟨document, document', hold, hnew, hcard.trans hle⟩

theorem Descends.trans {n m : Nat} {first second third : Record} (h : Descends n first second)
    (h' : Descends m second third) : Descends (n + m) first third where
  id := h'.id.trans h.id
  uuid := h'.uuid.trans h.uuid
  createdAt := h'.createdAt.trans h.createdAt
  createdBy := h'.createdBy.trans h.createdBy
  lost := by
    obtain ⟨d, d₁, hd, hd₁, hn⟩ := h.lost
    obtain ⟨d₂, d', hd₂, hd', hm⟩ := h'.lost
    obtain rfl : d₁ = d₂ := Except.ok.inj (hd₁.symm.trans hd₂)
    exact ⟨d, d', hd, hd', (Document.card_lost_le d d₁ d').trans (Nat.add_le_add hn hm)⟩

theorem descends_updated {record : Record} {now : Timestamp} {data : Value} {user : Option String} {text : String}
    (hreplaces : Replaces record data) (htext : Document.parse text = .ok data) :
    Descends 1 record (updatedRecord record now data user) where
  id := rfl
  uuid := rfl
  createdAt := rfl
  createdBy := rfl
  lost := by
    obtain ⟨document, removed, hparse, hremoval⟩ := hreplaces
    exact ⟨document, data, hparse, document_parse_compact htext,
      Document.card_lost_of_checkRemoval hremoval⟩

section Steps

variable {uuid : String} {b : Backend}

theorem Call.Effect.documented {c : Call} {out : Except Failure c.Outcome} {v v' : View} (h : c.Effect out v v')
    (hc : c.FromText) (hv : Documented v) : Documented v' := by
  have hupdate : ∀ {target : String} {found : Option Record},
      (∀ r ∈ found, ∃ document, Document.parse r.data = .ok document) →
        Documented (Function.update v target found) := fun hfound => View.forall_update hv hfound
  have hsame : v' = v → Documented v' := by
    rintro rfl
    exact hv
  cases out with
  | error failure => cases c <;> exact hsame h
  | ok result =>
    cases c with
    | create now freshUuid data user =>
      obtain ⟨record, hrecord, -, hobject, -, rfl | ⟨-, rfl⟩⟩ := h
      · refine hupdate fun r hr => ?_
        obtain ⟨text, htext⟩ := hc data rfl hobject
        rw [← Option.some.inj hr, hrecord]
        exact ⟨data, document_parse_compact htext⟩
      · exact hv
    | update now target data user =>
      obtain ⟨record, -, hobject, -, -, -, rfl⟩ := h
      refine hupdate fun r hr => ?_
      obtain ⟨text, htext⟩ := hc data rfl hobject
      rw [← Option.some.inj hr]
      exact ⟨data, document_parse_compact htext⟩
    | delete target user =>
      obtain ⟨record, -, -, rfl⟩ := h
      exact hupdate fun _ hr => by cases hr
    | setLocked target locked =>
      obtain ⟨record, hrecord, rfl⟩ := h
      refine hupdate fun r hr => ?_
      rw [← Option.some.inj hr]
      exact hv target record hrecord
    | _ => exact hsame h

theorem Reachable.documented {b : Backend} (h : Reachable Call.Sound b) : Documented b.view := by
  induction h with
  | fresh hb =>
    intro uuid record hrecord
    rw [hb.view_eq] at hrecord
    cases hrecord
  | call hb hc ih => exact (run_effect hc.1 (hb.named fun _ h => h.1)).documented hc.2 ih

/-- A record that is not deleted descends from what it was. -/
theorem descends_step {c : Call} (hc : c.Sound) (hb : b.view.Named) {record : Record} {document : Value}
    (h : b.view uuid = some record) (hparse : Document.parse record.data = .ok document)
    (hkeeps : ¬(c.Deletes uuid ∧ c.Succeeds b)) :
    ∃ record', (c.next b).view uuid = some record' ∧
      Descends (if c.Updates uuid ∧ c.Succeeds b then 1 else 0) record record' := by
  have hfate := fate hc.1 hb h
  generalize (c.next b).view uuid = found at hfate
  cases hfate with
  | kept =>
    refine ⟨record, rfl, ?_⟩
    have hrefl := Descends.refl hparse
    split_ifs
    · exact hrefl.weaken (by omega)
    · exact hrefl
  | @updated now data user hok hobject _ hreplaces =>
    obtain ⟨text, htext⟩ := hc.2 data rfl hobject
    refine ⟨_, rfl, ?_⟩
    rw [if_pos ⟨rfl, hok⟩]
    exact descends_updated hreplaces htext
  | deleted hok _ => exact absurd ⟨rfl, hok⟩ hkeeps
  | relocked _ =>
    refine ⟨_, rfl, ?_⟩
    rw [if_neg fun h => h.1]
    exact ⟨rfl, rfl, rfl, rfl, (Descends.refl hparse).lost⟩

/-! ## Runs -/

/-- As long as nothing ends its lock, a locked record stays as it is and users are refused. -/
theorem locked_throughout {record : Record} (hlocked : record.locked) {calls : List Call}
    (hcalls : ∀ c ∈ calls, c.Sound) (hb : Reachable Call.Sound b) (h : b.view uuid = some record)
    (hends : Throughout (fun c s => ¬(c.EndsLock uuid ∧ c.Succeeds s)) calls b) :
    Throughout (fun c s => (c.next s).view uuid = some record ∧ (c.WritesAsUser uuid → c.Refused uuid s))
      calls b := by
  induction calls generalizing b with
  | nil => trivial
  | cons c calls ih =>
    have hc := hcalls c List.mem_cons_self
    have hnext := locked_step hc.1 (hb.named fun _ h => h.1) h hlocked hends.1
    exact ⟨⟨hnext, refused_of_locked h hlocked⟩,
      ih (fun c' h' => hcalls c' (List.mem_cons_of_mem c h')) (hb.call hc) hnext hends.2⟩

/-- As long as it is not deleted, a record descends from what it was, losing at most one identifier
with each update. -/
theorem descends_throughout {record : Record} {calls : List Call} (hcalls : ∀ c ∈ calls, c.Sound)
    (hb : Reachable Call.Sound b) (h : b.view uuid = some record)
    (hkeeps : Throughout (fun c s => ¬(c.Deletes uuid ∧ c.Succeeds s)) calls b) :
    ∃ record', (after calls b).view uuid = some record' ∧
      Descends (updateCount uuid calls b) record record' := by
  obtain ⟨document, hparse⟩ := hb.documented uuid record h
  induction calls generalizing b record document with
  | nil => exact ⟨record, h, .refl hparse⟩
  | cons c calls ih =>
    have hc := hcalls c List.mem_cons_self
    obtain ⟨record₁, h₁, hstep⟩ := descends_step hc (hb.named fun _ h => h.1) h hparse hkeeps.1
    obtain ⟨document₁, hparse₁⟩ := (hb.call hc).documented uuid record₁ h₁
    obtain ⟨record', h', hrest⟩ := ih (fun c' h' => hcalls c' (List.mem_cons_of_mem c h')) (hb.call hc) h₁
      hkeeps.2 document₁ hparse₁
    exact ⟨record', h', hstep.trans hrest⟩

/-- Locks hold and removals are limited along every run: a locked record stays as it is, and users
are refused, up to a call that ends the lock; a record that is not deleted keeps its identity, and
loses at most one identifier of its document with each update. -/
theorem policy_along_runs (hb : Reachable Call.Sound b) {calls : List Call} (hcalls : ∀ c ∈ calls, c.Sound)
    (uuid : String) :
    (((Call.setLocked uuid true).run b).1 = .ok () →
      Throughout (fun c s => ¬(c.EndsLock uuid ∧ c.Succeeds s)) calls ((Call.setLocked uuid true).next b) →
      ∃ record, ((Call.setLocked uuid true).next b).view uuid = some record ∧
        Throughout (fun c s => (c.next s).view uuid = some record ∧ (c.WritesAsUser uuid → c.Refused uuid s))
          calls ((Call.setLocked uuid true).next b)) ∧
    ∀ record, b.view uuid = some record →
      Throughout (fun c s => ¬(c.Deletes uuid ∧ c.Succeeds s)) calls b →
      ∃ record', (after calls b).view uuid = some record' ∧
        Descends (updateCount uuid calls b) record record' := by
  have hset : (Call.setLocked uuid true).Sound := ⟨trivial, fun _ h => by cases h⟩
  refine ⟨fun hok hends => ?_, fun record h hkeeps => descends_throughout hcalls hb h hkeeps⟩
  have heffect := run_effect hset.1 (hb.named fun _ h => h.1)
  rw [hok] at heffect
  obtain ⟨record, -, hview⟩ := heffect
  have hlocked : ((Call.setLocked uuid true).next b).view uuid = some (record.withLock true) := by
    rw [hview, Function.update_self]
  exact ⟨_, hlocked, locked_throughout rfl hcalls (hb.call hset) hlocked hends⟩

end Steps

theorem titled_sound (user : Option String) : (Call.create .newYear "u" titled user).Sound ∧
    (Call.update .newYear "u" titled user).Sound := by
  have htext : ∀ data ∈ some titled, data.isObject → ∃ text, Document.parse text = .ok data := by
    intro data h _
    obtain rfl := Option.some.inj h
    exact ⟨titled.compact, titled_parses⟩
  exact ⟨⟨Timestamp.newYear_isValid, htext⟩, Timestamp.newYear_isValid, htext⟩

/-- A store that holds one dashboard. -/
def titledStore : Backend := (Call.create .newYear "u" titled none).next (.memory .empty)

theorem titledStore_reachable : Reachable Call.Sound titledStore :=
  (Reachable.fresh .memory).call (titled_sound none).1

/-- A user tries to delete a dashboard that is locked, and another one updates it while it is not. -/
theorem titled_stays :
    (∃ record, ((Call.setLocked "u" true).next titledStore).view "u" = some record ∧
      Throughout (fun c s => (c.next s).view "u" = some record ∧ (c.WritesAsUser "u" → c.Refused "u" s))
        [.delete "u" (some "x")] ((Call.setLocked "u" true).next titledStore)) ∧
    ∃ record record', titledStore.view "u" = some record ∧
      (after [.update .newYear "u" titled (some "y")] titledStore).view "u" = some record' ∧
      Descends (updateCount "u" [.update .newYear "u" titled (some "y")] titledStore) record record' := by
  have hdelete : ∀ c ∈ [Call.delete "u" (some "x")], c.Sound := by
    rw [List.forall_mem_singleton]
    exact ⟨trivial, fun _ h => by cases h⟩
  have hupdate : ∀ c ∈ [Call.update .newYear "u" titled (some "y")], c.Sound := by
    rw [List.forall_mem_singleton]
    exact (titled_sound (some "y")).2
  refine ⟨(policy_along_runs titledStore_reachable hdelete "u").1 rfl ⟨fun h => ?_, trivial⟩, ?_⟩
  · cases h.1.2
  · obtain ⟨record', h', hdescends⟩ := (policy_along_runs titledStore_reachable hupdate "u").2 _ rfl
      ⟨fun h => h.1, trivial⟩
    exact ⟨_, record', rfl, h', hdescends⟩

end Dashboards.Service
