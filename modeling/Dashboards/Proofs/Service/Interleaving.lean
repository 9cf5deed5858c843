import Dashboards.Proofs.Service.Policy
import Dashboards.Proofs.Service.Requests
import Mathlib

/-!
# Calls in flight

* `Flight` : a call and what is left of it; `Event` : a request that one of them asked;
* `Traffic` : a store with the calls in flight on it, and what they have asked; `Traffic.Reached` :
  what a fresh store may come to, whatever calls begin and whichever of them asks next;
* `flights_begin`, `flights_answer` : the calls in flight after a step; `Consistent` : the invariant
  (`Consistent.begin`, `Consistent.answer`, `Reached.consistent`);
* `Reached.call` : a call that nothing interrupts does what it does alone;
* `exists_between` : what changed about a record since an event was changed by an event
  (`exists_locks`, `exists_stores`);
* `Traffic.Commits` : a call is about to write a record; `LocksHold`, `LimitsHold` : it does so only
  where lock and limit allow it at that time, which fails in a race (`overtaken`);
* `allowed_when_fetched` : they allowed it when the call fetched the record, and do so still unless
  another call has locked it or stored a document since (`allowed_before_overtaken`).
-/

namespace Dashboards.Service

open Json Store

/-- A call and what is left of it. -/
structure Flight where
  call : Call
  rest : Task call.Outcome

/-- A request that a call in flight asked, and the store that it met. -/
structure Event where
  flight : Nat
  call : Call
  request : Request
  before : Backend

namespace Event

def reply (e : Event) : Reply e.request := (e.before.answer e.request).1

def after (e : Event) : Backend := (e.before.answer e.request).2

def exchange (e : Event) : Exchange := ⟨e.request, e.reply⟩

/-- It locked the record. -/
def Locks (uuid : String) (e : Event) : Prop := Done e.request e.reply ∧ e.request = .setLocked uuid true

/-- It stored a document in the record, which may have been a new one. -/
def Stores (uuid : String) (e : Event) : Prop :=
  Done e.request e.reply ∧ ∃ record : Record, record.uuid = uuid ∧
    (e.request = .insert record ∨ e.request = .update record)

/-- The call was to ask the request, of records found under their own uuids. -/
structure Lawful (e : Event) : Prop where
  named : e.before.view.Named
  timely : e.request.Timely
  asks : ∃ past, e.call.Asks past e.request

theorem Lawful.effect {e : Event} (h : e.Lawful) : Effect e.request e.reply e.before.view e.after.view :=
  Backend.answer_effect h.timely h.named

end Event

/-- A store, the calls in flight on it, and what they have asked, the last request first. -/
structure Traffic where
  store : Backend
  flights : List Flight
  events : List Event

namespace Traffic

/-- The exchanges of one call, the last one first. -/
def past (t : Traffic) (i : Nat) : List Exchange := (t.events.filter (·.flight = i)).map (·.exchange)

/-- One more call. -/
def begin (t : Traffic) (c : Call) : Traffic := { t with flights := t.flights ++ [⟨c, c.task⟩] }

/-- The store answers a request of the call, which goes on with `next`. -/
def answer (t : Traffic) (i : Nat) (c : Call) (q : Request) (next : Reply q → Task c.Outcome) : Traffic where
  store := (t.store.answer q).2
  flights := t.flights.set i ⟨c, next (t.store.answer q).1⟩
  events := ⟨i, c, q, t.store⟩ :: t.events

/-- Calls begin at any time, and any of them may be the next that is answered. -/
inductive Reached : Traffic → Prop where
  | start {b : Backend} : b.Fresh → Reached ⟨b, [], []⟩
  | begin {t : Traffic} {c : Call} : Reached t → c.Timely → Reached (t.begin c)
  | answer {t : Traffic} {i : Nat} {c : Call} {q : Request} {next : Reply q → Task c.Outcome} :
      Reached t → t.flights[i]? = some ⟨c, .ask q next⟩ → Reached (t.answer i c q next)

end Traffic

open Traffic

/-! ## The invariant -/

/-- Every event met the store that the one before it left, and the last one left this one. -/
def Linked : List Event → Backend → Prop
  | [], _ => True
  | e :: events, b => b = e.after ∧ Linked events e.before

structure Consistent (t : Traffic) : Prop where
  named : t.store.view.Named
  linked : Linked t.events t.store
  lawful : ∀ e ∈ t.events, e.Lawful
  known : ∀ e ∈ t.events, e.flight < t.flights.length
  timely : ∀ f ∈ t.flights, f.call.Timely
  follows : ∀ i f, t.flights[i]? = some f → Follows f.call.Asks (t.past i) f.rest

section Consistent

variable {t : Traffic}

/-- The call that began last is the last in flight. -/
theorem flights_begin {c : Call} {i : Nat} {f : Flight} (h : (t.begin c).flights[i]? = some f) :
    t.flights[i]? = some f ∨ t.flights.length ≤ i ∧ f = ⟨c, c.task⟩ := by
  change (t.flights ++ [⟨c, c.task⟩])[i]? = some f at h
  by_cases hi : i < t.flights.length
  · rw [List.getElem?_append_left hi] at h
    exact .inl h
  · rw [List.getElem?_append_right (not_lt.mp hi), List.getElem?_singleton] at h
    split_ifs at h
    exact .inr ⟨not_lt.mp hi, (Option.some.inj h).symm⟩

/-- Only the call that was answered goes on. -/
theorem flights_answer {i j : Nat} {c : Call} {q : Request} {next : Reply q → Task c.Outcome} {f : Flight}
    (hi : t.flights[i]? = some ⟨c, .ask q next⟩) (h : (t.answer i c q next).flights[j]? = some f) :
    i = j ∧ f = ⟨c, next (t.store.answer q).1⟩ ∨ i ≠ j ∧ t.flights[j]? = some f := by
  change (t.flights.set i _)[j]? = some f at h
  by_cases hne : i = j
  · subst hne
    rw [List.getElem?_set_self (List.getElem?_eq_some_iff.mp hi).1] at h
    exact .inl ⟨rfl, (Option.some.inj h).symm⟩
  · rw [List.getElem?_set_ne hne] at h
    exact .inr ⟨hne, h⟩

theorem past_eq_nil (h : ∀ e ∈ t.events, e.flight < t.flights.length) {i : Nat} (hi : t.flights.length ≤ i) :
    t.past i = [] := by
  rw [Traffic.past, List.map_eq_nil_iff, List.filter_eq_nil_iff]
  intro e he
  have := h e he
  simp
  omega

theorem Consistent.start {b : Backend} (hb : b.Fresh) : Consistent ⟨b, [], []⟩ where
  named := hb.named
  linked := trivial
  lawful _ he := absurd he List.not_mem_nil
  known _ he := absurd he List.not_mem_nil
  timely _ hf := absurd hf List.not_mem_nil
  follows _ _ hf := by simp at hf

theorem Consistent.begin (h : Consistent t) {c : Call} (hc : c.Timely) : Consistent (t.begin c) where
  named := h.named
  linked := h.linked
  lawful := h.lawful
  known e he := by
    have := h.known e he
    simp only [Traffic.begin, List.length_append, List.length_singleton]
    omega
  timely f hf := by
    rcases List.mem_append.mp hf with hf | hf
    · exact h.timely f hf
    · rw [List.mem_singleton.mp hf]
      exact hc
  follows i f hf := by
    change Follows f.call.Asks (t.past i) f.rest
    rcases flights_begin hf with hf | ⟨hi, rfl⟩
    · exact h.follows i f hf
    · rw [past_eq_nil h.known hi]
      exact task_follows c

theorem past_answer_self (t : Traffic) (i : Nat) (c : Call) (q : Request) (next : Reply q → Task c.Outcome) :
    (t.answer i c q next).past i = ⟨q, (t.store.answer q).1⟩ :: t.past i := by
  simp [Traffic.past, Traffic.answer, Event.exchange, Event.reply]

theorem past_answer_of_ne (t : Traffic) {i j : Nat} (hne : i ≠ j) (c : Call) (q : Request)
    (next : Reply q → Task c.Outcome) : (t.answer i c q next).past j = t.past j := by
  simp [Traffic.past, Traffic.answer, hne]

theorem Consistent.answer (h : Consistent t) {i : Nat} {c : Call} {q : Request} {next : Reply q → Task c.Outcome}
    (hi : t.flights[i]? = some ⟨c, .ask q next⟩) : Consistent (t.answer i c q next) := by
  obtain ⟨hasks, hnext⟩ := h.follows i _ hi
  have hc : c.Timely := h.timely _ (List.mem_of_getElem? hi)
  have hlawful : Event.Lawful ⟨i, c, q, t.store⟩ := ⟨h.named, hasks.timely hc, _, hasks⟩
  have hlength : i < t.flights.length := (List.getElem?_eq_some_iff.mp hi).1
  refine ⟨hlawful.effect.named h.named, ⟨rfl, h.linked⟩, ?_, ?_, ?_, ?_⟩
  · exact List.forall_mem_cons.mpr ⟨hlawful, h.lawful⟩
  · rw [Traffic.answer, List.length_set]
    exact List.forall_mem_cons.mpr ⟨hlength, h.known⟩
  · intro f hf
    rcases List.mem_or_eq_of_mem_set hf with hf | rfl
    · exact h.timely f hf
    · exact hc
  · intro j f hf
    rcases flights_answer hi hf with ⟨rfl, rfl⟩ | ⟨hne, hf⟩
    · rw [past_answer_self]
      exact hnext _
    · rw [past_answer_of_ne t hne]
      exact h.follows j f hf

theorem Traffic.Reached.consistent (h : t.Reached) : Consistent t := by
  induction h with
  | start hb => exact .start hb
  | begin _ hc ih => exact ih.begin hc
  | answer _ hi ih => exact ih.answer hi

end Consistent

/-! ## A call alone -/

/-- What is left of a call may be asked to the end. -/
theorem reached_rest {i : Nat} {c : Call} (rest : Task c.Outcome) :
    ∀ {t : Traffic}, t.Reached → t.flights[i]? = some ⟨c, rest⟩ →
      ∃ t' : Traffic, t'.Reached ∧ t'.store = (rest.run Backend.answer t.store).2 ∧
        ∀ j ≠ i, t'.flights[j]? = t.flights[j]? := by
  induction rest with
  | done outcome => exact fun {t} ht _ => ⟨t, ht, rfl, fun _ _ => rfl⟩
  | ask q next ih =>
    intro t ht hi
    have hlength : i < t.flights.length := (List.getElem?_eq_some_iff.mp hi).1
    obtain ⟨t', ht', hstore, hflights⟩ := ih (t.store.answer q).1 (ht.answer hi)
      (List.getElem?_set_self hlength)
    refine ⟨t', ht', hstore, fun j hj => ?_⟩
    rw [hflights j hj]
    exact List.getElem?_set_ne hj.symm

/-- A call that nothing interrupts does what it does alone, and the others still wait. -/
theorem Traffic.Reached.call {t : Traffic} (ht : t.Reached) {c : Call} (hc : c.Timely) :
    ∃ t' : Traffic, t'.Reached ∧ t'.store = c.next t.store ∧
      ∀ (j : Nat) (f : Flight), t.flights[j]? = some f → t'.flights[j]? = some f := by
  obtain ⟨t', ht', hstore, hflights⟩ := reached_rest c.task (ht.begin hc) List.getElem?_concat_length
  refine ⟨t', ht', hstore, fun j f hj => ?_⟩
  have hlength : j < t.flights.length := (List.getElem?_eq_some_iff.mp hj).1
  rw [hflights j (by omega), ← hj]
  exact List.getElem?_append_left hlength

/-! ## What happened in between -/

/-- What changed about a record since an event was changed by an event. -/
theorem exists_between {uuid : String} {p : Record → Prop} {fetch : Event} {earlier : List Event}
    (hfetch : ∀ r ∈ fetch.after.view uuid, p r) :
    ∀ {later : List Event} {b : Backend} {stored : Record}, Linked (later ++ fetch :: earlier) b →
      b.view uuid = some stored → ¬p stored →
      ∃ e ∈ later, (∀ r ∈ e.before.view uuid, p r) ∧ ∃ r, e.after.view uuid = some r ∧ ¬p r := by
  intro later
  induction later with
  | nil =>
    intro b stored hlinked hstored hnot
    obtain ⟨rfl, -⟩ := hlinked
    exact absurd (hfetch stored hstored) hnot
  | cons e later ih =>
    intro b stored hlinked hstored hnot
    obtain ⟨rfl, hrest⟩ := hlinked
    by_cases hbefore : ∀ r ∈ e.before.view uuid, p r
    · exact ⟨e, List.mem_cons_self, hbefore, stored, hstored, hnot⟩
    · simp only [Option.mem_def, not_forall] at hbefore
      obtain ⟨r, hr, hpr⟩ := hbefore
      obtain ⟨e', hmem, he'⟩ := ih hrest hr hpr
      exact ⟨e', List.mem_cons_of_mem _ hmem, he'⟩

/-- The only exchange of a call is an event that the other calls surround. -/
theorem exists_event_of_past {t : Traffic} {i : Nat} {exchange : Exchange} (h : t.past i = [exchange]) :
    ∃ later fetch earlier, t.events = later ++ fetch :: earlier ∧ fetch.flight = i ∧
      fetch.exchange = exchange ∧ ∀ e ∈ later ++ earlier, e.flight ≠ i := by
  obtain ⟨fetch, hfilter, hexchange⟩ := List.map_eq_singleton_iff.mp h
  obtain ⟨later, earlier, hevents, hlater, hflight, hearlier⟩ := List.filter_eq_cons_iff.mp hfilter
  rw [List.filter_eq_nil_iff] at hearlier
  refine ⟨later, fetch, earlier, hevents, by simpa using hflight, hexchange, fun e he => ?_⟩
  rcases List.mem_append.mp he with he | he
  · simpa using hlater e he
  · simpa using hearlier e he

section Between

variable {uuid : String} {record : Record} {fetch : Event}

/-- What was fetched was there, and still is. -/
theorem view_of_found (h : fetch.Lawful) (hfound : fetch.exchange = found uuid record) :
    fetch.before.view uuid = some record ∧ fetch.after.view = fetch.before.view := by
  obtain ⟨i, c, q, b⟩ := fetch
  injection hfound with hq hreply
  obtain rfl : q = .fetchOne uuid := hq
  obtain ⟨hsame, hsound, -⟩ := h.effect
  exact ⟨(hsound _ (eq_of_heq hreply)).symm, hsame⟩

/-- Only a request to lock a record locks it: what calls insert is not locked. -/
theorem locks_of_locked {e : Event} (h : e.Lawful) (hbefore : ∀ r ∈ e.before.view uuid, r.locked = false)
    {r : Record} (hr : e.after.view uuid = some r) (hlocked : r.locked = true) : e.Locks uuid := by
  obtain hkept | ⟨hdone, horigin⟩ := h.effect.origin hr
  · rw [hbefore r hkept] at hlocked
    cases hlocked
  · obtain ⟨i, c, q, b⟩ := e
    dsimp only at horigin
    cases horigin with
    | inserted id huuid =>
      obtain ⟨past, hasks⟩ := h.asks
      obtain ⟨now, freshUuid, data, user, -, rfl⟩ := hasks.created
      cases hlocked
    | changed huuid hstored =>
      rw [Record.withChange, hbefore _ hstored] at hlocked
      cases hlocked
    | relocked hstored =>
      obtain rfl := hlocked
      exact ⟨hdone, rfl⟩

/-- Only a request that brings a document changes that of a record. -/
theorem stores_of_changed {e : Event} (h : e.Lawful) (hbefore : ∀ r ∈ e.before.view uuid, r.data = record.data)
    {r : Record} (hr : e.after.view uuid = some r) (hdata : r.data ≠ record.data) : e.Stores uuid := by
  obtain hkept | ⟨hdone, horigin⟩ := h.effect.origin hr
  · exact absurd (hbefore r hkept) hdata
  · refine ⟨hdone, ?_⟩
    obtain ⟨i, c, q, b⟩ := e
    dsimp only at horigin
    cases horigin with
    | inserted id huuid => exact ⟨_, huuid, .inl rfl⟩
    | changed huuid hstored => exact ⟨_, huuid, .inr rfl⟩
    | relocked hstored => exact absurd (hbefore _ hstored) hdata

variable {later earlier : List Event} {b : Backend} {stored : Record}

/-- A record that was not locked is locked now because an event locked it. -/
theorem exists_locks (hlinked : Linked (later ++ fetch :: earlier) b) (hlawful : ∀ e ∈ later, e.Lawful)
    (hfetched : fetch.after.view uuid = some record) (hunlocked : record.locked = false)
    (hstored : b.view uuid = some stored) (hlocked : stored.locked = true) : ∃ e ∈ later, e.Locks uuid := by
  have hstart : ∀ r ∈ fetch.after.view uuid, r.locked = false := by
    intro r hr
    obtain rfl := Option.some.inj (hfetched.symm.trans hr)
    exact hunlocked
  obtain ⟨e, he, hbefore, r, hr, hnot⟩ := exists_between hstart hlinked hstored (by simp [hlocked])
  exact ⟨e, he, locks_of_locked (hlawful e he) hbefore hr (by simpa using hnot)⟩

/-- A record has another document now because an event stored one. -/
theorem exists_stores (hlinked : Linked (later ++ fetch :: earlier) b) (hlawful : ∀ e ∈ later, e.Lawful)
    (hfetched : fetch.after.view uuid = some record) (hstored : b.view uuid = some stored)
    (hdata : stored.data ≠ record.data) : ∃ e ∈ later, e.Stores uuid := by
  have hstart : ∀ r ∈ fetch.after.view uuid, r.data = record.data := by
    intro r hr
    obtain rfl := Option.some.inj (hfetched.symm.trans hr)
    rfl
  obtain ⟨e, he, hbefore, r, hr, hnot⟩ := exists_between hstart hlinked hstored hdata
  exact ⟨e, he, stores_of_changed (hlawful e he) hbefore hr hnot⟩

end Between

/-! ## Lock and limit -/

/-- It updates or deletes the record of that uuid. -/
def Writes (uuid : String) : Request → Prop
  | .update record => record.uuid = uuid
  | .delete target => target = uuid
  | _ => False

/-- A call in flight asks next to update or delete a record, and the store does it. -/
structure Traffic.Commits (t : Traffic) (i : Nat) (c : Call) (q : Request) (uuid : String) : Prop where
  asks : ∃ next, t.flights[i]? = some ⟨c, .ask q next⟩
  writes : Writes uuid q
  done : Done q (t.store.answer q).1

/-- The record is not locked against the call. -/
def Call.RespectsLock (c : Call) (uuid : String) (record : Record) : Prop :=
  c.WritesAsUser uuid → record.locked = false

/-- The data that the call brings loses at most one widget of the record's document. -/
def Call.RespectsLimit (c : Call) (record : Record) : Prop :=
  ∀ data ∈ c.data?, ∃ old, Document.parse record.data = .ok old ∧
    (Document.lost old data).card ≤ Document.maxRemoved

/-- No user writes a record that is locked at that time. -/
def Traffic.LocksHold (t : Traffic) : Prop :=
  ∀ i c q uuid stored, t.Commits i c q uuid → t.store.view uuid = some stored → c.RespectsLock uuid stored

/-- No document loses more widgets than allowed of the one that is stored at that time. -/
def Traffic.LimitsHold (t : Traffic) : Prop :=
  ∀ i c q uuid stored, t.Commits i c q uuid → t.store.view uuid = some stored → c.RespectsLimit stored

/-! ## A race -/

def widget (id : String) : Value := .object [("id", .string id), ("query", .object [])]

/-- A document with two widgets. -/
def charted : Value := .object [("title", .string "t"), ("widgets", .array [widget "a", widget "b"])]

theorem charted_parses : Document.parse charted.compact = .ok charted := by
  refine document_parse_of_canonical ?_ (by decide) rfl
  have hmembers : "title" < "widgets" ∧ "id" < "query" := by
    rw [String.lt_iff_toList_lt, String.lt_iff_toList_lt]
    decide
  simpa [charted, widget, Value.Canonical, Value.CanonicalMembers, Value.CanonicalItems, SortedKeys] using hmembers

def titledRecord : Record := createdRecord .newYear "u" titled none 1

/-- The system stores two widgets and locks. -/
theorem charted_next : (Call.setLocked "u" true).next ((Call.update .newYear "u" charted none).next titledStore) =
    .memory ⟨1, [(updatedRecord titledRecord .newYear charted none).withLock true]⟩ := by
  have hfound : titledStore.view "u" = some titledRecord := rfl
  have hadmits : Admits titledRecord none := fun h => by cases h.1
  have hupdate : (Call.update .newYear "u" charted none).next titledStore =
      .memory ⟨1, [updatedRecord titledRecord .newYear charted none]⟩ := by
    change ((Service.update .newYear "u" charted none).run Backend.answer titledStore).2 = _
    rw [update_admitted hfound rfl hadmits ⟨titled, [], titled_parses, rfl⟩]
    rfl
  rw [hupdate]
  rfl

/-- A user's update is checked against a document without widgets and no lock; before it asks for the
change, the system stores two widgets and locks the record. -/
theorem exists_overtaken : ∃ t i record stored, Traffic.Reached t ∧
    t.Commits i (.update .newYear "u" titled (some "x")) (.update record) "u" ∧
    t.store.view "u" = some stored ∧ stored.locked = true ∧ Document.parse stored.data = .ok charted := by
  have hadmits : Admits titledRecord (some "x") := fun h => by cases h.2
  have hreplaces : Replaces titledRecord titled := ⟨titled, [], titled_parses, rfl⟩
  obtain ⟨next, hnext, hlast⟩ : ∃ next, (Call.update .newYear "u" titled (some "x")).task = _ ∧ _ := update_task rfl
  obtain ⟨last, hlast⟩ := hlast titledRecord hadmits hreplaces
  -- the dashboard is there, and the user's update has fetched it
  obtain ⟨t, ht, hstore, -⟩ := (Reached.start .memory).call (titled_sound none).1.1
  set begun := t.begin (.update .newYear "u" titled (some "x")) with hbegun
  have hasking : begun.flights[t.flights.length]? = some ⟨_, .ask (.fetchOne "u") next⟩ := by
    rw [← hnext]
    exact List.getElem?_concat_length
  have hreached := (ht.begin (titled_sound (some "x")).2.1).answer hasking
  set fetched := begun.answer _ _ _ next with hfetched
  have hreply : t.store.answer (.fetchOne "u") = (.ok (some titledRecord), titledStore) := by
    rw [hstore]
    rfl
  have hwaiting : fetched.flights[t.flights.length]? = some ⟨_, .ask _ last⟩ := by
    rw [← hlast, hfetched, hbegun, Traffic.answer, Traffic.begin, hreply]
    exact List.getElem?_set_self (by simp)
  -- the system stores two widgets and locks
  have hcharted : (Call.update .newYear "u" charted none).Timely := Timestamp.newYear_isValid
  have hset : (Call.setLocked "u" true).Timely := trivial
  obtain ⟨t', ht', hstore', hflights'⟩ := hreached.call hcharted
  obtain ⟨t'', ht'', hstore'', hflights''⟩ := ht'.call hset
  have hlocked : t''.store = .memory ⟨1, [(updatedRecord titledRecord .newYear charted none).withLock true]⟩ := by
    rw [← charted_next, hstore'', hstore', hfetched, hbegun, Traffic.answer, Traffic.begin, hreply]
  have hdone : Done (.update (updatedRecord titledRecord .newYear titled (some "x")))
      (t''.store.answer (.update (updatedRecord titledRecord .newYear titled (some "x")))).1 := by
    rw [hlocked]
    rfl
  have hview : t''.store.view "u" = some ((updatedRecord titledRecord .newYear charted none).withLock true) := by
    rw [hlocked]
    rfl
  exact ⟨t'', t.flights.length, _, _, ht'', ⟨⟨last, hflights'' _ _ (hflights' _ _ hwaiting)⟩, rfl, hdone⟩, hview,
    rfl, charted_parses⟩

/-- The user's document lacks both. -/
theorem charted_lost : Document.maxRemoved < (Document.lost charted titled).card := by
  decide

/-- A user may write a record that is locked by then, and an update may lose more widgets than allowed. -/
theorem overtaken : (∃ t, Traffic.Reached t ∧ ¬t.LocksHold) ∧ ∃ t, Traffic.Reached t ∧ ¬t.LimitsHold := by
  obtain ⟨t, i, record, stored, ht, hcommit, hstored, hlocked, hparse⟩ := exists_overtaken
  refine ⟨⟨t, ht, fun hholds => ?_⟩, t, ht, fun hholds => ?_⟩
  · have hunlocked := hholds i _ _ "u" stored hcommit hstored ⟨rfl, rfl⟩
    rw [hlocked] at hunlocked
    cases hunlocked
  · obtain ⟨old, hold, hcard⟩ := hholds i _ _ "u" stored hcommit hstored titled rfl
    rw [hparse] at hold
    obtain rfl := Except.ok.inj hold
    exact absurd hcard (not_le.mpr charted_lost)

/-! ## What holds -/

theorem respectsLock_of_admits {record : Record} {user : Option String} (h : Admits record user)
    (hsome : user.isSome) : record.locked = false := by
  unfold Admits at h
  simpa [hsome] using h

theorem respectsLimit_of_replaces {record : Record} {data : Value} (h : Replaces record data) :
    ∃ old, Document.parse record.data = .ok old ∧ (Document.lost old data).card ≤ Document.maxRemoved := by
  obtain ⟨old, removed, hparse, hremoval⟩ := h
  exact ⟨old, hparse, Document.card_lost_of_checkRemoval hremoval⟩

/-- A call that asks to write a record has found it before, and lock and limit allowed it then. -/
theorem Call.Asks.fetched {c : Call} {past : List Exchange} {q : Request} {uuid : String} (h : c.Asks past q)
    (hwrites : Writes uuid q) :
    ∃ target record, past = [found target record] ∧ (record.uuid = target → target = uuid) ∧
      c.RespectsLock target record ∧ c.RespectsLimit record := by
  cases c with
  | update now target data user =>
    obtain ⟨-, rfl⟩ | ⟨record, hpast, hadmits, hreplaces, rfl⟩ := h
    · cases hwrites
    · refine ⟨target, record, hpast, fun huuid => huuid.symm.trans hwrites, ?_, ?_⟩
      · exact fun huser => respectsLock_of_admits hadmits huser.2
      · intro data' hdata
        obtain rfl := Option.some.inj hdata
        exact respectsLimit_of_replaces hreplaces
  | delete target user =>
    obtain ⟨-, rfl⟩ | ⟨record, hpast, hadmits, rfl⟩ := h
    · cases hwrites
    · refine ⟨target, record, hpast, fun _ => hwrites, ?_, ?_⟩
      · exact fun huser => respectsLock_of_admits hadmits huser.2
      · exact fun _ hdata => by cases hdata
  | _ =>
    obtain ⟨-, rfl⟩ := h
    cases hwrites

/-- When a call writes a record, lock and limit allowed it as the call fetched the record; they still
do unless since then another call has locked the record, or has stored a document in it. -/
theorem allowed_when_fetched {t : Traffic} (ht : t.Reached) {i : Nat} {c : Call} {q : Request} {uuid : String}
    (hcommit : t.Commits i c q uuid) :
    ∃ record later fetch earlier, t.events = later ++ fetch :: earlier ∧ fetch.flight = i ∧
      fetch.exchange = found uuid record ∧ (∀ e ∈ later ++ earlier, e.flight ≠ i) ∧
      fetch.before.view uuid = some record ∧ c.RespectsLock uuid record ∧ c.RespectsLimit record ∧
      ∀ stored, t.store.view uuid = some stored →
        (c.RespectsLock uuid stored ∨ ∃ e ∈ later, e.Locks uuid) ∧
        (c.RespectsLimit stored ∨ ∃ e ∈ later, e.Stores uuid) := by
  obtain ⟨next, hi⟩ := hcommit.asks
  have hconsistent := ht.consistent
  have hasks : c.Asks (t.past i) q := (hconsistent.follows i _ hi).1
  obtain ⟨target, record, hpast, htarget, hlock, hlimit⟩ := hasks.fetched hcommit.writes
  obtain ⟨later, fetch, earlier, hevents, hflight, hfound, hothers⟩ := exists_event_of_past hpast
  have hfetch : fetch.Lawful := hconsistent.lawful fetch (by rw [hevents]; simp)
  obtain ⟨hview, hsame⟩ := view_of_found hfetch hfound
  obtain rfl := htarget (hfetch.named target record hview)
  have hlinked : Linked (later ++ fetch :: earlier) t.store := hevents ▸ hconsistent.linked
  have hlawful : ∀ e ∈ later, e.Lawful := fun e he =>
    hconsistent.lawful e (by rw [hevents]; exact List.mem_append_left _ he)
  have hafter : fetch.after.view target = some record := by rw [hsame, hview]
  refine ⟨record, later, fetch, earlier, hevents, hflight, hfound, hothers, hview, hlock, hlimit, ?_⟩
  intro stored hstored
  constructor
  · by_cases hlocked : stored.locked = true
    · by_cases huser : c.WritesAsUser target
      · exact .inr (exists_locks hlinked hlawful hafter (hlock huser) hstored hlocked)
      · exact .inl fun h => absurd h huser
    · exact .inl fun _ => by simpa using hlocked
  · by_cases hdata : stored.data = record.data
    · left
      unfold Call.RespectsLimit
      rw [hdata]
      exact hlimit
    · exact .inr (exists_stores hlinked hlawful hafter hstored hdata)

/-- The user's update was allowed when it fetched the record, and the record was locked after that. -/
theorem allowed_before_overtaken : ∃ t i c q record later fetch earlier, Traffic.Reached t ∧ t.Commits i c q "u" ∧
    t.events = later ++ fetch :: earlier ∧ fetch.exchange = found "u" record ∧ c.RespectsLock "u" record ∧
    ∃ e ∈ later, e.Locks "u" := by
  obtain ⟨t, i, record, stored, ht, hcommit, hstored, hlocked, -⟩ := exists_overtaken
  obtain ⟨fetched, later, fetch, earlier, hevents, -, hfound, -, -, hlock, -, hsince⟩ :=
    allowed_when_fetched ht hcommit
  refine ⟨t, i, _, _, fetched, later, fetch, earlier, ht, hcommit, hevents, hfound, hlock, ?_⟩
  rcases (hsince stored hstored).1 with hrespects | hlocks
  · have hunlocked := hrespects ⟨rfl, rfl⟩
    rw [hlocked] at hunlocked
    cases hunlocked
  · exact hlocks

end Dashboards.Service
