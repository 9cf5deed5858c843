import Dashboards.Proofs.Store.Agreement
import Dashboards.Service
import Mathlib

/-!
# The record that is shown

In memory a uuid shows its first record. Changes hit that record and no other; a deletion removes all
records of the uuid, which is the same if there is one. A store that is given its records at the start
may hold several, and requests never add to them.

* `Memory.after` : a store after requests; `count_after` : whether a uuid is held once at most stays so;
* `Memory.Shown` : the place of the record that is shown; `modifyFirst_shown`, `filter_shown` : what a
  change and a deletion make of it;
* `Memory.ChangesShown`, `Memory.RemovesShown` : requests hit what is shown; `changes_shown`,
  `removes_shown_iff` : where they do;
* `SparesLocked` : a user's deletion removes no locked record; `RemovesShown.sparesLocked`;
* `requests_hit_shown` : in every run, and for deletions exactly if the uuid was given once at most
  (`twin_is_deleted`).
-/

namespace Dashboards.Store.Memory

variable {m : Memory} {uuid : String} {r : Record} {before behind : List Record}

/-! ## Records of one uuid -/

/-- The store after some requests. -/
def after (m : Memory) (requests : List Request) : Memory := requests.foldl (fun m q => (m.answer q).2) m

theorem count_inOrder (uuids : List String) (q : Request) (h : uuids.count uuid ≤ 1) :
    (inOrder uuids q).count uuid ≤ 1 := by
  unfold inOrder
  split
  · next record =>
    split_ifs with hmem
    · exact h
    · rw [List.count_append, List.count_singleton]
      split_ifs with hsame
      · rw [beq_iff_eq] at hsame
        rw [← hsame, List.count_eq_zero_of_not_mem hmem]
      · exact h
  · exact (List.filter_sublist.count_le uuid).trans h
  · exact h

theorem count_after (requests : List Request) (h : (m.records.map (·.uuid)).count uuid ≤ 1) :
    ((m.after requests).records.map (·.uuid)).count uuid ≤ 1 := by
  induction requests generalizing m with
  | nil => exact h
  | cons q requests ih =>
    apply ih
    rw [map_uuid_answer]
    exact count_inOrder _ q h

theorem map_uuid_ofRecords (records : List Record) :
    (ofRecords records).records.map (·.uuid) = records.map (·.uuid) := by
  have hfold : ∀ m : Memory, (records.foldl append m).records.map (·.uuid) =
      m.records.map (·.uuid) ++ records.map (·.uuid) := by
    induction records with
    | nil => intro m; simp
    | cons r records ih =>
      intro m
      rw [List.foldl_cons, ih]
      simp [append]
  exact hfold .empty

/-! ## The place of a record -/

/-- The record that a uuid shows, with the records before and behind it. -/
structure Shown (m : Memory) (uuid : String) (r : Record) (before behind : List Record) : Prop where
  records : m.records = before ++ r :: behind
  named : r.uuid = uuid
  first : ∀ s ∈ before, s.uuid ≠ uuid

theorem exists_shown (h : m.find? uuid = some r) : ∃ before behind, m.Shown uuid r before behind := by
  obtain ⟨huuid, before, behind, hrecords, hfirst⟩ := List.find?_eq_some_iff_append.mp h
  exact ⟨before, behind, hrecords, by simpa using huuid, fun s hs => by simpa using hfirst s hs⟩

theorem Shown.find? (h : m.Shown uuid r before behind) : m.find? uuid = some r :=
  List.find?_eq_some_iff_append.mpr
    ⟨by simpa using h.named, before, behind, h.records, fun s hs => by simpa using h.first s hs⟩

theorem modifyFirst_shown (h : m.Shown uuid r before behind) (change : Record → Record) :
    modifyFirst uuid change m.records = before ++ change r :: behind := by
  obtain ⟨hrecords, huuid, hfirst⟩ := h
  rw [hrecords]
  clear hrecords
  induction before with
  | nil => rw [List.nil_append, List.nil_append, modifyFirst, if_pos huuid]
  | cons s before ih =>
    rw [List.cons_append, modifyFirst, if_neg (hfirst s List.mem_cons_self),
      ih fun t ht => hfirst t (List.mem_cons_of_mem s ht)]
    rfl

theorem modify_shown (h : m.Shown uuid r before behind) (change : Record → Record) :
    m.modify uuid change = (true, ⟨m.lastId, before ++ change r :: behind⟩) := by
  unfold modify
  rw [h.find?, modifyFirst_shown h change]
  rfl

theorem modify_missing (h : m.find? uuid = none) (change : Record → Record) : m.modify uuid change = (false, m) := by
  unfold modify
  rw [h]
  rfl

/-- A change that keeps the uuid leaves the changed record where the old one was shown. -/
theorem Shown.changed (h : m.Shown uuid r before behind) (r' : Record) (huuid : r'.uuid = r.uuid) (lastId : Int) :
    Shown ⟨lastId, before ++ r' :: behind⟩ uuid r' before behind :=
  ⟨rfl, huuid.trans h.named, h.first⟩

theorem count_eq_zero_iff {records : List Record} :
    (records.map (·.uuid)).count uuid = 0 ↔ ∀ s ∈ records, s.uuid ≠ uuid := by
  rw [List.count_eq_zero, List.mem_map]
  simp

/-- The records without the uuid are those around one that has it if there is no other. -/
theorem filter_around (hr : r.uuid = uuid) :
    (before ++ r :: behind).filter (·.uuid ≠ uuid) = before ++ behind ↔
      ((before ++ r :: behind).map (·.uuid)).count uuid ≤ 1 := by
  have hfilter : (before ++ r :: behind).filter (·.uuid ≠ uuid) = (before ++ behind).filter (·.uuid ≠ uuid) := by
    rw [List.filter_append, List.filter_append, List.filter_cons_of_neg (by simpa using hr)]
  have hcount : ((before ++ r :: behind).map (·.uuid)).count uuid =
      ((before ++ behind).map (·.uuid)).count uuid + 1 := by
    simp only [List.map_append, List.map_cons, List.count_append, hr, List.count_cons_self]
    omega
  rw [hfilter, hcount, List.filter_eq_self]
  constructor
  · intro hothers
    have hzero := count_eq_zero_iff.mpr fun s hs => by simpa using hothers s hs
    omega
  · intro hle s hs
    have hzero : ((before ++ behind).map (·.uuid)).count uuid = 0 := by omega
    simpa using count_eq_zero_iff.mp hzero s hs

/-! ## What requests hit -/

theorem answer_fetchOne (m : Memory) (uuid : String) : m.answer (.fetchOne uuid) = (.ok (m.find? uuid), m) := rfl

theorem answer_delete (h : m.find? uuid = some r) : m.answer (.delete uuid) = (.ok true, m.without uuid) := by
  rw [answer, h]
  rfl

/-- Changes of a uuid change the record that it shows, in its place, and nothing if it shows none. -/
def ChangesShown (m : Memory) (uuid : String) : Prop :=
  match m.find? uuid with
  | some r => ∃ before behind, m.records = before ++ r :: behind ∧
      (∀ change, change.uuid = uuid →
        m.answer (.update change) = (.ok true, ⟨m.lastId, before ++ r.withChange change :: behind⟩) ∧
        (m.answer (.update change)).2.find? uuid = some (r.withChange change)) ∧
      ∀ locked, m.answer (.setLocked uuid locked) = (.ok true, ⟨m.lastId, before ++ r.withLock locked :: behind⟩) ∧
        (m.answer (.setLocked uuid locked)).2.find? uuid = some (r.withLock locked)
  | none => (∀ change, change.uuid = uuid → m.answer (.update change) = (.ok false, m)) ∧
      ∀ locked, m.answer (.setLocked uuid locked) = (.ok false, m)

/-- A deletion of a uuid removes the record that it shows, and nothing if it shows none. -/
def RemovesShown (m : Memory) (uuid : String) : Prop :=
  match m.find? uuid with
  | some r => ∃ before behind, m.records = before ++ r :: behind ∧
      m.answer (.delete uuid) = (.ok true, ⟨m.lastId, before ++ behind⟩) ∧
      (m.answer (.delete uuid)).2.find? uuid = none
  | none => m.answer (.delete uuid) = (.ok false, m)

theorem changes_shown (m : Memory) (uuid : String) : m.ChangesShown uuid := by
  unfold ChangesShown
  cases hfound : m.find? uuid with
  | none =>
    refine ⟨fun change huuid => ?_, fun locked => ?_⟩
    · rw [answer, huuid, modify_missing hfound]
    · rw [answer, modify_missing hfound]
  | some r =>
    obtain ⟨before, behind, h⟩ := exists_shown hfound
    refine ⟨before, behind, h.records, fun change huuid => ?_, fun locked => ?_⟩
    · rw [answer, huuid, modify_shown h]
      exact ⟨rfl, (h.changed (r.withChange change) rfl m.lastId).find?⟩
    · rw [answer, modify_shown h]
      exact ⟨rfl, (h.changed (r.withLock locked) rfl m.lastId).find?⟩

theorem without_eq_self (h : m.find? uuid = none) : m.without uuid = m := by
  have hall : m.records.filter (·.uuid ≠ uuid) = m.records := by
    rw [List.filter_eq_self]
    intro s hs
    simpa using List.find?_eq_none.mp h s hs
  rw [without, hall]

theorem count_of_missing (h : m.find? uuid = none) : (m.records.map (·.uuid)).count uuid = 0 := by
  rw [count_eq_zero_iff]
  intro s hs
  simpa using List.find?_eq_none.mp h s hs

/-- Another record of the same uuid would be removed too. -/
theorem removes_shown_iff : m.RemovesShown uuid ↔ (m.records.map (·.uuid)).count uuid ≤ 1 := by
  unfold RemovesShown
  cases hfound : m.find? uuid with
  | none =>
    rw [count_of_missing hfound]
    refine iff_of_true ?_ (Nat.zero_le 1)
    rw [answer, hfound, without_eq_self hfound]
    rfl
  | some r =>
    have hr : r.uuid = uuid := by simpa using List.find?_some hfound
    constructor
    · rintro ⟨before, behind, hrecords, hanswer, -⟩
      have hremoved : m.records.filter (·.uuid ≠ uuid) = before ++ behind :=
        congrArg (fun reply => reply.2.records) hanswer
      rw [hrecords] at hremoved ⊢
      exact (filter_around hr).mp hremoved
    · intro hcount
      obtain ⟨before, behind, h⟩ := exists_shown hfound
      refine ⟨before, behind, h.records, ?_, ?_⟩
      · rw [h.records] at hcount
        rw [answer_delete hfound, without, h.records, (filter_around hr).mpr hcount]
      · exact (congrFun (find?_without m uuid) uuid).trans (Function.update_self ..)

end Dashboards.Store.Memory

namespace Dashboards.Service

open Store

variable {m : Memory} {uuid : String}

/-! ## Deletions by users -/

/-- A deletion by a user leaves every locked record where it is. -/
def SparesLocked (m : Memory) (uuid : String) : Prop :=
  ∀ user, ∀ s ∈ m.records, s.locked → s ∈ ((Service.delete uuid (some user)).run Memory.answer m).2.records

theorem delete_missing (h : m.find? uuid = none) (user : Option String) :
    (Service.delete uuid user).run Memory.answer m = (.error (.notFound uuid), m) := by
  unfold Service.delete withRecord ask
  rw [Program.run_ask, Memory.answer_fetchOne, h]
  rfl

/-- A deletion looks at the record that is shown, and then asks the store to delete the uuid. -/
theorem delete_found {r : Record} (h : m.find? uuid = some r) (user : Option String) :
    ((Service.delete uuid user).run Memory.answer m).2 =
      if user.isSome && r.locked then m else (m.answer (.delete uuid)).2 := by
  unfold Service.delete withRecord ask
  rw [Program.run_ask, Memory.answer_fetchOne, h]
  dsimp only [id]
  unfold unlessLocked
  split_ifs with hlocked
  · rfl
  · rw [Program.run_ask, Memory.answer_delete h]
    rfl

theorem sparesLocked_of_removesShown (h : m.RemovesShown uuid) : SparesLocked m uuid := by
  intro user s hs hlocked
  unfold Memory.RemovesShown at h
  cases hfound : m.find? uuid with
  | none => rwa [delete_missing hfound]
  | some r =>
    rw [hfound] at h
    obtain ⟨before, behind, hrecords, hanswer, -⟩ := h
    rw [delete_found hfound]
    split_ifs with hstopped
    · exact hs
    · have hne : s ≠ r := by
        rintro rfl
        exact hstopped hlocked
      rw [hanswer]
      rw [hrecords, List.mem_append, List.mem_cons] at hs
      rw [List.mem_append]
      tauto

/-! ## Runs -/

/-- In every run that starts with some records, changes of a uuid hit the record that is shown for it.
Deletions do so in all of these runs exactly if at most one of the records had that uuid, and then a
user's deletion never removes a locked record. -/
theorem requests_hit_shown (records : List Record) (uuid : String) :
    (∀ requests, ((Memory.ofRecords records).after requests).ChangesShown uuid) ∧
    ((∀ requests, ((Memory.ofRecords records).after requests).RemovesShown uuid ∧
        SparesLocked ((Memory.ofRecords records).after requests) uuid) ↔
      (records.map (·.uuid)).count uuid ≤ 1) := by
  refine ⟨fun requests => Memory.changes_shown _ uuid, ?_⟩
  rw [← Memory.map_uuid_ofRecords]
  constructor
  · intro h
    exact Memory.removes_shown_iff.mp (h []).1
  · intro hcount requests
    have hremoves := Memory.removes_shown_iff.mpr (Memory.count_after requests hcount)
    exact ⟨hremoves, sparesLocked_of_removesShown hremoves⟩

/-- A record, and another one of the same uuid that is locked. -/
def twins : List Record :=
  [Record.fresh "u" "\x7b\x7d" none .newYear, (Record.fresh "u" "\x7b\x7d" none .newYear).withLock true]

/-- The first of the two is shown and not locked, and with it a user deletes the other one. -/
theorem twin_is_deleted :
    ∃ shown hidden, (Memory.ofRecords twins).find? "u" = some shown ∧ shown.locked = false ∧
      hidden ∈ (Memory.ofRecords twins).records ∧ hidden.locked = true ∧
      (Service.delete "u" (some "x")).run Memory.answer (Memory.ofRecords twins) = (.ok (), ⟨2, []⟩) :=
  ⟨_, _, rfl, rfl, List.mem_cons_of_mem _ List.mem_cons_self, rfl, rfl⟩

end Dashboards.Service
