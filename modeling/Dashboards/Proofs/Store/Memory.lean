import Dashboards.Proofs.Store.Effect
import Dashboards.Store.Memory
import Mathlib

/-!
# Requests to a store in memory

* `forall_modifyFirst`, `map_modifyFirst` : what a change of one record keeps;
* `find?_modifyFirst`, `find?_append`, `find?_without` : a record by its uuid after a change;
* `find?_of_mem` : a record is found where no other has its uuid;
* `modified` : what `modify` does;
* `answer_effect` : every request does what it should;
* `Ascending`, `Reached.ascending` : identifiers ascend in a store that was given some records, and
  requests since.
-/

namespace Dashboards.Store.Memory

theorem find?_modifyFirst {change : Record → Record} (hchange : ∀ r, (change r).uuid = r.uuid)
    (uuid other : String) (records : List Record) :
    (modifyFirst uuid change records).find? (·.uuid = other) =
      if other = uuid then (records.find? (·.uuid = uuid)).map change
      else records.find? (·.uuid = other) := by
  induction records with
  | nil =>
    rw [modifyFirst]
    split_ifs <;> rfl
  | cons r rest ih =>
    by_cases hr : r.uuid = uuid
    · rw [modifyFirst, if_pos hr]
      by_cases hother : other = uuid
      · subst hother
        rw [if_pos rfl, List.find?_cons_of_pos (by simpa [hchange] using hr),
          List.find?_cons_of_pos (by simpa using hr)]
        rfl
      · have hne : r.uuid ≠ other := fun h => hother (by rw [← h, hr])
        rw [if_neg hother, List.find?_cons_of_neg (by simpa [hchange] using hne),
          List.find?_cons_of_neg (by simpa using hne)]
    · rw [modifyFirst, if_neg hr]
      by_cases hro : r.uuid = other
      · have hother : other ≠ uuid := fun h => hr (by rw [hro, h])
        rw [if_neg hother, List.find?_cons_of_pos (by simpa using hro),
          List.find?_cons_of_pos (by simpa using hro)]
      · rw [List.find?_cons_of_neg (by simpa using hro), ih, List.find?_cons_of_neg (by simpa using hr),
          List.find?_cons_of_neg (by simpa using hro)]

theorem forall_modifyFirst {P : Record → Prop} {change : Record → Record} (hchange : ∀ r, P r → P (change r))
    {uuid : String} {records : List Record} (h : ∀ r ∈ records, P r) : ∀ r ∈ modifyFirst uuid change records, P r := by
  induction records with
  | nil => exact h
  | cons s rest ih =>
    have hrest : ∀ r ∈ rest, P r := fun r hr => h r (List.mem_cons_of_mem s hr)
    rw [modifyFirst]
    split_ifs
    · rw [List.forall_mem_cons]
      exact ⟨hchange s (h s List.mem_cons_self), hrest⟩
    · rw [List.forall_mem_cons]
      exact ⟨h s List.mem_cons_self, ih hrest⟩

theorem map_modifyFirst {α : Type} {f : Record → α} {change : Record → Record} (hchange : ∀ r, f (change r) = f r)
    (uuid : String) (records : List Record) :
    (modifyFirst uuid change records).map f = records.map f := by
  induction records with
  | nil => rfl
  | cons s rest ih =>
    rw [modifyFirst]
    split_ifs
    · rw [List.map_cons, List.map_cons, hchange]
    · rw [List.map_cons, List.map_cons, ih]

theorem find?_append {m : Memory} {r : Record} (h : m.find? r.uuid = none) :
    (m.append r).find? = Function.update m.find? r.uuid (some { r with id := m.lastId + 1 }) := by
  funext uuid
  rw [append, find?, List.find?_append]
  by_cases hu : uuid = r.uuid
  · subst hu
    rw [find?] at h
    rw [Function.update_self, h, Option.none_or, List.find?_cons_of_pos (by simp)]
  · rw [Function.update_of_ne hu, List.find?_cons_of_neg (by simpa using Ne.symm hu), List.find?_nil,
      Option.or_none, find?]

theorem find?_without (m : Memory) (uuid : String) :
    (m.without uuid).find? = Function.update m.find? uuid none := by
  funext other
  rw [without, find?, List.find?_filter]
  by_cases hu : other = uuid
  · subst hu
    rw [Function.update_self]
    simp
  · rw [Function.update_of_ne hu, find?]
    congr 1
    funext r
    by_cases hr : r.uuid = other
    · simp [hr, hu]
    · simp [hr]

theorem find?_of_mem {records : List Record} (hdistinct : records.Pairwise (·.uuid ≠ ·.uuid)) {r : Record}
    (hr : r ∈ records) : records.find? (·.uuid = r.uuid) = some r := by
  induction records with
  | nil => exact absurd hr List.not_mem_nil
  | cons s rest ih =>
    obtain ⟨hhead, htail⟩ := List.pairwise_cons.mp hdistinct
    rcases List.mem_cons.mp hr with rfl | hr
    · exact List.find?_cons_of_pos (by simp)
    · rw [List.find?_cons_of_neg (by simpa using hhead r hr), ih htail hr]

theorem modified (m : Memory) (uuid : String) {change : Record → Record}
    (hchange : ∀ r, (change r).uuid = r.uuid) :
    Modified uuid change (.ok (m.modify uuid change).1) m.find? (m.modify uuid change).2.find? := by
  rw [modify]
  cases h : m.find? uuid with
  | none => exact ⟨h, rfl⟩
  | some record =>
    refine ⟨record, h, ?_⟩
    funext other
    rw [find?] at h
    change (modifyFirst uuid change m.records).find? _ = _
    rw [find?_modifyFirst hchange, h]
    split_ifs with hu
    · subst hu
      rw [Function.update_self]
      rfl
    · rw [Function.update_of_ne hu, find?]

/-- Every request does what it should. -/
theorem answer_effect (q : Request) (m : Memory) : Effect q (m.answer q).1 m.find? (m.answer q).2.find? := by
  cases q with
  | fetchAll => exact rfl
  | fetchOne uuid =>
    refine ⟨rfl, fun found h => (Except.ok.inj h).symm, fun record h => ?_⟩
    exact congrArg Except.ok h
  | insert record =>
    rw [answer]
    cases h : m.find? record.uuid with
    | some _ => exact rfl
    | none => exact ⟨h, .inl (find?_append h)⟩
  | update record => exact modified m record.uuid fun _ => rfl
  | delete uuid =>
    rw [answer]
    cases h : m.find? uuid with
    | some _ => exact find?_without m uuid
    | none =>
      refine ⟨h, ?_⟩
      rw [find?_without, ← h, Function.update_eq_self]
  | setLocked uuid locked => exact modified m uuid fun _ => rfl

/-! ## Identifiers -/

/-- A store that was given some records at first, and then any requests. -/
inductive Reached : Memory → Prop where
  | seeded (records : List Record) : Reached (ofRecords records)
  | answered {m : Memory} (q : Request) : Reached m → Reached (m.answer q).2

/-- Each identifier is above those before it, and none above the one that was given last. -/
structure Ascending (m : Memory) : Prop where
  sorted : (m.records.map (·.id)).Pairwise (· < ·)
  last : ∀ id ∈ m.records.map (·.id), id ≤ m.lastId

namespace Ascending

variable {m : Memory}

theorem append (h : m.Ascending) (r : Record) : (m.append r).Ascending := by
  unfold Memory.append
  constructor
  · rw [List.map_append, List.pairwise_append]
    refine ⟨h.sorted, List.pairwise_singleton _ _, fun id hid other hother => ?_⟩
    obtain rfl := List.mem_singleton.mp hother
    exact Int.lt_add_one_of_le (h.last id hid)
  · rw [List.map_append]
    intro id hid
    rcases List.mem_append.mp hid with hid | hid
    · exact (h.last id hid).trans (Int.le_add_one le_rfl)
    · exact (List.mem_singleton.mp hid).le

theorem ofRecords (records : List Record) : (Memory.ofRecords records).Ascending := by
  have hfold : ∀ m : Memory, m.Ascending → (records.foldl Memory.append m).Ascending := by
    induction records with
    | nil => exact fun _ h => h
    | cons r records ih => exact fun m h => ih _ (h.append r)
  exact hfold .empty ⟨.nil, by simp [Memory.empty]⟩

theorem modify (h : m.Ascending) (uuid : String) {change : Record → Record} (hchange : ∀ r, (change r).id = r.id) :
    (m.modify uuid change).2.Ascending := by
  unfold Memory.modify
  split_ifs
  · have hids := map_modifyFirst hchange uuid m.records
    exact ⟨hids ▸ h.sorted, hids ▸ h.last⟩
  · exact h

theorem without (h : m.Ascending) (uuid : String) : (m.without uuid).Ascending := by
  have hids : ((m.without uuid).records.map (·.id)).Sublist (m.records.map (·.id)) := List.filter_sublist.map _
  exact ⟨h.sorted.sublist hids, fun id hid => h.last id (hids.subset hid)⟩

theorem answer (h : m.Ascending) (q : Request) : (m.answer q).2.Ascending := by
  cases q with
  | fetchAll => exact h
  | fetchOne uuid => exact h
  | insert record =>
    rw [Memory.answer]
    split_ifs
    · exact h
    · exact h.append record
  | update record => exact h.modify record.uuid fun _ => rfl
  | delete uuid => exact h.without uuid
  | setLocked uuid locked => exact h.modify uuid fun _ => rfl

end Ascending

theorem Reached.ascending {m : Memory} (h : m.Reached) : m.Ascending := by
  induction h with
  | seeded records => exact .ofRecords records
  | answered q _ ih => exact ih.answer q

end Dashboards.Store.Memory
