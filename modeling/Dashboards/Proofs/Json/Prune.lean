import Dashboards.Json.Access
import Dashboards.Proofs.Json.Canonical
import Dashboards.Proofs.Json.Members
import Mathlib

/-!
# Members that are dropped

Which members of its objects a reader asks for can be told by dropping the others.

* `Value.prune` : a value without the members whose value is null or whose key is not kept, at every
  depth; items of arrays stay, nulls too;
* `lookup_pruneMembers`, `field?_prune` : a kept key finds the pruned value of what it found;
* `Lens.prune`, `Lens.key_prune`, `Lens.items_prune` : steps into a pruned value are the pruned
  steps;
* `Lens.string?_prune`, `Lens.isPresent_prune`, `Lens.members?_prune`, `Lens.array?_prune` : what is
  asked of a place: its string, whether it is present, an object, an array of how many items.
-/

namespace Dashboards.Json

namespace Value

/-! ## Pruning -/

mutual

/-- Members that are null or whose key is not kept are dropped. -/
def prune (keep : String → Bool) : Value → Value
  | .array items => .array (pruneItems keep items)
  | .object members => .object (pruneMembers keep members)
  | v => v

def pruneItems (keep : String → Bool) : List Value → List Value
  | [] => []
  | v :: rest => v.prune keep :: pruneItems keep rest

def pruneMembers (keep : String → Bool) : List (String × Value) → List (String × Value)
  | [] => []
  | (k, v) :: rest =>
    if keep k && !v.isNull then (k, v.prune keep) :: pruneMembers keep rest
    else pruneMembers keep rest

end

variable {keep : String → Bool} {k : String}

theorem pruneItems_eq_map (vs : List Value) : pruneItems keep vs = vs.map (prune keep) := by
  induction vs with
  | nil => rfl
  | cons v vs ih => rw [pruneItems, ih, List.map_cons]

/-- What is left of an object has the keys of members that were there. -/
theorem exists_of_mem_pruneMembers {ms : List (String × Value)} {m : String × Value}
    (h : m ∈ pruneMembers keep ms) : ∃ v, (m.1, v) ∈ ms := by
  induction ms with
  | nil => cases h
  | cons head ms ih =>
    obtain ⟨k', v'⟩ := head
    rw [pruneMembers] at h
    split_ifs at h
    · rcases List.mem_cons.mp h with rfl | h
      · exact ⟨v', List.mem_cons_self⟩
      · exact (ih h).imp fun _ => List.mem_cons_of_mem _
    · exact (ih h).imp fun _ => List.mem_cons_of_mem _

@[simp]
theorem isNull_prune (v : Value) : (v.prune keep).isNull = v.isNull := by
  cases v <;> rfl

@[simp]
theorem isObject_prune (v : Value) : (v.prune keep).isObject = v.isObject := by
  cases v <;> rfl

theorem present?_prune (v : Value) : (v.prune keep).present? = v.present?.map (prune keep) := by
  unfold present?
  rw [isNull_prune]
  split_ifs <;> rfl

theorem asString?_prune (v : Value) : (v.prune keep).asString? = v.asString? := by
  cases v <;> rfl

theorem asObject?_prune (v : Value) : (v.prune keep).asObject? = v.asObject?.map (pruneMembers keep) := by
  cases v <;> rfl

theorem asArray?_prune (v : Value) : (v.prune keep).asArray? = v.asArray?.map (List.map (prune keep)) := by
  cases v with
  | array items => exact congrArg some (pruneItems_eq_map items)
  | _ => rfl

/-! ## Lookups -/

/-- A null under a kept key is dropped, and no other member has that key: both find nothing. -/
theorem lookup_pruneMembers (hkeep : keep k = true) {ms : List (String × Value)} (hms : SortedKeys ms) :
    (lookup k (pruneMembers keep ms)).bind present? = ((lookup k ms).bind present?).map (prune keep) := by
  induction ms with
  | nil => rfl
  | cons m ms ih =>
    obtain ⟨k', v⟩ := m
    obtain ⟨hahead, htail⟩ := List.pairwise_cons.mp hms
    rw [pruneMembers, lookup]
    by_cases hk : k' = k
    · subst hk
      rw [if_pos rfl, Option.bind_some, hkeep, Bool.true_and]
      by_cases hv : v.isNull
      · have hnone : lookup k' (pruneMembers keep ms) = none := by
          apply lookup_eq_none
          intro m hm
          obtain ⟨w, hw⟩ := exists_of_mem_pruneMembers hm
          exact (hahead _ hw).ne'
        rw [hv, Bool.not_true, if_neg Bool.false_ne_true, hnone, present?, if_pos hv]
        rfl
      · rw [Bool.not_eq_true] at hv
        rw [hv, Bool.not_false, if_pos rfl, lookup, if_pos rfl, Option.bind_some, present?_prune]
    · rw [if_neg hk, ← ih htail]
      split_ifs
      · rw [lookup, if_neg hk]
      · rfl

theorem field?_eq (v : Value) : v.field? k = v.asObject?.bind fun ms => (lookup k ms).bind present? := rfl

theorem field?_prune (hkeep : keep k = true) {v : Value} (hv : v.Canonical) :
    (v.prune keep).field? k = (v.field? k).map (prune keep) := by
  rw [field?_eq, field?_eq, asObject?_prune]
  cases v with
  | object ms => exact lookup_pruneMembers hkeep hv.1
  | _ => rfl

theorem stringField?_prune (hkeep : keep k = true) {v : Value} (hv : v.Canonical) :
    (v.prune keep).stringField? k = v.stringField? k := by
  change ((v.prune keep).field? k).bind asString? = (v.field? k).bind asString?
  rw [field?_prune hkeep hv]
  cases v.field? k with
  | none => rfl
  | some w => exact asString?_prune w

/-! ## Parts of a canonical value -/

theorem present?_eq_some {v w : Value} (h : v.present? = some w) : v = w := by
  unfold present? at h
  split_ifs at h
  exact Option.some.inj h

theorem Canonical.field? {v w : Value} (hv : v.Canonical) (h : v.field? k = some w) : w.Canonical := by
  cases v with
  | object ms =>
    obtain ⟨found, hfound, hw⟩ := Option.bind_eq_some_iff.mp h
    rw [← present?_eq_some hw]
    exact canonicalMembers_iff.mp hv.2 _ (mem_of_lookup hfound)
  | _ => cases h

end Value

/-! ## Lenses -/

namespace Lens

open Value

variable {keep : String → Bool} {k : String} {l : Lens}

/-- The place of the pruned value. -/
def prune (keep : String → Bool) (l : Lens) : Lens := ⟨l.focus.map (Value.prune keep)⟩

/-- What stands at the place is canonical. -/
def Canonical (l : Lens) : Prop := ∀ v, l.focus = some v → v.Canonical

theorem ofValue_prune (v : Value) : ofValue (v.prune keep) = (ofValue v).prune keep :=
  congrArg Lens.mk (present?_prune v)

theorem canonical_ofValue {v : Value} (hv : v.Canonical) : (ofValue v).Canonical := by
  intro w hw
  rwa [← present?_eq_some hw]

theorem key_prune (hkeep : keep k = true) (hl : l.Canonical) : (l.prune keep).key k = (l.key k).prune keep := by
  obtain ⟨_ | v⟩ := l
  · rfl
  · exact congrArg Lens.mk (field?_prune hkeep (hl v rfl))

theorem Canonical.key (hl : l.Canonical) : (l.key k).Canonical := by
  intro w hw
  obtain ⟨v, hv, hfield⟩ := Option.bind_eq_some_iff.mp hw
  exact (hl v hv).field? hfield

theorem string?_prune : (l.prune keep).string? = l.string? := by
  obtain ⟨_ | v⟩ := l
  · rfl
  · exact asString?_prune v

theorem isPresent_prune : (l.prune keep).isPresent = l.isPresent := by
  obtain ⟨_ | v⟩ := l <;> rfl

theorem members?_prune : (l.prune keep).members?.isSome = l.members?.isSome := by
  obtain ⟨_ | v⟩ := l
  · rfl
  · cases v <;> rfl

theorem array?_prune : (l.prune keep).array? = l.array?.map (List.map (Value.prune keep)) := by
  obtain ⟨_ | v⟩ := l
  · rfl
  · exact asArray?_prune v

theorem items_prune : (l.prune keep).items = l.items.map (prune keep) := by
  unfold items
  rw [array?_prune]
  cases l.array? with
  | none => rfl
  | some vs =>
    rw [Option.map_some, Option.getD_some, Option.getD_some, List.map_map, List.map_map]
    exact List.map_congr_left fun v _ => ofValue_prune v

theorem Canonical.of_mem_items (hl : l.Canonical) {place : Lens} (h : place ∈ l.items) : place.Canonical := by
  obtain ⟨v, hv, rfl⟩ := List.mem_map.mp h
  obtain ⟨_ | w⟩ := l
  · cases hv
  · cases w with
    | array vs => exact canonical_ofValue (canonicalItems_iff.mp (hl _ rfl) v hv)
    | _ => cases hv

end Lens

end Dashboards.Json
