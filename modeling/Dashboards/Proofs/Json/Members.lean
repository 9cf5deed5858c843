import Dashboards.Json.Value
import Mathlib

/-!
# Members by their keys

* `lookup_eq_none`, `mem_of_lookup` : what is found under a key is a member, if anything is;
* `lookup_insertMember` : a member that is put in is found, and hides no member of another key;
* `sortedKeys_insertMember`, `sortedKeys_foldl` : members that are put in are in order;
* `SortedKeys.mem_iff`, `SortedKeys.ext` : sorted members are what is found under their keys, and
  nothing else tells them apart.
-/

namespace Dashboards.Json

variable {α : Type} {k : String} {v : α} {ms ns : List (String × α)}

/-! ## Members that are found -/

theorem lookup_eq_none (h : ∀ m ∈ ms, m.1 ≠ k) : lookup k ms = none := by
  induction ms with
  | nil => rfl
  | cons m ms ih =>
    rw [lookup, if_neg (h m List.mem_cons_self)]
    exact ih fun m' hm' => h m' (List.mem_cons_of_mem _ hm')

theorem mem_of_lookup (h : lookup k ms = some v) : (k, v) ∈ ms := by
  induction ms with
  | nil => cases h
  | cons m ms ih =>
    obtain ⟨k', v'⟩ := m
    rw [lookup] at h
    split_ifs at h with hk
    · rw [← hk, Option.some.inj h]
      exact List.mem_cons_self
    · exact List.mem_cons_of_mem _ (ih h)

theorem lookup_insertMember (k key : String) (v : α) (ms : List (String × α)) :
    lookup key (insertMember k v ms) = if key = k then some v else lookup key ms := by
  induction ms with
  | nil => simp [insertMember, lookup, eq_comm]
  | cons m ms ih =>
    obtain ⟨k', v'⟩ := m
    rw [insertMember]
    by_cases hkey : key = k
    · subst hkey
      rw [if_pos rfl] at ih ⊢
      split_ifs with hlt heq
      · exact if_pos rfl
      · exact if_pos rfl
      · rw [lookup, if_neg heq, ih]
    · rw [if_neg hkey] at ih ⊢
      split_ifs with hlt heq
      · exact if_neg (Ne.symm hkey)
      · rw [lookup, lookup, if_neg (Ne.symm hkey), if_neg (by rw [heq]; exact Ne.symm hkey)]
      · rw [lookup, lookup, ih]

/-! ## Members in order -/

theorem mem_insertMember {m : String × α} (h : m ∈ insertMember k v ms) : m = (k, v) ∨ m ∈ ms := by
  induction ms with
  | nil => exact .inl (List.mem_singleton.mp h)
  | cons m' ms ih =>
    obtain ⟨k', v'⟩ := m'
    rw [insertMember] at h
    split_ifs at h with hlt heq
    · exact List.mem_cons.mp h
    · rcases List.mem_cons.mp h with h | h
      · exact .inl h
      · exact .inr (List.mem_cons_of_mem _ h)
    · rcases List.mem_cons.mp h with h | h
      · exact .inr (h ▸ List.mem_cons_self)
      · rcases ih h with h | h
        · exact .inl h
        · exact .inr (List.mem_cons_of_mem _ h)

theorem sortedKeys_insertMember (h : SortedKeys ms) : SortedKeys (insertMember k v ms) := by
  induction ms with
  | nil => exact List.pairwise_singleton _ _
  | cons m ms ih =>
    obtain ⟨k', v'⟩ := m
    obtain ⟨hhead, htail⟩ := List.pairwise_cons.mp h
    rw [insertMember]
    split_ifs with hlt heq
    · refine List.pairwise_cons.mpr ⟨fun m hm => ?_, h⟩
      rcases List.mem_cons.mp hm with rfl | hm
      · exact hlt
      · exact lt_trans hlt (hhead m hm)
    · subst heq
      exact List.pairwise_cons.mpr ⟨hhead, htail⟩
    · refine List.pairwise_cons.mpr ⟨fun m hm => ?_, ih htail⟩
      rcases mem_insertMember hm with rfl | hm
      · exact lt_of_le_of_ne (not_lt.mp hlt) heq
      · exact hhead m hm

/-- Members that are put in one by one are in order, and none comes from elsewhere. -/
theorem sortedKeys_foldl (ms : List (String × α)) :
    ∀ seen : List (String × α), SortedKeys seen →
      SortedKeys (ms.foldl (fun sorted (k, v) => insertMember k v sorted) seen) ∧
      ∀ m ∈ ms.foldl (fun sorted (k, v) => insertMember k v sorted) seen, m ∈ seen ∨ m ∈ ms := by
  induction ms with
  | nil => exact fun seen h => ⟨h, fun m hm => .inl hm⟩
  | cons m ms ih =>
    intro seen h
    obtain ⟨k, v⟩ := m
    obtain ⟨hsorted, hmem⟩ := ih (insertMember k v seen) (sortedKeys_insertMember h)
    refine ⟨hsorted, fun m hm => ?_⟩
    rcases hmem m hm with hm | hm
    · rcases mem_insertMember hm with rfl | hm
      · exact .inr List.mem_cons_self
      · exact .inl hm
    · exact .inr (List.mem_cons_of_mem _ hm)

theorem SortedKeys.mem_iff (h : SortedKeys ms) : (k, v) ∈ ms ↔ lookup k ms = some v := by
  refine ⟨fun hmem => ?_, mem_of_lookup⟩
  induction ms with
  | nil => cases hmem
  | cons m ms ih =>
    obtain ⟨k', v'⟩ := m
    obtain ⟨hahead, htail⟩ := List.pairwise_cons.mp h
    rcases List.mem_cons.mp hmem with heq | hmem
    · cases heq
      exact if_pos rfl
    · rw [lookup, if_neg (hahead _ hmem).ne, ih htail hmem]

/-- Sorted members under whose keys the same is found are the same. -/
theorem SortedKeys.ext (hms : SortedKeys ms) (hns : SortedKeys ns) (h : ∀ k, lookup k ms = lookup k ns) : ms = ns := by
  have hnodup : ∀ {l : List (String × α)}, SortedKeys l → l.Nodup := fun hl => hl.imp fun hlt heq => by simp [heq] at hlt
  have hperm : ms.Perm ns := by
    rw [List.perm_ext_iff_of_nodup (hnodup hms) (hnodup hns)]
    rintro ⟨k, v⟩
    rw [hms.mem_iff, hns.mem_iff, h]
  exact hperm.eq_of_pairwise (fun a b _ _ hab hba => absurd hab (lt_asymm hba)) hms hns

end Dashboards.Json
