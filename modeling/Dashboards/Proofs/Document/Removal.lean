import Dashboards.Document.Removal
import Mathlib

/-!
# What a new document removes

* `mem_lostIds`, `mem_removedIds` : an identifier is removed if it was there and is no more;
* `lostIds_concat`, `removedIds_concat` : one more identifier behind the others is added where it stands
  for the first time;
* `removedIds_nodup`, `removedIds_sublist`, `removedIds_ordered`, `removedIds_congr` : each once, in the
  order of their first places, whatever the order of the new ones;
* `lost` : the identifiers of one document that another lacks; `lost_self`, `card_lost_le` : none are
  lost where nothing changes, and losses add up;
* `card_lost_of_checkRemoval` : one allowed replacement loses at most `maxRemoved`;
* `checkRemoval_eq_ite` : what a check comes to is told by the number of lost identifiers;
* `removal_is_exact` : all of this (`removal_from_repeated`).
-/

namespace Dashboards.Document

open Json

theorem mem_lostIds (new existing : List String) (x : String) :
    ∀ seen, x ∈ lostIds new seen existing ↔ x ∈ existing ∧ x ∉ new ∧ x ∉ seen := by
  induction existing with
  | nil => exact fun seen => ⟨fun h => absurd h List.not_mem_nil, fun h => absurd h.1 List.not_mem_nil⟩
  | cons id rest ih =>
    intro seen
    rw [lostIds]
    split_ifs with hskip
    · rw [Bool.or_eq_true, List.contains_iff_mem, List.contains_iff_mem] at hskip
      rw [ih, List.mem_cons]
      constructor
      · exact fun h => ⟨.inr h.1, h.2⟩
      · rintro ⟨rfl | hrest, hnew, hseen⟩
        · exact absurd hskip (not_or.mpr ⟨hnew, hseen⟩)
        · exact ⟨hrest, hnew, hseen⟩
    · rw [Bool.or_eq_true, List.contains_iff_mem, List.contains_iff_mem, not_or] at hskip
      rw [List.mem_cons, List.mem_cons, ih]
      constructor
      · rintro (rfl | ⟨hrest, hnew, hseen⟩)
        · exact ⟨.inl rfl, hskip⟩
        · exact ⟨.inr hrest, hnew, fun h => hseen (List.mem_cons_of_mem _ h)⟩
      · rintro ⟨rfl | hrest, hnew, hseen⟩
        · exact .inl rfl
        · by_cases hx : x = id
          · exact .inl hx
          · exact .inr ⟨hrest, hnew, List.not_mem_cons_of_ne_of_not_mem hx hseen⟩

theorem mem_removedIds {existing new : List String} {x : String} :
    x ∈ removedIds existing new ↔ x ∈ existing ∧ x ∉ new := by
  rw [removedIds, mem_lostIds]
  exact ⟨fun h => ⟨h.1, h.2.1⟩, fun h => ⟨h.1, h.2, List.not_mem_nil⟩⟩

/-! ## Order and repetition -/

/-- One more identifier is kept if it is neither in `new` nor was seen before. -/
theorem lostIds_concat (new existing : List String) (x : String) :
    ∀ seen, lostIds new seen (existing ++ [x]) =
      if x ∈ new ∨ x ∈ seen ∨ x ∈ existing then lostIds new seen existing
      else lostIds new seen existing ++ [x] := by
  induction existing with
  | nil =>
    intro seen
    simp [lostIds]
  | cons id rest ih =>
    intro seen
    rw [List.cons_append, lostIds, lostIds, ih, ih]
    grind

/-- What was seen is what stands before, so each identifier is kept where it stands for the first
time. -/
theorem removedIds_concat (existing new : List String) (x : String) :
    removedIds (existing ++ [x]) new =
      if x ∈ new ∨ x ∈ existing then removedIds existing new else removedIds existing new ++ [x] := by
  rw [removedIds, lostIds_concat]
  simp [removedIds]

section Removed

variable (existing new : List String)

theorem removedIds_nodup : (removedIds existing new).Nodup := by
  induction existing using List.reverseRecOn with
  | nil => exact List.nodup_nil
  | append_singleton front x ih =>
    rw [removedIds_concat]
    split_ifs with hx
    · exact ih
    · refine ih.append (List.nodup_singleton x) ?_
      rw [List.disjoint_singleton, mem_removedIds]
      exact fun hmem => hx (.inr hmem.1)

theorem removedIds_sublist : (removedIds existing new).Sublist existing := by
  induction existing using List.reverseRecOn with
  | nil => exact List.Sublist.refl []
  | append_singleton front x ih =>
    rw [removedIds_concat]
    split_ifs
    · exact ih.trans (List.sublist_append_left front [x])
    · exact ih.append (List.Sublist.refl [x])

/-- They come in the order in which they stand for the first time. -/
theorem removedIds_ordered : (removedIds existing new).Pairwise (existing.idxOf · < existing.idxOf ·) := by
  induction existing using List.reverseRecOn with
  | nil => exact List.Pairwise.nil
  | append_singleton front x ih =>
    have hfront : (removedIds front new).Pairwise ((front ++ [x]).idxOf · < (front ++ [x]).idxOf ·) := by
      refine ih.imp_of_mem fun hy hz hlt => ?_
      rwa [List.idxOf_append_of_mem (mem_removedIds.mp hy).1, List.idxOf_append_of_mem (mem_removedIds.mp hz).1]
    rw [removedIds_concat]
    split_ifs with hx
    · exact hfront
    · -- the new one stands behind all of `front`, where the others have their first places
      refine List.pairwise_append.mpr ⟨hfront, List.pairwise_singleton _ x, fun y hy z hz => ?_⟩
      obtain rfl := List.mem_singleton.mp hz
      have hmem := (mem_removedIds.mp hy).1
      rw [List.idxOf_append_of_mem hmem, List.idxOf_append_of_notMem fun hz => hx (.inr hz)]
      exact Nat.lt_of_lt_of_le (List.idxOf_lt_length_of_mem hmem) (Nat.le_add_right _ _)

variable {existing new}

/-- Neither the order nor the repetition of the new identifiers matters. -/
theorem removedIds_congr {new' : List String} (h : ∀ x, x ∈ new' ↔ x ∈ new) :
    removedIds existing new' = removedIds existing new := by
  induction existing using List.reverseRecOn with
  | nil => rfl
  | append_singleton front x ih => simp only [removedIds_concat, ih, h]

theorem removedIds_self (ids : List String) : removedIds ids ids = [] := by
  rw [List.eq_nil_iff_forall_not_mem]
  exact fun x hx => (mem_removedIds.mp hx).2 (mem_removedIds.mp hx).1

/-- What is lost between the first and the third is lost on one of the ways over the second. -/
theorem removedIds_subset (first second third : List String) :
    removedIds first third ⊆ removedIds first second ++ removedIds second third := by
  intro x hx
  obtain ⟨hfirst, hthird⟩ := mem_removedIds.mp hx
  rw [List.mem_append, mem_removedIds, mem_removedIds]
  by_cases hsecond : x ∈ second
  · exact .inr ⟨hsecond, hthird⟩
  · exact .inl ⟨hfirst, hsecond⟩

end Removed

/-! ## Documents -/

/-- The identifiers of widgets in `old` that are missing in `new`, each once. -/
def lost (old new : Value) : Finset String := (widgetIds old).toFinset \ (widgetIds new).toFinset

theorem lost_self (document : Value) : lost document document = ∅ := Finset.sdiff_self _

/-- Losses add up at most. -/
theorem card_lost_le (first second third : Value) :
    (lost first third).card ≤ (lost first second).card + (lost second third).card :=
  (Finset.card_le_card (sdiff_triangle _ _ _)).trans (Finset.card_union_le _ _)

theorem lost_eq_toFinset (old new : Value) :
    lost old new = (removedIds (widgetIds old) (widgetIds new)).toFinset := by
  ext x
  rw [lost, Finset.mem_sdiff, List.mem_toFinset, List.mem_toFinset, List.mem_toFinset, mem_removedIds]

/-- An allowed replacement loses at most one identifier. -/
theorem card_lost_of_checkRemoval {old new : Value} {removed : List String}
    (h : checkRemoval old new = .ok removed) : (lost old new).card ≤ maxRemoved := by
  rw [lost_eq_toFinset]
  refine (List.toFinset_card_le _).trans ?_
  by_contra hlarge
  rw [checkRemoval, checkLimit, if_pos (not_le.mp hlarge)] at h
  cases h

theorem length_removedIds (old new : Value) :
    (removedIds (widgetIds old) (widgetIds new)).length = (lost old new).card := by
  rw [lost_eq_toFinset, List.toFinset_card_of_nodup (removedIds_nodup _ _)]

/-- A replacement that loses two identifiers is refused, with all that it loses. -/
theorem checkRemoval_eq_ite (old new : Value) :
    checkRemoval old new =
      if 2 ≤ (lost old new).card then .error ⟨removedIds (widgetIds old) (widgetIds new)⟩
      else .ok (removedIds (widgetIds old) (widgetIds new)) := by
  unfold checkRemoval checkLimit
  dsimp only
  rw [length_removedIds]
  by_cases h : maxRemoved < (lost old new).card
  · rw [if_pos h, if_pos (show 2 ≤ (lost old new).card from h)]
    rfl
  · rw [if_neg h, if_neg (show ¬2 ≤ (lost old new).card from h)]
    rfl

/-- The removed identifiers are those of the old ones that are not among the new ones. Each comes once,
where it stands for the first time, and the new ones matter only as a set. So a document loses nothing
to itself, and what it loses to another one is lost on the way over any third. A check of a document
against a new one fails exactly if two identifiers are lost, and gives the lost ones otherwise. -/
theorem removal_is_exact (existing new : List String) :
    (removedIds existing new).Nodup ∧
    (removedIds existing new).Sublist existing ∧
    (∀ x, x ∈ removedIds existing new ↔ x ∈ existing ∧ x ∉ new) ∧
    (removedIds existing new).Pairwise (existing.idxOf · < existing.idxOf ·) ∧
    (∀ x, removedIds (existing ++ [x]) new =
      if x ∈ new ∨ x ∈ existing then removedIds existing new else removedIds existing new ++ [x]) ∧
    (∀ new', (∀ x, x ∈ new' ↔ x ∈ new) → removedIds existing new' = removedIds existing new) ∧
    (∀ a, removedIds (widgetIds a) (widgetIds a) = []) ∧
    (∀ a b c, removedIds (widgetIds a) (widgetIds c) ⊆
      removedIds (widgetIds a) (widgetIds b) ++ removedIds (widgetIds b) (widgetIds c)) ∧
    ∀ a b, checkRemoval a b =
      if 2 ≤ (lost a b).card then .error ⟨removedIds (widgetIds a) (widgetIds b)⟩
      else .ok (removedIds (widgetIds a) (widgetIds b)) :=
  ⟨removedIds_nodup existing new, removedIds_sublist existing new, fun _ => mem_removedIds,
    removedIds_ordered existing new, removedIds_concat existing new, fun _ => removedIds_congr,
    fun a => removedIds_self (widgetIds a), fun a b c => removedIds_subset (widgetIds a) (widgetIds b) (widgetIds c),
    checkRemoval_eq_ite⟩

/-- Repeated identifiers on both sides. -/
theorem removal_from_repeated :
    (∀ x, x ∈ ["c", "d", "c"] ↔ x ∈ ["d", "c"]) ∧
    removedIds ["b", "a", "b", "c", "a"] ["c", "d", "c"] = ["b", "a"] := by
  have hsame : ∀ x, x ∈ ["c", "d", "c"] ↔ x ∈ ["d", "c"] := by
    intro x
    simp [or_comm]
  obtain ⟨-, -, -, -, -, hcongr, -⟩ := removal_is_exact ["b", "a", "b", "c", "a"] ["d", "c"]
  exact ⟨hsame, (hcongr _ hsame).trans (by decide)⟩

end Dashboards.Document
