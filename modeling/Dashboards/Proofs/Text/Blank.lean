import Dashboards.Text.Blank
import Mathlib

/-!
# Trimmed and blank text

* `isBlank_trim`, `trim_of_isBlank`, `isBlank_of_trim_eq` : trimming leaves nothing of blank text, and
  of no other;
* `isBlank_append` : two texts together are blank if both are;
* `trim_eq_self`, `trim_eq_self_of_toLower` : a text without white space at all stays as it is.
-/

namespace Dashboards.Text

/-! ## Trimming -/

theorem all_dropWhile {α : Type} (p : α → Bool) (s : List α) : (s.dropWhile p).all p = s.all p := by
  induction s with
  | nil => rfl
  | cons a s ih =>
    rw [List.dropWhile_cons]
    split_ifs with ha
    · rw [ih, List.all_cons, ha, Bool.true_and]
    · rfl

theorem isBlank_trim (s : String) : isBlank (trim s) = isBlank s := by
  simp only [isBlank, trim, trimStart, trimEnd, String.toList_ofList, List.all_reverse, all_dropWhile]

theorem trim_of_isBlank {s : String} (h : isBlank s) : trim s = "" := by
  have hnil : trimStart s.toList = [] := List.dropWhile_eq_nil_iff.mpr (List.all_eq_true.mp h)
  rw [trim, hnil]
  rfl

theorem isBlank_append (s t : String) : isBlank (s ++ t) = (isBlank s && isBlank t) := by
  simp only [isBlank, String.toList_append, List.all_append]

/-- A text that is trimmed already, and not empty, is not blank. -/
theorem isBlank_of_trim_eq {s : String} (htrim : trim s = s) (hs : s ≠ "") : isBlank s = false := by
  rw [Bool.eq_false_iff]
  intro hblank
  exact hs (htrim.symm.trans (trim_of_isBlank hblank))

/-! ## Text without white space -/

theorem dropWhile_eq_self {α : Type} {p : α → Bool} {s : List α} (h : s.any p = false) : s.dropWhile p = s := by
  rw [List.dropWhile_eq_self_iff]
  intro _
  exact List.any_eq_false.mp h _ (List.getElem_mem _)

theorem trim_eq_self {s : String} (h : s.toList.any isWhiteSpace = false) : trim s = s := by
  have hreversed : s.toList.reverse.any isWhiteSpace = false := by rw [List.any_reverse, h]
  rw [trim, trimStart, dropWhile_eq_self h, trimEnd, dropWhile_eq_self hreversed, List.reverse_reverse,
    String.ofList_toList]

theorem toLower_of_isWhiteSpace {c : Char} (h : isWhiteSpace c) : c.toLower = c := by
  unfold Char.toLower
  split_ifs with hcapital
  · exfalso
    obtain ⟨hfirst, hlast⟩ := hcapital
    simp only [isWhiteSpace, Bool.or_eq_true, Bool.and_eq_true, decide_eq_true_eq, beq_iff_eq] at h
    rw [ge_iff_le, UInt32.le_iff_toNat_le] at hfirst
    rw [UInt32.le_iff_toNat_le] at hlast
    have hA : ('A' : Char).val.toNat = 65 := rfl
    have hZ : ('Z' : Char).val.toNat = 90 := rfl
    have hval : c.toNat = c.val.toNat := rfl
    omega
  · rfl

/-- Text without white space among its small letters has none at all. -/
theorem trim_eq_self_of_toLower {s : String} (h : s.toLower.toList.any isWhiteSpace = false) : trim s = s := by
  apply trim_eq_self
  rw [String.toLower, String.toList_map, List.any_map, List.any_eq_false] at h
  rw [List.any_eq_false]
  intro c hc hspace
  apply h c hc
  rw [Function.comp_apply, toLower_of_isWhiteSpace hspace, hspace]

end Dashboards.Text
