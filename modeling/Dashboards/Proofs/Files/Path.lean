import Dashboards.Files.Path
import Mathlib

/-!
# Paths of folders and of their entries

* `PlainName` : a name that leads to an entry of a folder, and to no other place;
* `join_injective`, `split_join` : the path of an entry tells the entry, and leads to the folder and
  the name;
* `hasExtension_json_of_getLast?` : a name with another end than the names of records.
-/

namespace Dashboards.Files

/-! ## Paths of entries -/

/-- A name that leads to an entry of the folder itself. -/
structure PlainName (name : String) : Prop where
  slashless : '/' ∉ name.toList
  named : name ≠ "" ∧ name ≠ "." ∧ name ≠ ".."

theorem join_eq (root name : String) : join root name = join root "" ++ name := by
  unfold join
  split_ifs
  · rw [String.append_empty]
  · rw [String.append_empty]

theorem join_injective {root name other : String} (h : join root name = join root other) : name = other := by
  rw [join_eq, join_eq root other] at h
  have := congrArg String.toList h
  rw [String.toList_append, String.toList_append] at this
  exact String.toList_inj.mp (List.append_cancel_left this)

/-- The path of a folder, as it begins those of its entries, is empty or ends in a slash. -/
theorem join_nil (root : String) : join root "" = "" ∨ ∃ front, (join root "").toList = front ++ ['/'] := by
  by_cases hroot : root = ""
  · subst hroot
    exact .inl rfl
  · right
    unfold join
    by_cases hends : root.endsWith "/"
    · rw [if_pos (by simp [hends]), String.append_empty]
      rw [String.endsWith, String.Slice.endsWith_string_iff] at hends
      obtain ⟨front, hfront⟩ := hends
      exact ⟨front, by simpa using hfront.symm⟩
    · rw [if_neg (by simp [hroot, hends]), String.append_empty]
      exact ⟨root.toList, String.toList_append⟩

/-- The path of an entry leads to the folder and the entry's name. -/
theorem split_join (root : String) {name : String} (h : '/' ∉ name.toList) :
    split (join root name) = (join root "", name) := by
  have hname : ∀ c ∈ name.toList.reverse, decide (c ≠ '/') = true := by
    intro c hc
    exact decide_eq_true fun heq => h (heq ▸ List.mem_reverse.mp hc)
  unfold split
  rw [join_eq, String.toList_append, List.reverse_append]
  dsimp only
  rw [List.dropWhile_append_of_pos hname, List.takeWhile_append_of_pos hname]
  rcases join_nil root with hempty | ⟨front, hfront⟩
  · rw [hempty]
    simp
  · rw [hfront, List.reverse_append]
    simp [← hfront]

/-! ## Extensions -/

theorem hasExtension_json_of_getLast? {name : String} (h : name.toList.getLast? ≠ some 'n') :
    hasExtension "json" name = false := by
  have hsuffix : name.endsWith ("." ++ "json") = false := by
    rw [Bool.eq_false_iff]
    intro hends
    rw [String.endsWith, String.Slice.endsWith_string_iff] at hends
    obtain ⟨front, hfront⟩ := hends
    refine h ?_
    rw [← String.copy_toSlice (s := name), ← hfront]
    simp
  rw [hasExtension, hsuffix, Bool.false_and]

end Dashboards.Files
