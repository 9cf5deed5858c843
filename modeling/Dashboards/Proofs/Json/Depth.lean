import Dashboards.Proofs.Json.RoundTrip
import Mathlib

/-!
# Reading under different limits on nesting

* `Extends` : a reader reads all that another one does (`itemsFrom_extends`, `membersFrom_extends`,
  `valueWith_extends`);
* `value_mono` : what is read under one limit is read under any greater one;
* `parse_compact_iff` : so a value is read from its compact text exactly if it is no deeper than the
  limit, and so is a document (`document_parse_compact_iff`);
* `nested` : a value of any depth (`depth_nested`).
-/

namespace Dashboards.Json

open Value

/-- The second reader reads all that the first one does. -/
def Extends {α : Type} (reader reader' : Reader α) : Prop :=
  ∀ text r, reader text = .ok r → reader' text = .ok r

/-! ## Arrays and objects -/

section Lists

variable {α : Type} {item item' : Reader α} {value value' : String → Reader α} {care : Care}

theorem itemsFrom_extends (h : Extends item item') (fuel : Nat) (seen : List α) :
    Extends (itemsFrom item fuel seen) (itemsFrom item' fuel seen) := by
  induction fuel generalizing seen with
  | zero => exact fun text r hr => hr
  | succ fuel ih =>
    intro text r hr
    unfold itemsFrom at hr ⊢
    obtain ⟨⟨v, behind⟩, hv, hr⟩ := bind_eq_ok hr
    rw [h _ _ hv]
    dsimp only [bind, Except.bind] at hr ⊢
    split at hr
    · exact hr
    · exact hr
    · split at hr
      · exact hr
      · exact hr
      · exact ih _ _ _ hr
    · exact hr

theorem listItems_extends (h : Extends item item') : Extends (listItems item) (listItems item') := by
  intro text r hr
  unfold listItems at hr ⊢
  split at hr
  · exact hr
  · exact hr
  · exact itemsFrom_extends h _ _ _ _ hr

theorem member_extends (h : ∀ key, Extends (value key) (value' key)) :
    Extends (member care value) (member care value') := by
  intro text r hr
  unfold member at hr ⊢
  obtain ⟨⟨key, behindKey⟩, hkey, hr⟩ := bind_eq_ok hr
  obtain ⟨⟨⟨⟩, behindColon⟩, hcolon, hr⟩ := bind_eq_ok hr
  obtain ⟨⟨v, behind⟩, hv, hr⟩ := bind_eq_ok hr
  rw [hkey]
  simp only [bind, Except.bind, hcolon, h _ _ _ hv]
  exact hr

theorem membersFrom_extends (h : ∀ key, Extends (value key) (value' key)) (fuel : Nat) (seen : List (String × α)) :
    Extends (membersFrom care value fuel seen) (membersFrom care value' fuel seen) := by
  induction fuel generalizing seen with
  | zero => exact fun text r hr => hr
  | succ fuel ih =>
    intro text r hr
    unfold membersFrom at hr ⊢
    obtain ⟨⟨m, behind⟩, hm, hr⟩ := bind_eq_ok hr
    rw [member_extends h _ _ hm]
    dsimp only [bind, Except.bind] at hr ⊢
    split at hr
    · exact hr
    · exact hr
    · split at hr
      · exact hr
      · exact ih _ _ _ hr
      · exact hr
      · exact hr
    · exact hr

theorem objectMembers_extends (h : ∀ key, Extends (value key) (value' key)) :
    Extends (objectMembers care value) (objectMembers care value') := by
  intro text r hr
  unfold objectMembers at hr ⊢
  split at hr
  · exact hr
  · exact hr
  · exact membersFrom_extends h _ _ _ _ hr
  · exact hr

end Lists

/-! ## Values -/

theorem container_extends {care : Care} {item item' : Reader Value} (h : Extends item item') (bracket : Char) :
    Extends (container care item bracket) (container care item' bracket) := by
  intro text r hr
  unfold container at hr ⊢
  split_ifs at hr ⊢
  · obtain ⟨⟨items, behind⟩, hitems, hr⟩ := bind_eq_ok hr
    rw [listItems_extends h _ _ hitems]
    exact hr
  · obtain ⟨⟨members, behind⟩, hmembers, hr⟩ := bind_eq_ok hr
    rw [objectMembers_extends (fun _ => h) _ _ hmembers]
    exact hr

theorem valueWith_extends {care : Care} {reader reader' : Char → Reader Value}
    (h : ∀ c, Extends (reader c) (reader' c)) :
    Extends (valueWith care reader) (valueWith care reader') := by
  intro text r hr
  unfold valueWith at hr ⊢
  split at hr
  · exact hr
  · exact hr
  · exact hr
  · exact hr
  · exact hr
  · exact hr
  · split_ifs at hr ⊢
    · exact h _ _ _ hr
    · exact hr

/-- What is read under one limit is read under any greater one. -/
theorem value_mono {care : Care} {n m : Nat} (hle : n ≤ m) : Extends (value care n) (value care m) := by
  induction n generalizing m with
  | zero =>
    cases m with
    | zero => exact fun text r hr => hr
    | succ m =>
      refine valueWith_extends fun c text r hr => ?_
      cases hr
  | succ n ih =>
    obtain ⟨m, rfl⟩ : ∃ k, m = k + 1 := ⟨m - 1, by omega⟩
    exact valueWith_extends fun c => container_extends (ih (by omega)) c

/-! ## Texts -/

/-- A value is read from its text exactly if it is no deeper than the limit. -/
theorem parse_compact_iff {v : Value} (hv : v.Canonical) :
    (∃ w, Value.parse v.compact = .ok w) ↔ v.depth ≤ depthLimit := by
  refine ⟨?_, fun hd => ⟨v, parse_compact hv hd⟩⟩
  rintro ⟨w, hw⟩
  obtain ⟨rest, hread, -⟩ := value_of_parse hw
  obtain ⟨-, hdepth⟩ := value_canonical hread
  -- under a limit that is great enough for both, the value itself is read
  have hself := value_write v hv (max depthLimit v.depth) (le_max_right _ _) [] .nil
  have hother := value_mono (le_max_left depthLimit v.depth) _ _ hread
  rw [compact, String.toList_ofList, hself] at hother
  obtain rfl := (Prod.mk.inj (Except.ok.inj hother)).1
  exact hdepth

/-- So is a document. -/
theorem document_parse_compact_iff {v : Value} (hv : v.Canonical) (ho : v.isObject) :
    (∃ document, Document.parse v.compact = .ok document) ↔ v.depth ≤ depthLimit := by
  refine ⟨?_, fun hd => ⟨v, document_parse_of_canonical hv hd ho⟩⟩
  rintro ⟨document, h⟩
  refine (parse_compact_iff hv).mp ?_
  unfold Document.parse at h
  split at h
  · cases h
  · next w hw => exact ⟨w, hw⟩

/-! ## Values of any depth -/

/-- As many arrays, each inside the one before. -/
def nested : Nat → Value
  | 0 => .null
  | n + 1 => .array [nested n]

theorem depth_nested (n : Nat) : (nested n).depth = n := by
  induction n with
  | zero => rfl
  | succ n ih => simp [nested, depth, depthOfItems, ih]

theorem canonical_nested (n : Nat) : (nested n).Canonical := by
  induction n with
  | zero => trivial
  | succ n ih => exact ⟨ih, trivial⟩

end Dashboards.Json
