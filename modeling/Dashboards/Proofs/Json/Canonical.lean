import Dashboards.Document
import Dashboards.Proofs.Except
import Dashboards.Proofs.Json.Members
import Dashboards.Proofs.Json.Rounding
import Mathlib

/-!
# What reading produces

* `itemsFrom_forall`, `listItems_forall`, `objectMembers_forall` : what holds of every item that is
  read holds of a list of them;
* `ofParts?_isFinite`, `ofDecimal?_isFinite`, `evaluate_canonical` : a number that is read is
  canonical;
* `value_canonical` : so is a value, and it is no deeper than the limit;
* `value_of_parse`, `parse_canonical` : and what a whole text holds.
-/

namespace Dashboards.Json

open Value

/-! ## Lists of items -/

section Items

variable {α : Type} {P : α → Prop} {item : Reader α}

theorem itemsFrom_forall (hitem : ∀ text v rest, item text = .ok (v, rest) → P v) (fuel : Nat) :
    ∀ (seen : List α) (text : List Char) (vs : List α) (rest : List Char), (∀ v ∈ seen, P v) →
      itemsFrom item fuel seen text = .ok (vs, rest) → ∀ v ∈ vs, P v := by
  induction fuel with
  | zero =>
    intro seen text vs rest hseen h
    cases h
  | succ fuel ih =>
    intro seen text vs rest hseen h
    rw [itemsFrom] at h
    obtain ⟨⟨v, behind⟩, hv, h⟩ := bind_eq_ok h
    have hcons : ∀ w ∈ v :: seen, P w := by
      intro w hw
      rcases List.mem_cons.mp hw with rfl | hw
      · exact hitem _ _ _ hv
      · exact hseen w hw
    dsimp only at h
    split at h
    · cases h
    · obtain ⟨rfl, rfl⟩ := Prod.mk.inj (Except.ok.inj h)
      exact fun w hw => hcons w (List.mem_reverse.mp hw)
    · split at h
      · cases h
      · cases h
      · exact ih _ _ _ _ hcons h
    · cases h

theorem listItems_forall (hitem : ∀ text v rest, item text = .ok (v, rest) → P v)
    {text rest : List Char} {vs : List α} (h : listItems item text = .ok (vs, rest)) :
    ∀ v ∈ vs, P v := by
  rw [listItems] at h
  split at h
  · cases h
  · obtain ⟨rfl, rfl⟩ := Prod.mk.inj (Except.ok.inj h)
    exact fun _ hv => by cases hv
  · exact itemsFrom_forall hitem _ _ _ _ _ (fun _ hv => by cases hv) h

end Items

section Members

variable {α : Type} {P : α → Prop} {care : Care} {value : String → Reader α}

theorem member_forall (hvalue : ∀ k text v rest, value k text = .ok (v, rest) → P v)
    {text rest : List Char} {m : String × α} (h : member care value text = .ok (m, rest)) : P m.2 := by
  rw [member] at h
  obtain ⟨⟨key, behindKey⟩, -, h⟩ := bind_eq_ok h
  obtain ⟨⟨⟨⟩, behindColon⟩, -, h⟩ := bind_eq_ok h
  obtain ⟨⟨v, behind⟩, hv, h⟩ := bind_eq_ok h
  obtain ⟨rfl, rfl⟩ := Prod.mk.inj (Except.ok.inj h)
  exact hvalue _ _ _ _ hv

theorem membersFrom_forall (hvalue : ∀ k text v rest, value k text = .ok (v, rest) → P v) (fuel : Nat) :
    ∀ (seen : List (String × α)) (text : List Char) (ms : List (String × α)) (rest : List Char),
      (∀ m ∈ seen, P m.2) → membersFrom care value fuel seen text = .ok (ms, rest) → ∀ m ∈ ms, P m.2 := by
  induction fuel with
  | zero =>
    intro seen text ms rest hseen h
    cases h
  | succ fuel ih =>
    intro seen text ms rest hseen h
    rw [membersFrom] at h
    obtain ⟨⟨m, behind⟩, hm, h⟩ := bind_eq_ok h
    have hcons : ∀ w ∈ m :: seen, P w.2 := by
      intro w hw
      rcases List.mem_cons.mp hw with rfl | hw
      · exact member_forall hvalue hm
      · exact hseen w hw
    dsimp only at h
    split at h
    · cases h
    · obtain ⟨rfl, rfl⟩ := Prod.mk.inj (Except.ok.inj h)
      exact fun w hw => hcons w (List.mem_reverse.mp hw)
    · split at h
      · cases h
      · exact ih _ _ _ _ hcons h
      · cases h
      · cases h
    · cases h

theorem objectMembers_forall (hvalue : ∀ k text v rest, value k text = .ok (v, rest) → P v)
    {text rest : List Char} {ms : List (String × α)}
    (h : objectMembers care value text = .ok (ms, rest)) : ∀ m ∈ ms, P m.2 := by
  rw [objectMembers] at h
  split at h
  · cases h
  · obtain ⟨rfl, rfl⟩ := Prod.mk.inj (Except.ok.inj h)
    exact fun _ hm => by cases hm
  · exact membersFrom_forall hvalue _ _ _ _ _ (fun _ hm => by cases hm) h
  · cases h

end Members

/-! ## Values made of parts -/

theorem canonicalItems_iff {vs : List Value} : CanonicalItems vs ↔ ∀ v ∈ vs, v.Canonical := by
  induction vs with
  | nil => exact ⟨fun _ _ h => absurd h List.not_mem_nil, fun _ => trivial⟩
  | cons v vs ih => rw [CanonicalItems, ih, List.forall_mem_cons]

theorem canonicalMembers_iff {ms : List (String × Value)} :
    CanonicalMembers ms ↔ ∀ m ∈ ms, m.2.Canonical := by
  induction ms with
  | nil => exact ⟨fun _ _ h => absurd h List.not_mem_nil, fun _ => trivial⟩
  | cons m ms ih => rw [CanonicalMembers, ih, List.forall_mem_cons]

theorem depthOfItems_le_iff {vs : List Value} {n : Nat} :
    depthOfItems vs ≤ n ↔ ∀ v ∈ vs, v.depth ≤ n := by
  induction vs with
  | nil => exact ⟨fun _ _ h => absurd h List.not_mem_nil, fun _ => Nat.zero_le n⟩
  | cons v vs ih => rw [depthOfItems, max_le_iff, ih, List.forall_mem_cons]

theorem depthOfMembers_le_iff {ms : List (String × Value)} {n : Nat} :
    depthOfMembers ms ≤ n ↔ ∀ m ∈ ms, m.2.depth ≤ n := by
  induction ms with
  | nil => exact ⟨fun _ _ h => absurd h List.not_mem_nil, fun _ => Nat.zero_le n⟩
  | cons m ms ih => rw [depthOfMembers, max_le_iff, ih, List.forall_mem_cons]

theorem ofMembers_canonical {ms : List (String × Value)} (h : ∀ m ∈ ms, m.2.Canonical) :
    (Value.ofMembers ms).Canonical := by
  obtain ⟨hsorted, hmem⟩ := sortedKeys_foldl ms [] .nil
  refine ⟨hsorted, canonicalMembers_iff.mpr fun m hm => ?_⟩
  rcases hmem m hm with hm | hm
  · cases hm
  · exact h m hm

theorem ofMembers_depth {ms : List (String × Value)} {n : Nat} (h : ∀ m ∈ ms, m.2.depth ≤ n) :
    (Value.ofMembers ms).depth ≤ n + 1 := by
  obtain ⟨-, hmem⟩ := sortedKeys_foldl ms [] .nil
  refine Nat.succ_le_succ (depthOfMembers_le_iff.mpr fun m hm => ?_)
  rcases hmem m hm with hm | hm
  · cases hm
  · exact h m hm

/-! ## Numbers -/

namespace Binary64

theorem zero_isFinite (negative : Bool) : (zero negative).IsFinite := by
  cases negative <;> decide

theorem ofParts?_isFinite {negative : Bool} {m : Nat} {q : Int} {x : Binary64}
    (h : ofParts? negative m q = some x) : x.IsFinite := by
  unfold ofParts? at h
  dsimp only at h
  generalize (q + 1074).toNat * hiddenBit + m = magnitude at h
  split_ifs at h with hm hneg
  all_goals
    obtain rfl := Option.some.inj h
    rw [IsFinite, exponentField, UInt64.toNat_ofNat']
    simp only [signBit, hiddenBit] at *
    omega

theorem ofQuotient?_isFinite {negative : Bool} {num den : Nat} {x : Binary64}
    (h : ofQuotient? negative num den = some x) : x.IsFinite := by
  by_cases hnum : num = 0
  · rw [ofQuotient?, if_pos hnum] at h
    obtain rfl := Option.some.inj h
    exact zero_isFinite negative
  · rw [ofQuotient?_eq (Nat.pos_of_ne_zero hnum)] at h
    exact ofParts?_isFinite h

theorem ofDecimal?_isFinite {negative : Bool} {digits : Nat} {exponent : Int} {x : Binary64}
    (h : ofDecimal? negative digits exponent = some x) : x.IsFinite := by
  unfold ofDecimal? at h
  dsimp only at h
  split_ifs at h
  · obtain rfl := Option.some.inj h
    exact zero_isFinite negative
  · obtain rfl := Option.some.inj h
    exact zero_isFinite negative
  · exact ofQuotient?_isFinite h
  · exact ofQuotient?_isFinite h

end Binary64

theorem toFloat_canonical {l : Literal} {rest : List Char} {n : Number} (h : l.toFloat rest = .ok n) :
    n.Canonical := by
  rw [Literal.toFloat] at h
  split at h
  · next x hx =>
    obtain rfl := Except.ok.inj h
    exact Binary64.ofDecimal?_isFinite hx
  · cases h

theorem evaluate_canonical {l : Literal} {rest : List Char} {n : Number}
    (h : l.evaluate rest = .ok n) : n.Canonical := by
  rw [Literal.evaluate] at h
  split at h
  · split_ifs at h with hneg hm hm
    · obtain rfl := Except.ok.inj h
      constructor <;> omega
    · exact toFloat_canonical h
    · obtain rfl := Except.ok.inj h
      constructor <;> omega
    · exact toFloat_canonical h
  · split at h
    · split_ifs at h
      obtain rfl := Except.ok.inj h
      exact Binary64.zero_isFinite _
    · exact toFloat_canonical h
  · exact toFloat_canonical h

theorem number_canonical {negative : Bool} {text rest : List Char} {v : Value}
    (h : number .full negative text = .ok (v, rest)) : v.Canonical ∧ v.depth = 0 := by
  rw [number] at h
  obtain ⟨⟨l, behind⟩, -, h⟩ := bind_eq_ok h
  obtain ⟨n, hn, h⟩ := bind_eq_ok h
  obtain ⟨rfl, rfl⟩ := Prod.mk.inj (Except.ok.inj h)
  exact ⟨evaluate_canonical hn, rfl⟩

/-! ## Values -/

theorem word_eq {v w : Value} {letters text rest : List Char}
    (h : word v letters text = .ok (w, rest)) : w = v := by
  induction letters generalizing text with
  | nil => exact (Prod.mk.inj (Except.ok.inj h)).1.symm
  | cons letter letters ih =>
    cases text with
    | nil => cases h
    | cons c text =>
      rw [word] at h
      split_ifs at h
      exact ih h

theorem valueWith_canonical {n : Nat} {reader : Char → Reader Value} {text rest : List Char} {v : Value}
    (hreader : ∀ c text v rest, reader c text = .ok (v, rest) → v.Canonical ∧ v.depth ≤ n)
    (h : valueWith .full reader text = .ok (v, rest)) : v.Canonical ∧ v.depth ≤ n := by
  have hscalar : ∀ w : Value, w.Canonical → w.depth = 0 → v = w → v.Canonical ∧ v.depth ≤ n := by
    rintro w hw hd rfl
    exact ⟨hw, by omega⟩
  rw [valueWith] at h
  split at h
  · cases h
  · exact hscalar .null trivial rfl (word_eq h)
  · exact hscalar (.bool true) trivial rfl (word_eq h)
  · exact hscalar (.bool false) trivial rfl (word_eq h)
  · obtain ⟨hc, hd⟩ := number_canonical h
    exact hscalar v hc hd rfl
  · obtain ⟨⟨s, behind⟩, -, h⟩ := bind_eq_ok h
    exact hscalar (.string s) trivial rfl (Prod.mk.inj (Except.ok.inj h)).1.symm
  · split_ifs at h
    · exact hreader _ _ _ _ h
    · obtain ⟨hc, hd⟩ := number_canonical h
      exact hscalar v hc hd rfl

/-- A value that is read is canonical, and no deeper than the limit. -/
theorem value_canonical {n : Nat} {text rest : List Char} {v : Value}
    (h : value .full n text = .ok (v, rest)) : v.Canonical ∧ v.depth ≤ n := by
  induction n generalizing text rest v with
  | zero =>
    refine valueWith_canonical (fun c text v rest h => ?_) h
    cases h
  | succ n ih =>
    refine valueWith_canonical (fun c text v rest h => ?_) h
    rw [container] at h
    split_ifs at h
    · obtain ⟨⟨vs, behind⟩, hvs, h⟩ := bind_eq_ok h
      obtain ⟨rfl, rfl⟩ := Prod.mk.inj (Except.ok.inj h)
      have hall := listItems_forall (P := fun v => v.Canonical ∧ v.depth ≤ n) (fun _ _ _ => ih) hvs
      exact ⟨canonicalItems_iff.mpr fun v hv => (hall v hv).1,
        Nat.succ_le_succ (depthOfItems_le_iff.mpr fun v hv => (hall v hv).2)⟩
    · obtain ⟨⟨ms, behind⟩, hms, h⟩ := bind_eq_ok h
      obtain ⟨rfl, rfl⟩ := Prod.mk.inj (Except.ok.inj h)
      have hall := objectMembers_forall (P := fun v => v.Canonical ∧ v.depth ≤ n) (fun _ _ _ _ => ih) hms
      exact ⟨ofMembers_canonical fun m hm => (hall m hm).1, ofMembers_depth fun m hm => (hall m hm).2⟩

/-- A text that is read begins with its value, and nothing but blanks follows. -/
theorem value_of_parse {text : String} {v : Value} (h : Value.parse text = .ok v) :
    ∃ rest, value .full depthLimit text.toList = .ok (v, rest) ∧ finish rest = .ok () := by
  have hdoc : document text.toList = .ok v := by
    rw [Value.parse] at h
    cases hd : document text.toList with
    | error e =>
      rw [hd] at h
      cases h
    | ok w =>
      rw [hd] at h
      rw [Except.ok.inj h]
  unfold document at hdoc
  obtain ⟨⟨w, rest⟩, hw, hdoc⟩ := bind_eq_ok hdoc
  obtain ⟨⟨⟩, hfinish, hdoc⟩ := bind_eq_ok hdoc
  obtain rfl := Except.ok.inj hdoc
  exact ⟨rest, hw, hfinish⟩

theorem parse_canonical {text : String} {v : Value} (h : Value.parse text = .ok v) :
    v.Canonical ∧ v.depth ≤ depthLimit := by
  obtain ⟨rest, hread, -⟩ := value_of_parse h
  exact value_canonical hread

theorem document_parse_canonical {text : String} {v : Value} (h : Document.parse text = .ok v) :
    v.Canonical ∧ v.depth ≤ depthLimit ∧ v.isObject := by
  rw [Document.parse] at h
  split at h
  · cases h
  · next w hw =>
    split_ifs at h with ho
    obtain rfl := Except.ok.inj h
    obtain ⟨hc, hd⟩ := parse_canonical hw
    exact ⟨hc, hd, ho⟩

end Dashboards.Json
