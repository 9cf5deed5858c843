import Dashboards.Json.Decimal
import Dashboards.Proofs.Json.Literal
import Dashboards.Proofs.Json.Rounding
import Mathlib

/-!
# Shortest decimals read back

* `interval_ends` : the interval of a double holds what is `Near` it;
* `near_of_holds` : a decimal in the interval is near the double;
* `gridPoint?_isSome` : a grid finer than the interval has a point in it;
* `near_shortest` : the fewest digits are found within the search, and they are near;
* `valueWith_text` : the text of a finite double reads back as the same double.
-/

namespace Dashboards.Json.Binary64

open Text (digits)

/-! ## The interval -/

theorem unit_div_den (q : ℤ) :
    ∀ u d : Nat, (if q < 2 then (1, Nat.pow 2 (2 - q).natAbs) else (Nat.pow 2 (q - 2).natAbs, 1)) = (u, d) →
      0 < d ∧ (u : ℚ) / d = 2 ^ q / 4 := by
  intro u d h
  have hfour : (2 : ℚ) ^ q / 4 = 2 ^ (q - 2) := by
    rw [zpow_sub₀ (by norm_num)]
    norm_num
  rw [hfour]
  split_ifs at h with hq
  · obtain ⟨rfl, rfl⟩ := Prod.mk.inj h
    refine ⟨Nat.pow_pos (by decide), ?_⟩
    rw [show q - 2 = -((2 - q).natAbs : ℤ) by omega, zpow_neg, zpow_natCast, Nat.cast_one, one_div]
    congr 1
    exact Nat.cast_pow 2 _
  · obtain ⟨rfl, rfl⟩ := Prod.mk.inj h
    refine ⟨Nat.one_pos, ?_⟩
    conv_rhs => rw [show q - 2 = ((q - 2).natAbs : ℤ) by omega, zpow_natCast]
    rw [Nat.cast_one, div_one]
    exact Nat.cast_pow 2 _

theorem exists_interval_eq (x : Binary64) : ∃ u d : Nat, 0 < d ∧ (u : ℚ) / d = 2 ^ x.exponent / 4 ∧
    x.interval = ⟨(if x.isBoundary then 4 * x.significand - 1 else 4 * x.significand - 2) * u,
      4 * x.significand * u, (4 * x.significand + 2) * u, d, x.significand % 2 = 0⟩ := by
  rcases hpair : if x.exponent < 2 then (1, Nat.pow 2 (2 - x.exponent).natAbs)
    else (Nat.pow 2 (x.exponent - 2).natAbs, 1) with ⟨u, d⟩
  obtain ⟨hd, hu⟩ := unit_div_den x.exponent u d hpair
  refine ⟨u, d, hd, hu, ?_⟩
  rw [interval]
  dsimp only
  rw [hpair]
  rfl

theorem interval_ends {x : Binary64} (hm : x.significand ≠ 0) :
    0 < x.interval.den ∧ (x.interval.lower : ℚ) / x.interval.den = x.lowerEnd ∧
      (x.interval.value : ℚ) / x.interval.den = x.significand * 2 ^ x.exponent ∧
      (x.interval.upper : ℚ) / x.interval.den = x.upperEnd ∧
      x.interval.closed = decide (x.significand % 2 = 0) := by
  obtain ⟨u, d, hd, hu, hi⟩ := exists_interval_eq x
  rw [hi]
  refine ⟨hd, ?_, ?_, ?_, rfl⟩
  · rw [Nat.cast_mul, mul_div_assoc, hu, lowerEnd]
    split_ifs
    · rw [Nat.cast_sub (by omega)]
      push_cast
      ring
    · rw [Nat.cast_sub (by omega)]
      push_cast
      ring
  · rw [Nat.cast_mul, mul_div_assoc, hu]
    push_cast
    ring
  · rw [Nat.cast_mul, mul_div_assoc, hu, upperEnd]
    push_cast
    ring

/-- What it means that a decimal lies in an interval. -/
theorem Interval.holds_iff {i : Interval} (hd : 0 < i.den) (digits : Nat) (place : ℤ) :
    i.holds digits place ↔
      if i.closed then (i.lower : ℚ) / i.den ≤ digits * 10 ^ place ∧ digits * 10 ^ place ≤ (i.upper : ℚ) / i.den
      else (i.lower : ℚ) / i.den < digits * 10 ^ place ∧ digits * 10 ^ place < (i.upper : ℚ) / i.den := by
  have hd' : (0 : ℚ) < i.den := by exact_mod_cast hd
  obtain ⟨point, scale, hpair, hs, hval⟩ : ∃ point scale : Nat,
      (if place < 0 then (digits * i.den, Nat.pow 10 place.natAbs)
        else (digits * Nat.pow 10 place.natAbs * i.den, 1)) = (point, scale) ∧ 0 < scale ∧
      (digits : ℚ) * 10 ^ place = point / scale / i.den := by
    split_ifs with hp
    · refine ⟨_, _, rfl, Nat.pow_pos (by decide), ?_⟩
      rw [show place = -(place.natAbs : ℤ) by omega, zpow_neg, zpow_natCast]
      have hcast : ((Nat.pow 10 (-(place.natAbs : ℤ)).natAbs : ℕ) : ℚ) = 10 ^ place.natAbs := by
        rw [Int.natAbs_neg, Int.natAbs_natCast]
        exact Nat.cast_pow 10 _
      rw [hcast, Nat.cast_mul]
      field_simp
    · refine ⟨_, _, rfl, Nat.one_pos, ?_⟩
      rw [Nat.cast_mul, Nat.cast_mul, Nat.cast_one, div_one, mul_div_assoc, div_self hd'.ne', mul_one]
      conv_lhs => rw [show place = (place.natAbs : ℤ) by omega, zpow_natCast]
      congr 1
      exact (Nat.cast_pow 10 _).symm
  have hs' : (0 : ℚ) < scale := by exact_mod_cast hs
  have hle : ∀ a b : Nat, a * scale ≤ b ↔ (a : ℚ) / i.den ≤ b / scale / i.den := by
    intro a b
    rw [div_le_div_iff_of_pos_right hd', le_div_iff₀ hs']
    exact_mod_cast Iff.rfl
  have hge : ∀ a b : Nat, b ≤ a * scale ↔ (b : ℚ) / scale / i.den ≤ a / i.den := by
    intro a b
    rw [div_le_div_iff_of_pos_right hd', div_le_iff₀ hs']
    exact_mod_cast Iff.rfl
  unfold holds
  rw [hpair, hval]
  dsimp only
  split_ifs with hc
  · rw [Bool.and_eq_true, decide_eq_true_eq, decide_eq_true_eq, hle, hge]
  · rw [Bool.and_eq_true, decide_eq_true_eq, decide_eq_true_eq, ← not_le, ← not_le, ← not_le, ← not_le,
      hge, hle]

theorem near_of_holds {x : Binary64} (hm : x.significand ≠ 0) {digits : Nat} {place : ℤ}
    (h : x.interval.holds digits place) : x.Near (digits * 10 ^ place) := by
  obtain ⟨hd, hlow, -, hup, hclosed⟩ := interval_ends hm
  rw [Interval.holds_iff hd, hlow, hup, hclosed] at h
  by_cases heven : x.significand % 2 = 0
  · rw [if_pos (decide_eq_true heven)] at h
    exact ⟨h.1, h.2, fun hodd => by omega⟩
  · rw [if_neg (by simpa using heven)] at h
    exact ⟨h.1.le, h.2.le, fun _ => h⟩

/-! ## The grid -/

/-- The value in steps of the grid, as a quotient. -/
theorem exists_gridPoint?_eq (i : Interval) (place : ℤ) : ∃ num den : Nat, (0 < i.den → 0 < den) ∧
    (num : ℚ) / den = i.value / i.den / 10 ^ place ∧
    i.gridPoint? place =
      let down := num / den
      let nearest := roundHalfEven num den
      let other := if nearest = down then down + 1 else down
      if i.holds nearest place then some nearest
      else if i.holds other place then some other
      else none := by
  rcases hpair : if place < 0 then (i.value * Nat.pow 10 place.natAbs, i.den)
    else (i.value, i.den * Nat.pow 10 place.natAbs) with ⟨num, den⟩
  refine ⟨num, den, ?_, ?_, ?_⟩
  · intro hd
    split_ifs at hpair with hp
    · rwa [← (Prod.mk.inj hpair).2]
    · rw [← (Prod.mk.inj hpair).2]
      exact Nat.mul_pos hd (Nat.pow_pos (by decide))
  · have hcast : ((Nat.pow 10 place.natAbs : ℕ) : ℚ) = 10 ^ place.natAbs := Nat.cast_pow 10 _
    split_ifs at hpair with hp
    · obtain ⟨rfl, rfl⟩ := Prod.mk.inj hpair
      conv_rhs => rw [show place = -(place.natAbs : ℤ) by omega, zpow_neg, zpow_natCast]
      rw [Nat.cast_mul, hcast, div_inv_eq_mul]
      ring
    · obtain ⟨rfl, rfl⟩ := Prod.mk.inj hpair
      conv_rhs => rw [show place = (place.natAbs : ℤ) by omega, zpow_natCast]
      rw [Nat.cast_mul, hcast, div_div]
  · unfold Interval.gridPoint?
    rw [hpair]

theorem holds_of_gridPoint? {i : Interval} {place : ℤ} {digits : Nat}
    (h : i.gridPoint? place = some digits) : i.holds digits place := by
  obtain ⟨num, den, -, -, heq⟩ := exists_gridPoint?_eq i place
  rw [heq] at h
  dsimp only at h
  split_ifs at h with h1 h2 h3 h4
  · rwa [← Option.some.inj h]
  · rwa [← Option.some.inj h]
  · rwa [← Option.some.inj h]

theorem roundHalfEven_eq_or (n d : Nat) : roundHalfEven n d = n / d ∨ roundHalfEven n d = n / d + 1 := by
  unfold roundHalfEven
  dsimp only
  split_ifs
  · exact Or.inl rfl
  · exact Or.inr rfl
  · exact Or.inl rfl
  · exact Or.inr rfl

/-- A grid finer than the interval has a point in it. -/
theorem gridPoint?_isSome {i : Interval} (hd : 0 < i.den) (hlow : i.lower < i.value)
    (hup : i.value < i.upper) {place : ℤ}
    (hstep : (10 : ℚ) ^ place < (i.upper : ℚ) / i.den - (i.lower : ℚ) / i.den) :
    (i.gridPoint? place).isSome := by
  obtain ⟨num, den, hden, hval, heq⟩ := exists_gridPoint?_eq i place
  have hd' : (0 : ℚ) < i.den := by exact_mod_cast hd
  have hden' : (0 : ℚ) < den := by exact_mod_cast hden hd
  have hp0 : (0 : ℚ) < 10 ^ place := zpow_pos (by norm_num) place
  have hlow' : (i.lower : ℚ) / i.den < i.value / i.den := by
    rw [div_lt_div_iff_of_pos_right hd']
    exact_mod_cast hlow
  have hup' : (i.value : ℚ) / i.den < i.upper / i.den := by
    rw [div_lt_div_iff_of_pos_right hd']
    exact_mod_cast hup
  -- the value lies between two neighbouring points of the grid
  have hdown : ((num / den : ℕ) : ℚ) * 10 ^ place ≤ i.value / i.den := by
    rw [← le_div_iff₀ hp0, ← hval, le_div_iff₀ hden']
    exact_mod_cast Nat.div_mul_le_self num den
  have hnext : (i.value : ℚ) / i.den < ((num / den + 1 : ℕ) : ℚ) * 10 ^ place := by
    rw [← div_lt_iff₀ hp0, ← hval, div_lt_iff₀ hden']
    exact_mod_cast Nat.lt_mul_of_div_lt (Nat.lt_succ_self _) (hden hd)
  have hinside : i.holds (num / den) place ∨ i.holds (num / den + 1) place := by
    by_cases hc : (i.lower : ℚ) / i.den < (num / den : ℕ) * 10 ^ place
    · left
      rw [Interval.holds_iff hd]
      split_ifs
      · exact ⟨hc.le, (hdown.trans_lt hup').le⟩
      · exact ⟨hc, hdown.trans_lt hup'⟩
    · right
      have hnext' : ((num / den + 1 : ℕ) : ℚ) * 10 ^ place < i.upper / i.den := by
        push_cast at hc ⊢
        linarith
      rw [Interval.holds_iff hd]
      split_ifs
      · exact ⟨(hlow'.trans hnext).le, hnext'.le⟩
      · exact ⟨hlow'.trans hnext, hnext'⟩
  rw [heq]
  dsimp only
  rcases roundHalfEven_eq_or num den with hr | hr
  · rw [hr, if_pos rfl]
    rcases hinside with h | h
    · rw [if_pos h]
      rfl
    · split_ifs
      · rfl
      · rfl
  · rw [hr, if_neg (Nat.succ_ne_self _)]
    rcases hinside with h | h
    · split_ifs
      · rfl
      · rfl
    · rw [if_pos h]
      rfl

/-! ## The search -/

theorem search_holds {i : Interval} : ∀ (steps : Nat) (place : ℤ),
    (∃ k : Nat, k < steps ∧ (i.gridPoint? (place - k)).isSome) →
      i.holds (i.search steps place).1 (i.search steps place).2
  | 0, _, ⟨_, hk, _⟩ => by omega
  | steps + 1, place, ⟨k, hk, hsome⟩ => by
    unfold Interval.search
    cases hg : i.gridPoint? place with
    | some d => exact holds_of_gridPoint? hg
    | none =>
      cases k with
      | zero => simp [hg] at hsome
      | succ k =>
        refine search_holds steps (place - 1) ⟨k, by omega, ?_⟩
        rwa [show place - 1 - (k : ℤ) = place - ((k + 1 : ℕ) : ℤ) by push_cast; ring]

/-- The leading digit is at this place, or below it. -/
theorem decimalPlace_le {num den : Nat} (hn : 0 < num) (hd : 0 < den) :
    (10 : ℚ) ^ decimalPlace num den ≤ (num : ℚ) / den := by
  have hn' : (0 : ℚ) < num := by exact_mod_cast hn
  have hd' : (0 : ℚ) < den := by exact_mod_cast hd
  unfold decimalPlace
  dsimp only
  split_ifs with h hone
  · have hq : num / den ≠ 0 := (Nat.div_pos h hd).ne'
    calc (10 : ℚ) ^ (((digits (num / den)).length : ℤ) - 1) ≤ ((num / den : ℕ) : ℚ) := (digits_bounds hq).1
      _ ≤ num / den := Nat.cast_div_le
  · -- the inverse is at most one only if the quotient is at least one
    have : den ≤ num := by
      have := Nat.div_add_mod (den + num - 1) num
      have hmod := Nat.mod_lt (den + num - 1) hn
      have hmul : num * ((den + num - 1) / num) ≤ num * 1 := Nat.mul_le_mul_left num hone
      omega
    exact absurd this h
  · set inverse := (den + num - 1) / num with hinv
    have hle : (den : ℚ) / num ≤ inverse := by
      rw [div_le_iff₀ hn']
      have hdiv := Nat.div_add_mod (den + num - 1) num
      rw [← hinv] at hdiv
      have hmod := Nat.mod_lt (den + num - 1) hn
      have : den ≤ inverse * num := by
        rw [Nat.mul_comm]
        omega
      exact_mod_cast this
    have hlt : (inverse : ℚ) ≤ 10 ^ (digits (inverse - 1)).length := by
      have := Text.lt_pow_length (inverse - 1)
      have : inverse ≤ 10 ^ (digits (inverse - 1)).length := by omega
      exact_mod_cast this
    rw [zero_sub, zpow_neg, zpow_natCast, inv_le_comm₀ (by positivity) (div_pos hn' hd'), inv_div]
    exact hle.trans hlt

/-- The fewest digits that are found are near the double. -/
theorem near_shortest {x : Binary64} (hx : x.IsFinite) (hm : x.significand ≠ 0) :
    x.Near (x.shortest.1 * 10 ^ x.shortest.2) := by
  obtain ⟨hd, hlow, hval, hup, -⟩ := interval_ends hm
  obtain ⟨hsig, -, -, -, -⟩ := significand_bounds hx
  have hd' : (0 : ℚ) < x.interval.den := by exact_mod_cast hd
  have hq0 := two_zpow_pos x.exponent
  have hm1 : (1 : ℚ) ≤ x.significand := by exact_mod_cast Nat.pos_of_ne_zero hm
  have hm2 : (x.significand : ℚ) < 2 * hiddenBit := by exact_mod_cast hsig
  have hb : (hiddenBit : ℚ) = 4503599627370496 := by norm_num [hiddenBit]
  have hlowval : x.interval.lower < x.interval.value := by
    have : (x.interval.lower : ℚ) / x.interval.den < x.interval.value / x.interval.den := by
      rw [hlow, hval, lowerEnd]
      apply mul_lt_mul_of_pos_right _ hq0
      split_ifs <;> linarith
    rw [div_lt_div_iff_of_pos_right hd'] at this
    exact_mod_cast this
  have hvalup : x.interval.value < x.interval.upper := by
    have : (x.interval.value : ℚ) / x.interval.den < x.interval.upper / x.interval.den := by
      rw [hup, hval, upperEnd]
      apply mul_lt_mul_of_pos_right _ hq0
      linarith
    rw [div_lt_div_iff_of_pos_right hd'] at this
    exact_mod_cast this
  have hplace := decimalPlace_le (show 0 < x.interval.value by omega) hd
  rw [hval] at hplace
  apply near_of_holds hm
  apply search_holds
  -- seventeen digits: the grid has steps below a unit in the last place
  refine ⟨17, by omega, gridPoint?_isSome hd hlowval hvalup ?_⟩
  rw [hlow, hup, show decimalPlace x.interval.value x.interval.den + 1 - ((17 : ℕ) : ℤ) =
    decimalPlace x.interval.value x.interval.den + -16 by push_cast; ring, zpow_add₀ (by norm_num)]
  have hsmall : (10 : ℚ) ^ (-16 : ℤ) = 1 / 10000000000000000 := by norm_num
  rw [hsmall]
  unfold upperEnd lowerEnd
  split_ifs with hbound
  · have hs := (significand_of_isBoundary hbound).1
    rw [hs, hb] at hplace ⊢
    nlinarith
  · rw [hb] at hm2
    nlinarith

/-! ## The text of a double -/

/-- The exponent of the leading digit. -/
def leadPlace (x : Binary64) : ℤ := x.shortest.2 + (digits x.shortest.1).length - 1

/-- The literal of the magnitude that is written for a double, and its sign. -/
def literal (x : Binary64) : Literal :=
  let ds := digits x.shortest.1
  let e := x.leadPlace
  if x.significand = 0 then ⟨x.isNegative, ['0'], some ['0'], none⟩
  else if isPositional e then
    if e < 0 then ⟨x.isNegative, ['0'], some (List.replicate (e.natAbs - 1) '0' ++ ds), none⟩
    else if ds.length ≤ e.natAbs + 1 then
      ⟨x.isNegative, ds ++ List.replicate (e.natAbs + 1 - ds.length) '0', some ['0'], none⟩
    else ⟨x.isNegative, ds.take (e.natAbs + 1), some (ds.drop (e.natAbs + 1)), none⟩
  else
    ⟨x.isNegative, ds.take 1, if ds.length ≤ 1 then none else some (ds.drop 1),
      some (decide (e < 0), digits e.natAbs)⟩

theorem text_eq (x : Binary64) : x.text = x.literal.signedSpelling := by
  unfold text literal magnitudeText Literal.signedSpelling Literal.spelling positional scientific leadPlace
  dsimp only
  split_ifs <;> simp_all [fractionSpelling, exponentSpelling]

theorem shortest_ne_zero {x : Binary64} (hx : x.IsFinite) (hm : x.significand ≠ 0) : x.shortest.1 ≠ 0 := by
  intro h
  have := (near_shortest hx hm).pos hm
  rw [h, Nat.cast_zero, zero_mul] at this
  exact lt_irrefl _ this

theorem isDigitRun_single {c : Char} (h : c.isDigit) : IsDigitRun [c] :=
  ⟨List.cons_ne_nil _ _, fun d hd => by rw [List.mem_singleton.mp hd]; exact h⟩

theorem isDigitRun_of_subset {ds es : List Char} (hne : ds ≠ []) (h : ∀ c ∈ ds, c ∈ es)
    (he : IsDigitRun es) : IsDigitRun ds :=
  ⟨hne, fun c hc => he.2 c (h c hc)⟩

theorem isDigitRun_append {ds es : List Char} (hd : ∀ c ∈ ds, c.isDigit) (he : IsDigitRun es) :
    IsDigitRun (ds ++ es) :=
  ⟨List.append_ne_nil_of_right_ne_nil ds he.1, fun c hc =>
    (List.mem_append.mp hc).elim (hd c) (he.2 c)⟩

theorem isDigitRun_append_zeros {ds : List Char} (hd : IsDigitRun ds) (k : Nat) :
    IsDigitRun (ds ++ List.replicate k '0') :=
  ⟨List.append_ne_nil_of_left_ne_nil hd.1 _, fun c hc =>
    (List.mem_append.mp hc).elim (hd.2 c) Text.isDigit_of_mem_zeros⟩

theorem literal_wellFormed {x : Binary64} (hx : x.IsFinite) : x.literal.WellFormed := by
  by_cases hm : x.significand = 0
  · rw [literal, if_pos hm]
    exact ⟨isDigitRun_single rfl, fun _ => rfl, fun _ h => by cases h; exact isDigitRun_single rfl,
      nofun⟩
  have hrun := IsDigitRun.digits x.shortest.1
  have hhead := Text.head_digits_ne_zero (shortest_ne_zero hx hm)
  have hlen := Text.length_digits_pos x.shortest.1
  rw [literal, if_neg hm]
  generalize digits x.shortest.1 = ds at hrun hhead hlen ⊢
  split_ifs with hpos hneg hle hone
  · exact ⟨isDigitRun_single rfl, fun _ => rfl,
      fun _ h => by cases h; exact isDigitRun_append (fun _ => Text.isDigit_of_mem_zeros) hrun,
      nofun⟩
  · refine ⟨isDigitRun_append_zeros hrun _, fun h => ?_, fun _ h => by cases h; exact isDigitRun_single rfl,
      nofun⟩
    rw [List.head?_append_of_ne_nil _ hrun.1] at h
    exact absurd h hhead
  · refine ⟨isDigitRun_of_subset ?_ (fun _ => List.mem_of_mem_take) hrun, fun h => ?_, ?_,
      nofun⟩
    · simpa using hrun.1
    · rw [List.head?_take, if_neg (by omega)] at h
      exact absurd h hhead
    · rintro _ ⟨⟩
      refine isDigitRun_of_subset ?_ (fun _ => List.mem_of_mem_drop) hrun
      intro h
      have := congrArg List.length h
      rw [List.length_drop, List.length_nil] at this
      omega
  · refine ⟨isDigitRun_of_subset ?_ (fun _ => List.mem_of_mem_take) hrun, fun h => ?_,
      nofun, fun _ h => by cases h; exact .digits _⟩
    · simpa using hrun.1
    · rw [List.head?_take, if_neg (by omega)] at h
      exact absurd h hhead
  · refine ⟨isDigitRun_of_subset ?_ (fun _ => List.mem_of_mem_take) hrun, fun h => ?_, ?_,
      fun _ h => by cases h; exact .digits _⟩
    · simpa using hrun.1
    · rw [List.head?_take, if_neg (by omega)] at h
      exact absurd h hhead
    · rintro _ ⟨⟩
      refine isDigitRun_of_subset ?_ (fun _ => List.mem_of_mem_drop) hrun
      intro h
      have := congrArg List.length h
      rw [List.length_drop, List.length_nil] at this
      omega

/-- Wherever the point stands, the literal is the decimal that was found. -/
theorem literal_decimal {x : Binary64} (hm : x.significand ≠ 0) :
    (x.literal.mantissa : ℚ) * 10 ^ x.literal.place = x.shortest.1 * 10 ^ x.shortest.2 := by
  have hval := Text.digitsValue_digits x.shortest.1
  have hlen := Text.length_digits_pos x.shortest.1
  have hlead : x.leadPlace = x.shortest.2 + (digits x.shortest.1).length - 1 := rfl
  rw [literal, if_neg hm]
  generalize digits x.shortest.1 = ds at hval hlen hlead ⊢
  have hplain : ∀ (p : ℤ) (e : ℤ), p = e → (Text.digitsValue ds : ℚ) * 10 ^ p = x.shortest.1 * 10 ^ e := by
    rintro p _ rfl
    rw [hval]
  split_ifs with hpos hneg hle hone
  · simp only [Literal.mantissa, Literal.place, Option.getD_some, List.singleton_append]
    rw [show '0' :: (List.replicate (x.leadPlace.natAbs - 1) '0' ++ ds) =
      List.replicate (x.leadPlace.natAbs - 1 + 1) '0' ++ ds by rw [List.replicate_succ]; rfl,
      Text.digitsValue_zeros_append]
    apply hplain
    rw [List.length_append, List.length_replicate]
    omega
  · simp only [Literal.mantissa, Literal.place, Option.getD_some, List.length_singleton]
    rw [List.append_assoc, show List.replicate (x.leadPlace.natAbs + 1 - ds.length) '0' ++ ['0'] =
      List.replicate (x.leadPlace.natAbs + 1 - ds.length + 1) '0' from List.replicate_succ'.symm,
      Text.digitsValue_append_zeros, Nat.cast_mul, Nat.cast_pow, mul_assoc, ← zpow_natCast, Nat.cast_ofNat,
      ← zpow_add₀ (by norm_num)]
    apply hplain
    omega
  · simp only [Literal.mantissa, Literal.place, Option.getD_some, List.take_append_drop]
    apply hplain
    rw [List.length_drop]
    omega
  · obtain ⟨c, rfl⟩ : ∃ c, ds = [c] := List.length_eq_one_iff.mp (by omega)
    simp only [Literal.mantissa, Literal.place, Option.getD_none, List.append_nil]
    apply hplain
    rw [List.length_singleton] at hlead
    by_cases h : x.leadPlace < 0
    · simp only [h, decide_true, Text.digitsValue_digits, List.length_nil]
      omega
    · simp only [h, decide_false, Text.digitsValue_digits, List.length_nil]
      omega
  · simp only [Literal.mantissa, Literal.place, Option.getD_some, List.take_append_drop]
    apply hplain
    by_cases h : x.leadPlace < 0
    · simp only [h, decide_true, Text.digitsValue_digits, List.length_drop]
      omega
    · simp only [h, decide_false, Text.digitsValue_digits, List.length_drop]
      omega

/-- The leading digit of a finite double stands within a few hundred places of the point. -/
theorem leadPlace_bounds {x : Binary64} (hx : x.IsFinite) (hm : x.significand ≠ 0) :
    -331 < x.leadPlace ∧ x.leadPlace < 309 := by
  obtain ⟨hmin, hmax⟩ := (near_shortest hx hm).bounds hx hm
  obtain ⟨hd1, hd2⟩ := digits_bounds (shortest_ne_zero hx hm)
  have hp0 : (0 : ℚ) < 10 ^ x.shortest.2 := zpow_pos (by norm_num) _
  have hten : (1 : ℚ) < 10 := by norm_num
  constructor
  · have h : (10 : ℚ) ^ (-330 : ℤ) < 10 ^ (((digits x.shortest.1).length : ℤ) + x.shortest.2) := by
      rw [zpow_add₀ (by norm_num)]
      exact hmin.trans (mul_lt_mul_of_pos_right hd2 hp0)
    have := (zpow_lt_zpow_iff_right₀ hten).mp h
    unfold leadPlace
    omega
  · have h : (10 : ℚ) ^ (((digits x.shortest.1).length : ℤ) - 1 + x.shortest.2) < 10 ^ (309 : ℤ) := by
      rw [zpow_add₀ (by norm_num)]
      exact lt_of_le_of_lt (mul_le_mul_of_nonneg_right hd1 hp0.le) hmax
    have := (zpow_lt_zpow_iff_right₀ hten).mp h
    unfold leadPlace
    omega

theorem le_foldl_digits (ds : List Char) :
    ∀ n : Nat, n ≤ ds.foldl (fun n d => 10 * n + (d.toNat - 48)) n := by
  induction ds with
  | nil => exact fun n => Nat.le_refl n
  | cons d ds ih =>
    intro n
    have := ih (10 * n + (d.toNat - 48))
    rw [List.foldl_cons]
    omega

theorem excess?_eq_none (ds : List Char) :
    ∀ n : Nat, ds.foldl (fun n d => 10 * n + (d.toNat - 48)) n ≤ exponentLimit → excess? n ds = none := by
  induction ds with
  | nil => exact fun _ _ => rfl
  | cons d ds ih =>
    intro n h
    rw [List.foldl_cons] at h
    have hnext := le_foldl_digits ds (10 * n + (d.toNat - 48))
    rw [excess?, if_neg (by omega), ih _ h]

theorem excess?_digits {n : Nat} (h : n ≤ exponentLimit) : excess? 0 (digits n) = none := by
  apply excess?_eq_none
  change Text.digitsValue (digits n) ≤ _
  rwa [Text.digitsValue_digits]

theorem literal_toFloat {x : Binary64} (hx : x.IsFinite) (rest : List Char) :
    x.literal.toFloat rest = .ok (.float x) := by
  have hneg : x.literal.negative = x.isNegative := by
    unfold literal
    dsimp only
    split_ifs <;> rfl
  by_cases hm : x.significand = 0
  · have hzero : ofDecimal? x.literal.negative x.literal.mantissa x.literal.place = some x := by
      have hmant : x.literal.mantissa = 0 := by
        rw [literal, if_pos hm]
        rfl
      have hf := ofParts?_self hx
      have hq : x.exponent = -1074 := by
        obtain ⟨-, -, -, h, -⟩ := significand_bounds hx
        rcases h with h | h
        · exact h
        · exact absurd h (by rw [hm]; decide)
      rw [hm, hq] at hf
      rw [hmant, hneg]
      exact hf
    rw [Literal.toFloat, hzero]
  · have hnear := near_shortest hx hm
    rw [← literal_decimal hm] at hnear
    rw [Literal.toFloat, hneg, ofDecimal?_of_near hx hm hnear]

/-- The literal of a double stands for the double. -/
theorem evaluate_literal {x : Binary64} (hx : x.IsFinite) (rest : List Char) :
    x.literal.evaluate rest = .ok (.float x) := by
  have hfloat := literal_toFloat hx rest
  have hforms : (∃ f, x.literal.fraction = some f ∧ x.literal.exponent = none) ∨
      ∃ sign n, x.literal.exponent = some (sign, digits n) ∧ n ≤ exponentLimit := by
    by_cases hm : x.significand = 0
    · rw [literal, if_pos hm]
      exact Or.inl ⟨_, rfl, rfl⟩
    · obtain ⟨hmin, hmax⟩ := leadPlace_bounds hx hm
      rw [literal, if_neg hm]
      split_ifs
      · exact Or.inl ⟨_, rfl, rfl⟩
      · exact Or.inl ⟨_, rfl, rfl⟩
      · exact Or.inl ⟨_, rfl, rfl⟩
      · exact Or.inr ⟨_, _, rfl, by unfold exponentLimit; omega⟩
      · exact Or.inr ⟨_, _, rfl, by unfold exponentLimit; omega⟩
  unfold Literal.evaluate
  rcases hforms with ⟨f, hf, he⟩ | ⟨sign, n, he, hn⟩
  · rw [hf, he]
    exact hfloat
  · rw [he]
    simp only [excess?_digits hn]
    cases x.literal.fraction with
    | none => exact hfloat
    | some f => exact hfloat

/-- The text of a finite double reads back as the same double. -/
theorem valueWith_text {x : Binary64} (hx : x.IsFinite) {rest : List Char} (hr : EndsNumber rest)
    (container : Char → Reader Value) :
    valueWith .full container (x.text ++ rest) = .ok (.number (.float x), rest) := by
  rw [text_eq]
  exact valueWith_signedSpelling (literal_wellFormed hx) hr (evaluate_literal hx rest) container

end Dashboards.Json.Binary64
