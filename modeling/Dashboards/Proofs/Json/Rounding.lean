import Dashboards.Json.Binary64
import Dashboards.Proofs.Text.Digits
import Mathlib

/-!
# Rounding to the nearest double

* `roundHalfEven_eq` : what a quotient rounds to;
* `scaled_div`, `placeOf_spec` : a quotient by a power of two, and the power that leaves 53 bits;
* `fields` : the parts of a finite double; `ofParts?_self` : they make it up again;
* `Near x y` : `y` is as near to `x` as to any other double (an end of the interval counts if the
  significand is even);
* `ofQuotient?_of_near`, `ofDecimal?_of_near` : what is near rounds to it.
-/

namespace Dashboards.Json.Binary64

/-! ## Rounding a quotient -/

theorem roundHalfEven_eq {n d m : Nat} (hd : 0 < d) (hlow : (m : ℚ) - 1 / 2 ≤ n / d)
    (hhigh : (n : ℚ) / d ≤ m + 1 / 2)
    (htie : m % 2 = 1 → (m : ℚ) - 1 / 2 < n / d ∧ (n : ℚ) / d < m + 1 / 2) :
    roundHalfEven n d = m := by
  have hd' : (0 : ℚ) < d := by exact_mod_cast hd
  have h1 : 2 * (m * d) ≤ 2 * n + d := by
    rw [le_div_iff₀ hd'] at hlow
    have : (2 : ℚ) * (m * d) ≤ 2 * n + d := by linarith
    exact_mod_cast this
  have h2 : 2 * n ≤ 2 * (m * d) + d := by
    rw [div_le_iff₀ hd'] at hhigh
    have : (2 : ℚ) * n ≤ 2 * (m * d) + d := by linarith
    exact_mod_cast this
  have h3 : m % 2 = 1 → 2 * (m * d) < 2 * n + d ∧ 2 * n < 2 * (m * d) + d := by
    intro hodd
    obtain ⟨ha, hb⟩ := htie hodd
    rw [lt_div_iff₀ hd'] at ha
    rw [div_lt_iff₀ hd'] at hb
    have ha' : (2 : ℚ) * (m * d) < 2 * n + d := by linarith
    have hb' : (2 : ℚ) * n < 2 * (m * d) + d := by linarith
    exact ⟨by exact_mod_cast ha', by exact_mod_cast hb'⟩
  have hdiv : d * (n / d) + n % d = n := Nat.div_add_mod n d
  have hmod : n % d < d := Nat.mod_lt n hd
  -- the result is the quotient rounded down, or the number behind it
  have hm : m = n / d ∨ m = n / d + 1 := by
    have hle : n / d ≤ m := by
      by_contra hlt
      have := Nat.mul_le_mul_left d (show m + 1 ≤ n / d by omega)
      rw [Nat.mul_add, Nat.mul_comm d m] at this
      omega
    have hge : m ≤ n / d + 1 := by
      by_contra hlt
      have := Nat.mul_le_mul_left d (show n / d + 2 ≤ m by omega)
      rw [Nat.mul_add, Nat.mul_comm d m] at this
      omega
    omega
  have hmd : m * d = d * (n / d) + (m - n / d) * d := by
    rw [Nat.mul_comm d, ← Nat.add_mul]
    congr 1
    omega
  unfold roundHalfEven
  dsimp only
  rcases hm with hm | hm
  · rw [show m - n / d = 0 by omega, Nat.zero_mul] at hmd
    split_ifs <;> omega
  · rw [show m - n / d = 1 by omega, Nat.one_mul] at hmd
    split_ifs <;> omega

/-! ## Powers of two -/

theorem two_zpow_pos (q : ℤ) : (0 : ℚ) < 2 ^ q := zpow_pos (by norm_num) q

theorem two_zpow_add_one (q : ℤ) : (2 : ℚ) ^ (q + 1) = 2 * 2 ^ q := by
  rw [zpow_add_one₀ (by norm_num), mul_comm]

theorem two_zpow_le {p q : ℤ} (h : p ≤ q) : (2 : ℚ) ^ p ≤ 2 ^ q :=
  zpow_le_zpow_right₀ (by norm_num) h

theorem scaled_pos {den : Nat} (hd : 0 < den) (num : Nat) (q : ℤ) : 0 < (scaled num den q).2 := by
  unfold scaled
  split
  · exact hd
  · exact Nat.mul_pos hd (Nat.pow_pos (by decide))

theorem scaled_div (num den : Nat) (q : ℤ) :
    ((scaled num den q).1 : ℚ) / (scaled num den q).2 = num / den / 2 ^ q := by
  unfold scaled
  split
  · next h =>
    have hq : q = -(q.natAbs : ℤ) := by omega
    conv_rhs => rw [hq, zpow_neg, zpow_natCast]
    simp only [Nat.pow_eq]
    push_cast
    rw [div_inv_eq_mul]
    ring
  · next h =>
    have hq : q = (q.natAbs : ℤ) := by omega
    conv_rhs => rw [hq, zpow_natCast]
    simp only [Nat.pow_eq]
    push_cast
    rw [div_div]

theorem log2_bounds {n : Nat} (h : 0 < n) :
    (2 : ℚ) ^ (n.log2 : ℤ) ≤ n ∧ (n : ℚ) < 2 ^ ((n.log2 : ℤ) + 1) := by
  constructor
  · rw [zpow_natCast]
    exact_mod_cast Nat.log2_self_le (Nat.pos_iff_ne_zero.mp h)
  · rw [show (n.log2 : ℤ) + 1 = ((n.log2 + 1 : ℕ) : ℤ) by norm_num, zpow_natCast]
    exact_mod_cast Nat.lt_log2_self

/-- The power that leaves 53 bits before the point, or fewer where there is no smaller power. -/
theorem placeOf_spec {num den : Nat} (hn : 0 < num) (hd : 0 < den) :
    -1074 ≤ placeOf num den ∧ (num : ℚ) / den < 2 * hiddenBit * 2 ^ placeOf num den ∧
      (placeOf num den = -1074 ∨ hiddenBit * 2 ^ placeOf num den ≤ (num : ℚ) / den) := by
  set y : ℚ := num / den with hy
  set q : ℤ := (num.log2 : ℤ) - den.log2 - 53 with hq
  have hd' : (0 : ℚ) < den := by exact_mod_cast hd
  obtain ⟨hn1, hn2⟩ := log2_bounds hn
  obtain ⟨hd1, hd2⟩ := log2_bounds hd
  have hhb : (hiddenBit : ℚ) = 2 ^ (52 : ℤ) := by norm_num [hiddenBit]
  have hlow : hiddenBit * 2 ^ q ≤ y := by
    rw [hhb, ← zpow_add₀ (by norm_num), hy, le_div_iff₀ hd']
    calc (2 : ℚ) ^ (52 + q) * den ≤ 2 ^ (52 + q) * 2 ^ ((den.log2 : ℤ) + 1) :=
          mul_le_mul_of_nonneg_left hd2.le (two_zpow_pos _).le
      _ = 2 ^ (num.log2 : ℤ) := by
          rw [← zpow_add₀ (by norm_num)]
          congr 1
          omega
      _ ≤ num := hn1
  have hhigh : y < 4 * hiddenBit * 2 ^ q := by
    rw [show (4 : ℚ) * hiddenBit = 2 ^ (54 : ℤ) by rw [hhb]; norm_num, ← zpow_add₀ (by norm_num), hy,
      div_lt_iff₀ hd']
    calc (num : ℚ) < 2 ^ ((num.log2 : ℤ) + 1) := hn2
      _ = 2 ^ (54 + q) * 2 ^ (den.log2 : ℤ) := by
          rw [← zpow_add₀ (by norm_num)]
          congr 1
          omega
      _ ≤ 2 ^ (54 + q) * den := mul_le_mul_of_nonneg_left hd1 (two_zpow_pos _).le
  have hcond : (scaled num den q).2 * (2 * hiddenBit) ≤ (scaled num den q).1 ↔
      2 * hiddenBit * 2 ^ q ≤ y := by
    have hs : (0 : ℚ) < (scaled num den q).2 := by exact_mod_cast scaled_pos hd num q
    rw [← le_div_iff₀ (two_zpow_pos q), ← scaled_div, le_div_iff₀ hs, mul_comm (2 * (hiddenBit : ℚ))]
    exact_mod_cast Iff.rfl
  -- the power before the lowest one is taken into account
  obtain ⟨k, hk, hk1, hk2⟩ : ∃ k : ℤ, placeOf num den = max (-1074) k ∧
      y < 2 * hiddenBit * 2 ^ k ∧ hiddenBit * 2 ^ k ≤ y := by
    refine ⟨if (scaled num den q).2 * (2 * hiddenBit) ≤ (scaled num den q).1 then q + 1 else q,
      rfl, ?_⟩
    split_ifs with h
    · rw [hcond] at h
      rw [two_zpow_add_one]
      constructor <;> linarith
    · rw [hcond] at h
      exact ⟨not_le.mp h, hlow⟩
  rw [hk]
  refine ⟨le_max_left _ _, ?_, ?_⟩
  · calc y < 2 * hiddenBit * 2 ^ k := hk1
      _ ≤ 2 * hiddenBit * 2 ^ max (-1074) k :=
          mul_le_mul_of_nonneg_left (two_zpow_le (le_max_right _ _)) (by positivity)
  · rcases max_choice (-1074) k with h | h
    · exact Or.inl h
    · rw [h]
      exact Or.inr hk2

/-! ## The parts of a double -/

theorem fractionField_lt (x : Binary64) : x.fractionField < hiddenBit :=
  Nat.mod_lt _ (by decide)

/-- The magnitude of a double, put together from its fields. -/
theorem fields (x : Binary64) :
    x.bits.toNat = (if x.isNegative then signBit else 0) + x.exponentField * hiddenBit + x.fractionField := by
  have hb := x.bits.toNat_lt
  by_cases h : signBit ≤ x.bits.toNat
  · rw [show x.isNegative = true from decide_eq_true h, if_pos rfl]
    simp only [exponentField, fractionField, signBit, hiddenBit] at h ⊢
    omega
  · rw [show x.isNegative = false from decide_eq_false h, if_neg Bool.false_ne_true]
    simp only [exponentField, fractionField, signBit, hiddenBit] at h ⊢
    omega

theorem ofParts?_self {x : Binary64} (hx : x.IsFinite) :
    ofParts? x.isNegative x.significand x.exponent = some x := by
  have hf := fields x
  have hfrac := fractionField_lt x
  have hfield : x.exponentField < 2047 := hx
  have hmag : (x.exponent + 1074).toNat * hiddenBit + x.significand =
      x.exponentField * hiddenBit + x.fractionField := by
    unfold exponent significand
    split_ifs with h
    · rw [h]
      simp
    · rw [show ((x.exponentField : ℤ) - 1075 + 1074).toNat = x.exponentField - 1 by omega,
        Nat.sub_mul, Nat.one_mul]
      have := Nat.mul_le_mul_right hiddenBit (show 1 ≤ x.exponentField by omega)
      omega
  have hlt : x.exponentField * hiddenBit + x.fractionField < 2047 * hiddenBit := by
    have := Nat.mul_le_mul_right hiddenBit (show x.exponentField + 1 ≤ 2047 by omega)
    rw [Nat.add_mul] at this
    omega
  have hbits : x.bits.toNat = if x.isNegative then
      signBit + (x.exponentField * hiddenBit + x.fractionField)
      else x.exponentField * hiddenBit + x.fractionField := by
    rw [hf]
    split_ifs <;> omega
  unfold ofParts?
  rw [hmag, if_pos hlt, ← hbits, UInt64.ofNat_toNat]

/-- Carrying into the next power gives the same double. -/
theorem ofParts?_carry (negative : Bool) {q : ℤ} (hq : -1074 ≤ q) :
    ofParts? negative (2 * hiddenBit) q = ofParts? negative hiddenBit (q + 1) := by
  unfold ofParts?
  have h : (q + 1 + 1074).toNat = (q + 1074).toNat + 1 := by omega
  rw [h, Nat.add_mul]
  rw [show (q + 1074).toNat * hiddenBit + 2 * hiddenBit =
    (q + 1074).toNat * hiddenBit + 1 * hiddenBit + hiddenBit by omega]

/-- The fields bound significand and exponent. -/
theorem significand_bounds {x : Binary64} (hx : x.IsFinite) :
    x.significand < 2 * hiddenBit ∧ -1074 ≤ x.exponent ∧ x.exponent ≤ 971 ∧
      (x.exponent = -1074 ∨ hiddenBit ≤ x.significand) ∧
      (1 < x.exponentField ↔ -1074 < x.exponent) := by
  have hfrac := fractionField_lt x
  have hfield : x.exponentField < 2047 := hx
  unfold exponent significand
  split_ifs with h <;> refine ⟨?_, ?_, ?_, ?_, ?_⟩ <;> omega

/-! ## What is near a double -/

/-- The next smaller double is nearer than the next greater one. -/
def isBoundary (x : Binary64) : Bool := x.fractionField = 0 && 1 < x.exponentField

/-- The least number that is as near to the magnitude as to any other double's. -/
def lowerEnd (x : Binary64) : ℚ :=
  (x.significand - if x.isBoundary then 1 / 4 else 1 / 2) * 2 ^ x.exponent

/-- The greatest number that is as near to the magnitude as to any other double's. -/
def upperEnd (x : Binary64) : ℚ := (x.significand + 1 / 2) * 2 ^ x.exponent

/-- No other double is nearer to this number, and the ends count if the significand is even. -/
def Near (x : Binary64) (y : ℚ) : Prop :=
  x.lowerEnd ≤ y ∧ y ≤ x.upperEnd ∧ (x.significand % 2 = 1 → x.lowerEnd < y ∧ y < x.upperEnd)

theorem significand_of_isBoundary {x : Binary64} (h : x.isBoundary) :
    x.significand = hiddenBit ∧ -1074 < x.exponent := by
  simp only [isBoundary, Bool.and_eq_true, decide_eq_true_eq] at h
  obtain ⟨h1, h2⟩ := h
  unfold significand exponent
  rw [if_neg (by omega), if_neg (by omega), h1]
  omega

theorem lowerEnd_ge (x : Binary64) : ((x.significand : ℚ) - 1 / 2) * 2 ^ x.exponent ≤ x.lowerEnd := by
  apply mul_le_mul_of_nonneg_right _ (two_zpow_pos _).le
  split_ifs <;> linarith

theorem lowerEnd_pos {x : Binary64} (hm : x.significand ≠ 0) : 0 < x.lowerEnd := by
  have h1 : (1 : ℚ) ≤ x.significand := by exact_mod_cast Nat.pos_of_ne_zero hm
  exact lt_of_lt_of_le (mul_pos (by linarith) (two_zpow_pos _)) (lowerEnd_ge x)

theorem Near.pos {x : Binary64} {y : ℚ} (h : x.Near y) (hm : x.significand ≠ 0) : 0 < y :=
  lt_of_lt_of_le (lowerEnd_pos hm) h.1

/-- The power of a number near a double is the double's own, or the one below it at a boundary. -/
theorem place_of_near {x : Binary64} (hx : x.IsFinite) {y : ℚ} (h : x.Near y) {p : ℤ}
    (hp : -1074 ≤ p) (hhigh : y < 2 * hiddenBit * 2 ^ p) (hlow : p = -1074 ∨ hiddenBit * 2 ^ p ≤ y) :
    p = x.exponent ∨ x.isBoundary ∧ p + 1 = x.exponent ∧ y < hiddenBit * 2 ^ x.exponent := by
  obtain ⟨hm, hq, -, hnormal, -⟩ := significand_bounds hx
  have hq0 := two_zpow_pos x.exponent
  have hm' : (x.significand : ℚ) + 1 ≤ 2 * hiddenBit := by exact_mod_cast hm
  have hb0 : (0 : ℚ) < hiddenBit := by norm_num [hiddenBit]
  have hle : p ≤ x.exponent := by
    by_contra hlt
    rcases hlow with hlow | hlow
    · omega
    · have h1 : (2 : ℚ) * 2 ^ x.exponent ≤ 2 ^ p := by
        rw [← two_zpow_add_one]
        exact two_zpow_le (by omega)
      have h2 : y ≤ ((x.significand : ℚ) + 1 / 2) * 2 ^ x.exponent := h.2.1
      nlinarith
  rcases eq_or_lt_of_le hle with heq | hlt
  · exact Or.inl heq
  · right
    have hnorm : hiddenBit ≤ x.significand := by omega
    have h1 : (2 : ℚ) * 2 ^ p ≤ 2 ^ x.exponent := by
      rw [← two_zpow_add_one]
      exact two_zpow_le (by omega)
    have hy : y < hiddenBit * 2 ^ x.exponent := by nlinarith
    have hboundary : x.isBoundary := by
      by_contra hnb
      have hlower : x.lowerEnd = ((x.significand : ℚ) - 1 / 2) * 2 ^ x.exponent := by
        rw [lowerEnd, if_neg hnb]
      have hgt : hiddenBit < x.significand := by
        rcases Nat.lt_or_ge hiddenBit x.significand with hgt | hge
        · exact hgt
        · exfalso
          apply hnb
          obtain ⟨-, -, -, -, hfield⟩ := significand_bounds hx
          have hf : 1 < x.exponentField := hfield.mpr (by omega)
          have hs : x.significand = x.fractionField + hiddenBit := by
            rw [significand, if_neg (by omega)]
          simp only [isBoundary, Bool.and_eq_true, decide_eq_true_eq]
          omega
      have hgt' : (hiddenBit : ℚ) + 1 ≤ x.significand := by exact_mod_cast hgt
      have := h.1
      rw [hlower] at this
      nlinarith
    refine ⟨hboundary, ?_, hy⟩
    have hs := (significand_of_isBoundary hboundary).1
    by_contra hne
    have h2 : (4 : ℚ) * 2 ^ p ≤ 2 ^ x.exponent := by
      rw [show (4 : ℚ) * 2 ^ p = 2 * (2 * 2 ^ p) by ring, ← two_zpow_add_one, ← two_zpow_add_one]
      exact two_zpow_le (by omega)
    have hl := h.1
    rw [lowerEnd, if_pos hboundary, hs] at hl
    have hb2 : (1 : ℚ) ≤ hiddenBit := by norm_num [hiddenBit]
    nlinarith

theorem ofQuotient?_eq {num : Nat} (hn : 0 < num) (negative : Bool) (den : Nat) :
    ofQuotient? negative num den = ofParts? negative
      (roundHalfEven (scaled num den (placeOf num den)).1 (scaled num den (placeOf num den)).2)
      (placeOf num den) := by
  unfold ofQuotient?
  extract_lets place
  -- a pair as such, so that nothing looks into the quotient
  generalize scaled num den place = quotient
  obtain ⟨n, d⟩ := quotient
  rw [if_neg (by omega)]

theorem ofQuotient?_of_near {x : Binary64} (hx : x.IsFinite) (hm : x.significand ≠ 0) {num den : Nat}
    (hd : 0 < den) (h : x.Near (num / den)) : ofQuotient? x.isNegative num den = some x := by
  have hn : 0 < num := by
    rcases Nat.eq_zero_or_pos num with rfl | hn
    · exact absurd (h.pos hm) (by simp)
    · exact hn
  obtain ⟨hp, hhigh, hlow⟩ := placeOf_spec hn hd
  have hs := scaled_pos hd num (placeOf num den)
  have hdiv := scaled_div num den (placeOf num den)
  have hq0 := two_zpow_pos (placeOf num den)
  have hround : ∀ m : Nat, (m : ℚ) - 1 / 2 ≤ num / den / 2 ^ placeOf num den →
      (num : ℚ) / den / 2 ^ placeOf num den ≤ m + 1 / 2 →
      (m % 2 = 1 → (m : ℚ) - 1 / 2 < num / den / 2 ^ placeOf num den ∧
        (num : ℚ) / den / 2 ^ placeOf num den < m + 1 / 2) →
      ofQuotient? x.isNegative num den = ofParts? x.isNegative m (placeOf num den) := by
    intro m h1 h2 h3
    rw [ofQuotient?_eq hn, roundHalfEven_eq hs (by rw [hdiv]; exact h1) (by rw [hdiv]; exact h2) (by rw [hdiv]; exact h3)]
  rcases place_of_near hx h hp hhigh hlow with heq | ⟨hb, heq, hy⟩
  · rw [heq] at hround hq0
    have hle := (lowerEnd_ge x).trans h.1
    rw [hround x.significand, ofParts?_self hx]
    · rwa [le_div_iff₀ hq0]
    · rw [div_le_iff₀ hq0]
      exact h.2.1
    · intro hodd
      obtain ⟨h1, h2⟩ := h.2.2 hodd
      refine ⟨?_, ?_⟩
      · rw [lt_div_iff₀ hq0]
        exact lt_of_le_of_lt (lowerEnd_ge x) h1
      · rw [div_lt_iff₀ hq0]
        exact h2
  · -- just below a power of two: the greatest significand of the lower power carries
    obtain ⟨hsig, -⟩ := significand_of_isBoundary hb
    have htwo : (2 : ℚ) ^ x.exponent = 2 * 2 ^ placeOf num den := by rw [← heq, two_zpow_add_one]
    have hl := h.1
    rw [lowerEnd, if_pos hb, hsig, htwo] at hl
    rw [htwo] at hy
    rw [hround (2 * hiddenBit), ofParts?_carry _ hp, heq, ← hsig, ofParts?_self hx]
    · rw [le_div_iff₀ hq0]
      push_cast
      linarith
    · rw [div_le_iff₀ hq0]
      push_cast
      linarith
    · intro hodd
      rw [Nat.mul_mod_right] at hodd
      exact absurd hodd (by decide)

/-! ## Decimals near a double -/

theorem ten_zpow_le {p q : ℤ} (h : p ≤ q) : (10 : ℚ) ^ p ≤ 10 ^ q :=
  zpow_le_zpow_right₀ (by norm_num) h

theorem ten_pow_lt_two_pow : (10 : ℚ) ^ (-330 : ℤ) < 2 ^ (-1 : ℤ) * 2 ^ (-1074 : ℤ) := by
  have h : (2 : ℕ) ^ 1075 < 10 ^ 330 := by decide +kernel
  have h' : (2 : ℚ) ^ (1075 : ℤ) < 10 ^ (330 : ℤ) := by exact_mod_cast h
  rw [← zpow_add₀ (by norm_num), show (-1 + -1074 : ℤ) = -1075 from rfl, zpow_neg, zpow_neg]
  exact inv_strictAnti₀ (two_zpow_pos _) h'

theorem two_pow_lt_ten_pow : (2 : ℚ) ^ (53 : ℤ) * 2 ^ (971 : ℤ) < 10 ^ (309 : ℤ) := by
  have h : (2 : ℕ) ^ 1024 < 10 ^ 309 := by decide +kernel
  rw [← zpow_add₀ (by norm_num), show (53 + 971 : ℤ) = 1024 from rfl]
  exact_mod_cast h

/-- A number near a double is neither too great nor too small for the shortcuts of `ofDecimal?`. -/
theorem Near.bounds {x : Binary64} (hx : x.IsFinite) (hm : x.significand ≠ 0) {y : ℚ} (h : x.Near y) :
    (10 : ℚ) ^ (-330 : ℤ) < y ∧ y < 10 ^ (309 : ℤ) := by
  obtain ⟨hsig, hlow, hhigh, -, -⟩ := significand_bounds hx
  have hq0 := two_zpow_pos x.exponent
  have h1 : (1 : ℚ) ≤ x.significand := by exact_mod_cast Nat.pos_of_ne_zero hm
  have hm' : (x.significand : ℚ) + 1 ≤ 2 ^ (53 : ℤ) := by
    have : ((2 * hiddenBit : ℕ) : ℚ) = 2 ^ (53 : ℤ) := by norm_num [hiddenBit]
    rw [← this]
    exact_mod_cast hsig
  constructor
  · calc (10 : ℚ) ^ (-330 : ℤ) < 2 ^ (-1 : ℤ) * 2 ^ (-1074 : ℤ) := ten_pow_lt_two_pow
      _ ≤ 2 ^ (-1 : ℤ) * 2 ^ x.exponent :=
          mul_le_mul_of_nonneg_left (two_zpow_le hlow) (two_zpow_pos _).le
      _ ≤ ((x.significand : ℚ) - 1 / 2) * 2 ^ x.exponent := by
          apply mul_le_mul_of_nonneg_right _ hq0.le
          rw [zpow_neg_one]
          linarith
      _ ≤ x.lowerEnd := lowerEnd_ge x
      _ ≤ y := h.1
  · calc y ≤ x.upperEnd := h.2.1
      _ ≤ 2 ^ (53 : ℤ) * 2 ^ x.exponent := mul_le_mul_of_nonneg_right (by linarith) hq0.le
      _ ≤ 2 ^ (53 : ℤ) * 2 ^ (971 : ℤ) :=
          mul_le_mul_of_nonneg_left (two_zpow_le hhigh) (two_zpow_pos _).le
      _ < 10 ^ (309 : ℤ) := two_pow_lt_ten_pow

theorem digits_bounds {n : Nat} (h : n ≠ 0) :
    (10 : ℚ) ^ (((Text.digits n).length : ℤ) - 1) ≤ n ∧ (n : ℚ) < 10 ^ ((Text.digits n).length : ℤ) := by
  constructor
  · have hlen := Text.length_digits_pos n
    rw [show ((Text.digits n).length : ℤ) - 1 = (((Text.digits n).length - 1 : ℕ) : ℤ) by omega,
      zpow_natCast]
    exact_mod_cast Text.pow_length_le h
  · rw [zpow_natCast]
    exact_mod_cast Text.lt_pow_length n

/-- A decimal near a double rounds to it. -/
theorem ofDecimal?_of_near {x : Binary64} (hx : x.IsFinite) (hm : x.significand ≠ 0) {digits : Nat}
    {e : ℤ} (h : x.Near (digits * 10 ^ e)) : ofDecimal? x.isNegative digits e = some x := by
  have hd : digits ≠ 0 := by
    rintro rfl
    exact absurd (h.pos hm) (by simp)
  obtain ⟨hmin, hmax⟩ := h.bounds hx hm
  obtain ⟨hd1, hd2⟩ := digits_bounds hd
  have he0 : (0 : ℚ) < 10 ^ e := zpow_pos (by norm_num) e
  have hover : ¬ overflowPlace < e + ((Text.digits digits).length : ℤ) := by
    intro hlt
    have h1 : (10 : ℚ) ^ (309 : ℤ) ≤ 10 ^ (((Text.digits digits).length : ℤ) - 1 + e) := by
      apply ten_zpow_le
      unfold overflowPlace at hlt
      omega
    rw [zpow_add₀ (by norm_num)] at h1
    nlinarith
  have hunder : ¬ e + ((Text.digits digits).length : ℤ) < underflowPlace := by
    intro hlt
    have h1 : (10 : ℚ) ^ (((Text.digits digits).length : ℤ) + e) ≤ 10 ^ (-330 : ℤ) := by
      apply ten_zpow_le
      unfold underflowPlace at hlt
      omega
    rw [zpow_add₀ (by norm_num)] at h1
    nlinarith
  unfold ofDecimal?
  dsimp only
  rw [if_neg hd, if_neg hover, if_neg hunder]
  have hcast : ((Nat.pow 10 e.natAbs : ℕ) : ℚ) = 10 ^ e.natAbs := Nat.cast_pow 10 e.natAbs
  split_ifs with hneg
  · apply ofQuotient?_of_near hx hm (Nat.pow_pos (by decide))
    rw [show e = -(e.natAbs : ℤ) by omega, zpow_neg, zpow_natCast] at h
    rwa [Nat.cast_pow, Nat.cast_ofNat, div_eq_mul_inv]
  · apply ofQuotient?_of_near hx hm Nat.one_pos
    rw [show e = (e.natAbs : ℤ) by omega, zpow_natCast] at h
    rwa [Nat.cast_mul, hcast, Nat.cast_one, div_one]

end Dashboards.Json.Binary64
