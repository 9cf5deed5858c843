import Dashboards.Proofs.Text.Digits
import Dashboards.Timestamp
import Mathlib

/-!
# Reading back a timestamp

* `digits?_append`, `pair?_padded`, `year?_yearText`, `fraction?_fractionText` : a number reads back
  from its digits;
* `moment?_localText` : date and time of day read back;
* `inUtc_zero` : without an offset a moment stays what it is;
* `parse?_text` : a timestamp reads back from its written form;
* `isValid_of_parse?` : what is read is a moment of the calendar, as `newYear` is.
-/

namespace Dashboards.Timestamp

open Text

/-! ## Parts of the text -/

theorem isWhiteSpace_of_isDigit {c : Char} (h : c.isDigit) : isWhiteSpace c = false := by
  have hc : 48 ≤ c.toNat ∧ c.toNat ≤ 57 := by
    simpa [Char.isDigit, UInt32.le_iff_toNat_le] using h
  simp only [isWhiteSpace, Bool.or_eq_false_iff, Bool.and_eq_false_iff, decide_eq_false_iff_not, beq_eq_false_iff_ne]
  omega

theorem trimStart_cons {c : Char} (h : isWhiteSpace c = false) (rest : List Char) :
    trimStart (c :: rest) = c :: rest := by
  rw [trimStart, List.dropWhile_cons_of_neg]
  rw [h]
  exact Bool.false_ne_true

theorem mark?_cons {c : Char} (h : isWhiteSpace c = false) (rest : List Char) :
    mark? c (c :: rest) = some rest := by
  rw [mark?, trimStart_cons h]
  exact if_pos rfl

theorem trimStart_digits {ds rest : List Char} (hne : ds ≠ []) (hd : ∀ c ∈ ds, c.isDigit) :
    trimStart (ds ++ rest) = ds ++ rest := by
  cases ds with
  | nil => exact absurd rfl hne
  | cons c ds => exact trimStart_cons (isWhiteSpace_of_isDigit (hd c List.mem_cons_self)) _

/-- Digits are read up to what is none. -/
theorem digits?_append {ds rest : List Char} {width : Nat} (hne : ds ≠ []) (hd : ∀ c ∈ ds, c.isDigit)
    (hw : ds.length ≤ width) (hr : ∀ c ∈ rest.head?, c.isDigit = false) :
    digits? width (ds ++ rest) = some (digitsValue ds, rest) := by
  have hr' : ∀ c ∈ (rest.take (width - ds.length)).head?, c.isDigit = false := by
    intro c hc
    rw [List.head?_take] at hc
    split_ifs at hc
    · cases hc
    · exact hr c hc
  have htake : ((ds ++ rest).take width).takeWhile Char.isDigit = ds := by
    rw [List.take_append, List.take_of_length_le hw, takeWhile_digits hd hr']
  rw [digits?, htake, if_neg (by simpa using hne), List.drop_left]

theorem padded_ne_nil (width n : Nat) : padded width n ≠ [] :=
  List.append_ne_nil_of_right_ne_nil _ (digits_ne_nil n)

theorem pair?_padded {n : Nat} (hn : n < 10 ^ 2) {rest : List Char}
    (hr : ∀ c ∈ rest.head?, c.isDigit = false) : pair? (padded 2 n ++ rest) = some (n, rest) := by
  have hd : ∀ c ∈ padded 2 n, c.isDigit := fun _ => isDigit_of_mem_padded
  rw [pair?, trimStart_digits (padded_ne_nil 2 n) hd,
    digits?_append (padded_ne_nil 2 n) hd (le_of_eq (length_padded (by decide) hn)) hr,
    digitsValue_padded]

theorem allDigits?_padded (width n : Nat) {rest : List Char} (hr : ∀ c ∈ rest.head?, c.isDigit = false) :
    allDigits? (padded width n ++ rest) = some (n, rest) := by
  rw [allDigits?, digits?_append (padded_ne_nil width n) (fun _ => isDigit_of_mem_padded) _ hr,
    digitsValue_padded]
  rw [List.length_append]
  exact Nat.le_add_right _ _

theorem year?_yearText (year : Int) {rest : List Char} (hr : ∀ c ∈ rest.head?, c.isDigit = false) :
    year? (yearText year ++ rest) = some (year, rest) := by
  rw [yearText]
  split_ifs with hshort hneg
  · obtain ⟨h0, h9999⟩ : 0 ≤ year ∧ year ≤ 9999 := by simpa using hshort
    have hd : ∀ c ∈ padded 4 year.natAbs, c.isDigit := fun _ => isDigit_of_mem_padded
    have hread := digits?_append (padded_ne_nil 4 year.natAbs) hd
      (le_of_eq (length_padded (by decide) (show year.natAbs < 10 ^ 4 by omega))) hr
    obtain ⟨c, cs, hcs⟩ : ∃ c cs, padded 4 year.natAbs = c :: cs :=
      List.exists_cons_of_ne_nil (padded_ne_nil 4 year.natAbs)
    have hc : c.isDigit := hd c (by rw [hcs]; exact List.mem_cons_self)
    rw [digitsValue_padded, hcs, List.cons_append] at hread
    rw [hcs, year?, List.cons_append, trimStart_cons (isWhiteSpace_of_isDigit hc)]
    split
    · next heq =>
      obtain ⟨rfl, -⟩ := List.cons.inj heq
      cases hc
    · next heq =>
      obtain ⟨rfl, -⟩ := List.cons.inj heq
      cases hc
    · rw [hread, Option.map_some]
      dsimp only
      rw [Int.natAbs_of_nonneg h0]
  · change (allDigits? (padded 4 year.natAbs ++ rest)).map (fun p => (-(p.1 : Int), p.2)) = _
    rw [allDigits?_padded 4 year.natAbs hr, Option.map_some]
    congr 2
    omega
  · change (allDigits? (padded 4 year.natAbs ++ rest)).map (fun p => ((p.1 : Int), p.2)) = _
    rw [allDigits?_padded 4 year.natAbs hr, Option.map_some]
    have : 0 ≤ year := by omega
    congr 2
    omega

/-! ## Fractions of a second -/

theorem fraction?_digits {ds rest : List Char} (hne : ds ≠ []) (hd : ∀ c ∈ ds, c.isDigit)
    (hl : ds.length ≤ 9) (hr : ∀ c ∈ rest.head?, c.isDigit = false) :
    fraction? ('.' :: (ds ++ rest)) = some (digitsValue ds * 10 ^ (9 - ds.length), rest) := by
  rw [fraction?]
  dsimp only
  rw [takeWhile_digits hd hr, if_neg (by simpa using hne), List.drop_left, List.take_of_length_le hl,
    digitsValue_append_zeros]

theorem fraction?_padded {width n : Nat} (hw : 0 < width) (hw' : width ≤ 9) (hn : n < 10 ^ width)
    {rest : List Char} (hr : ∀ c ∈ rest.head?, c.isDigit = false) :
    fraction? ('.' :: (padded width n ++ rest)) = some (n * 10 ^ (9 - width), rest) := by
  have hl := length_padded hw hn
  rw [fraction?_digits (padded_ne_nil width n) (fun _ => isDigit_of_mem_padded) (by omega) hr,
    digitsValue_padded, hl]

theorem fraction?_fractionText {n : Nat} (hn : n ≤ 999999999) {rest : List Char}
    (hr : ∀ c ∈ rest.head?, c.isDigit = false ∧ c ≠ '.') :
    fraction? (fractionText n ++ rest) = some (n, rest) := by
  have hr' : ∀ c ∈ rest.head?, c.isDigit = false := fun c hc => (hr c hc).1
  rw [fractionText]
  split_ifs with h0 h3 h6
  · rw [List.nil_append, fraction?]
    · rw [h0]
    · rintro _ rfl
      exact (hr '.' rfl).2 rfl
  · rw [List.cons_append, fraction?_padded (by decide) (by decide) (by omega) hr']
    congr 2
    omega
  · rw [List.cons_append, fraction?_padded (by decide) (by decide) (by omega) hr']
    congr 2
    omega
  · rw [List.cons_append, fraction?_padded (by decide) (by decide) (by omega) hr', Nat.sub_self,
      pow_zero, Nat.mul_one]

theorem fractionText_head (n : Nat) {rest : List Char} (hr : ∀ c ∈ rest.head?, c.isDigit = false) :
    ∀ c ∈ (fractionText n ++ rest).head?, c.isDigit = false := by
  rw [fractionText]
  split_ifs
  · exact hr
  all_goals
    intro c hc
    obtain rfl : '.' = c := by simpa using hc
    rfl

/-! ## Whole timestamps -/

theorem head_cons {c : Char} (h : c.isDigit = false) (rest : List Char) :
    ∀ d ∈ (c :: rest).head?, d.isDigit = false := by
  intro d hd
  obtain rfl : c = d := by simpa using hd
  exact h

theorem monthLength_le (year : Int) (month : Nat) : Date.monthLength year month ≤ 31 := by
  rw [Date.monthLength]
  split_ifs <;> omega

structure Bounds (t : Timestamp) : Prop where
  month : t.date.month ≤ 12
  day : t.date.day ≤ 31
  hour : t.hour ≤ 23
  minute : t.minute ≤ 59
  second : t.second ≤ 60
  nanosecond : t.nanosecond ≤ 999999999

theorem bounds_of_isValid {t : Timestamp} (h : t.isValid) : Bounds t := by
  simp only [isValid, Date.isValid, Bool.and_eq_true, decide_eq_true_eq] at h
  obtain ⟨⟨⟨⟨⟨⟨⟨-, hmonth⟩, -⟩, hday⟩, hhour⟩, hminute⟩, hsecond⟩, hnanosecond⟩ := h
  exact ⟨hmonth, hday.trans (monthLength_le _ _), hhour, hminute, hsecond, hnanosecond⟩

theorem moment?_localText {t : Timestamp} (h : Bounds t) {rest : List Char}
    (hr : ∀ c ∈ rest.head?, c.isDigit = false ∧ c ≠ '.') :
    moment? (t.localText ++ rest) = some (t, rest) := by
  have hr' : ∀ c ∈ rest.head?, c.isDigit = false := fun c hc => (hr c hc).1
  obtain ⟨hmonth, hday, hhour, hminute, hsecond, hnano⟩ := h
  have hdate : ∀ s, date? (yearText t.date.year ++ '-' :: (padded 2 t.date.month ++ '-' ::
      (padded 2 t.date.day ++ 'T' :: s))) = some (t.date, 'T' :: s) := by
    intro s
    rw [date?, year?_yearText _ (head_cons rfl _)]
    dsimp only [Option.bind_eq_bind, Option.bind_some]
    rw [mark?_cons rfl, Option.bind_some, pair?_padded (by omega) (head_cons rfl _), Option.bind_some]
    dsimp only
    rw [mark?_cons rfl, Option.bind_some, pair?_padded (by omega) (head_cons rfl _)]
    rfl
  rw [localText]
  simp only [List.append_assoc, List.cons_append]
  rw [moment?, hdate]
  dsimp only [Option.bind_eq_bind, Option.bind_some]
  rw [separator?, if_pos (by decide), Option.bind_some, pair?_padded (by omega) (head_cons rfl _), Option.bind_some]
  dsimp only
  rw [mark?_cons rfl, Option.bind_some, pair?_padded (by omega) (head_cons rfl _), Option.bind_some]
  dsimp only
  rw [mark?_cons rfl, Option.bind_some, pair?_padded (by omega) (fractionText_head _ hr'), Option.bind_some]
  dsimp only
  rw [fraction?_fractionText hnano hr]
  rfl

theorem inUtc_zero {t : Timestamp} (h : Bounds t) : t.inUtc 0 = t := by
  obtain ⟨date, hour, minute, second, nanosecond⟩ := t
  obtain ⟨-, -, hhour, hminute, -, -⟩ := h
  dsimp only at hhour hminute
  rw [inUtc]
  dsimp only
  rw [if_neg (by omega), if_neg (by omega)]
  congr <;> omega

theorem parse?_text {t : Timestamp} (h : t.isValid) : parse? t.text = some t := by
  have hb := bounds_of_isValid h
  have hz : ∀ c ∈ ['Z'].head?, c.isDigit = false ∧ c ≠ '.' := by simp
  have hzone : zone? ['Z'] = some (0, []) := by decide
  rw [parse?, text, String.toList_ofList, moment?_localText hb hz]
  dsimp only [Option.bind_eq_bind, Option.bind_some]
  rw [hzone, Option.bind_some]
  dsimp only
  rw [inUtc_zero hb, h]
  rfl

theorem isValid_of_parse? {s : String} {t : Timestamp} (h : parse? s = some t) : t.isValid := by
  rw [parse?] at h
  obtain ⟨moment, -, h⟩ := Option.bind_eq_some_iff.mp h
  obtain ⟨zone, -, h⟩ := Option.bind_eq_some_iff.mp h
  obtain ⟨_, -, h⟩ := Option.bind_eq_some_iff.mp h
  obtain ⟨_, -, h⟩ := Option.bind_eq_some_iff.mp h
  obtain ⟨_, hvalid, h⟩ := Option.bind_eq_some_iff.mp h
  obtain rfl := Option.some.inj h
  by_contra hnot
  rw [guard, if_neg hnot] at hvalid
  cases hvalid

/-- New Year 2024. -/
def newYear : Timestamp := ⟨⟨2024, 1, 1⟩, 0, 0, 0, 0⟩

theorem newYear_isValid : newYear.isValid := by decide

end Dashboards.Timestamp
