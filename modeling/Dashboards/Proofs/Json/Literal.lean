import Dashboards.Json.Decimal
import Dashboards.Json.Reader
import Dashboards.Proofs.Text.Digits
import Mathlib

/-!
# Reading the literals of numbers

* `EndsNumber rest` : what follows cannot belong to a number (`EndsNumber.cons`);
* `Literal.spelling`, `Literal.WellFormed` : how a literal is written, and which ones can be;
* `literal_append`, `literal_spelling` : a written literal reads back, whatever follows it;
* `valueWith_literal` : a value that begins with a literal is a number;
* `valueWith_signedSpelling` : so does a value that is a number;
* `valueWith_integerText` : an integer of 64 bits reads back.
-/

namespace Dashboards.Json

open Text

/-! ## The end of a number -/

/-- The text goes on with nothing that could belong to a number. -/
def EndsNumber (rest : List Char) : Prop :=
  ∀ c ∈ rest.head?, c.isDigit = false ∧ c ≠ '.' ∧ c ≠ 'e' ∧ c ≠ 'E'

theorem EndsNumber.nil : EndsNumber [] := fun _ h => by cases h

theorem EndsNumber.cons {c : Char} (rest : List Char)
    (h : c.isDigit = false ∧ c ≠ '.' ∧ c ≠ 'e' ∧ c ≠ 'E') : EndsNumber (c :: rest) := by
  intro d hd
  obtain rfl : c = d := by simpa using hd
  exact h

theorem EndsNumber.noDigit {rest : List Char} (h : EndsNumber rest) :
    ∀ c ∈ rest.head?, c.isDigit = false := fun c hc => (h c hc).1

/-! ## Literals as they are written -/

def fractionSpelling : Option (List Char) → List Char
  | none => []
  | some ds => '.' :: ds

def exponentSpelling : Option (Bool × List Char) → List Char
  | none => []
  | some (negative, ds) => 'e' :: (if negative then '-' else '+') :: ds

/-- The literal behind its sign. -/
def Literal.spelling (l : Literal) : List Char :=
  l.whole ++ (fractionSpelling l.fraction ++ exponentSpelling l.exponent)

/-- At least one digit, and nothing else. -/
def IsDigitRun (ds : List Char) : Prop := ds ≠ [] ∧ ∀ c ∈ ds, c.isDigit

structure Literal.WellFormed (l : Literal) : Prop where
  whole : IsDigitRun l.whole
  /-- A leading zero stands alone. -/
  lead : l.whole.head? = some '0' → l.whole = ['0']
  fraction : ∀ ds ∈ l.fraction, IsDigitRun ds
  exponent : ∀ e ∈ l.exponent, IsDigitRun e.2

theorem IsDigitRun.digits (n : Nat) : IsDigitRun (digits n) :=
  ⟨digits_ne_nil n, fun _ h => isDigit_of_mem_digits h⟩

theorem head_digits_zero {n : Nat} (h : (digits n).head? = some '0') : digits n = ['0'] := by
  by_cases hn : n = 0
  · rw [hn, digits_zero]
  · exact absurd h (head_digits_ne_zero hn)

/-! ## Reading them -/

theorem digitRun_append {ds rest : List Char} (h : IsDigitRun ds)
    (hr : ∀ c ∈ rest.head?, c.isDigit = false) : digitRun (ds ++ rest) = .ok (ds, rest) := by
  obtain ⟨hne, hd⟩ := h
  cases ds with
  | nil => exact absurd rfl hne
  | cons c ds =>
    have hds : ∀ d ∈ ds, d.isDigit := fun d hm => hd d (List.mem_cons_of_mem c hm)
    rw [List.cons_append, digitRun, if_pos (hd c List.mem_cons_self), takeWhile_digits hds hr,
      dropWhile_digits hds hr]

theorem wholePart_append {ds rest : List Char} (h : IsDigitRun ds)
    (hz : ds.head? = some '0' → ds = ['0']) (hr : ∀ c ∈ rest.head?, c.isDigit = false) :
    wholePart (ds ++ rest) = .ok (ds, rest) := by
  cases ds with
  | nil => exact absurd rfl h.1
  | cons c ds =>
    by_cases hc : c = '0'
    · subst hc
      obtain rfl : ds = [] := by simpa using hz rfl
      cases rest with
      | nil => rfl
      | cons d rest =>
        change (if d.isDigit = true then _ else _) = _
        rw [hr d rfl]
        rfl
    · have hw : wholePart (c :: ds ++ rest) = digitRun (c :: ds ++ rest) := by
        rw [List.cons_append, wholePart]
        rintro _ ⟨⟩
        exact hc rfl
      rw [hw, digitRun_append h hr]

theorem exponentSpelling_head (e : Option (Bool × List Char)) {rest : List Char} (hr : EndsNumber rest) :
    ∀ c ∈ (exponentSpelling e ++ rest).head?, c.isDigit = false ∧ c ≠ '.' := by
  intro c hc
  cases e with
  | none => exact ⟨(hr c hc).1, (hr c hc).2.1⟩
  | some e =>
    obtain rfl : 'e' = c := by simpa [exponentSpelling] using hc
    exact ⟨rfl, by decide⟩

theorem fractionPart_append {f : Option (List Char)} {rest : List Char}
    (hf : ∀ ds ∈ f, IsDigitRun ds) (hr : ∀ c ∈ rest.head?, c.isDigit = false ∧ c ≠ '.') :
    fractionPart (fractionSpelling f ++ rest) = .ok (f, rest) := by
  cases f with
  | none =>
    cases rest with
    | nil => rfl
    | cons c rest =>
      change fractionPart (c :: rest) = _
      rw [fractionPart]
      rintro _ ⟨⟩
      exact (hr '.' rfl).2 rfl
  | some ds =>
    change (digitRun (ds ++ rest) >>= fun r => Except.ok (some r.1, r.2)) = _
    rw [digitRun_append (hf ds rfl) fun c hc => (hr c hc).1]
    rfl

theorem signedDigits_append {negative : Bool} {ds rest : List Char} (h : IsDigitRun ds)
    (hr : ∀ c ∈ rest.head?, c.isDigit = false) :
    signedDigits ((if negative then '-' else '+') :: (ds ++ rest)) = .ok ((negative, ds), rest) := by
  cases negative with
  | false =>
    change (digitRun (ds ++ rest) >>= fun r => Except.ok ((false, r.1), r.2)) = _
    rw [digitRun_append h hr]
    rfl
  | true =>
    change (digitRun (ds ++ rest) >>= fun r => Except.ok ((true, r.1), r.2)) = _
    rw [digitRun_append h hr]
    rfl

theorem exponentPart_append {e : Option (Bool × List Char)} {rest : List Char}
    (he : ∀ e' ∈ e, IsDigitRun e'.2) (hr : EndsNumber rest) :
    exponentPart (exponentSpelling e ++ rest) = .ok (e, rest) := by
  cases e with
  | none =>
    cases rest with
    | nil => rfl
    | cons c rest =>
      obtain ⟨-, -, h1, h2⟩ := hr c rfl
      change exponentPart (c :: rest) = _
      rw [exponentPart, if_neg (by simp [h1, h2])]
  | some e =>
    change (signedDigits ((if e.1 then '-' else '+') :: (e.2 ++ rest)) >>= fun r =>
      Except.ok (some r.1, r.2)) = _
    rw [signedDigits_append (he e rfl) hr.noDigit]
    rfl

/-- A literal is read before any text that its exponent is read from. -/
theorem literal_append {l : Literal} (h : l.WellFormed) {text rest : List Char}
    (he : exponentPart text = .ok (l.exponent, rest)) (hhead : ∀ c ∈ text.head?, c.isDigit = false ∧ c ≠ '.') :
    literal l.negative (l.whole ++ (fractionSpelling l.fraction ++ text)) = .ok (l, rest) := by
  have hw : ∀ c ∈ (fractionSpelling l.fraction ++ text).head?, c.isDigit = false := by
    intro c hc
    cases hf : l.fraction with
    | none =>
      rw [hf] at hc
      exact (hhead c hc).1
    | some ds =>
      rw [hf] at hc
      obtain rfl : '.' = c := by simpa [fractionSpelling] using hc
      rfl
  rw [literal, wholePart_append h.whole h.lead hw]
  change (fractionPart _ >>= _) = _
  rw [fractionPart_append h.fraction hhead]
  change (exponentPart _ >>= _) = _
  rw [he]
  rfl

/-- A written literal reads back, whatever follows it. -/
theorem literal_spelling {l : Literal} (h : l.WellFormed) {rest : List Char} (hr : EndsNumber rest) :
    literal l.negative (l.spelling ++ rest) = .ok (l, rest) := by
  rw [Literal.spelling, List.append_assoc, List.append_assoc]
  exact literal_append h (exponentPart_append h.exponent hr) (exponentSpelling_head l.exponent hr)

/-- A number is read by what its literal stands for. -/
theorem number_spelling {l : Literal} (h : l.WellFormed) {rest : List Char} (hr : EndsNumber rest) :
    number .full l.negative (l.spelling ++ rest) =
      (l.evaluate rest).map fun n => (.number n, rest) := by
  rw [number, literal_spelling h hr]
  change (l.evaluate rest >>= fun n => Except.ok (Value.number n, rest)) = _
  cases l.evaluate rest <;> rfl

theorem skipSpace_cons {c : Char} (h : isSpace c = false) (rest : List Char) :
    skipSpace (c :: rest) = c :: rest := by
  rw [skipSpace, List.dropWhile_cons_of_neg]
  rw [h]
  exact Bool.false_ne_true

theorem isSpace_of_isDigit {c : Char} (h : c.isDigit) : isSpace c = false := by
  by_contra hs
  simp only [Bool.not_eq_false, isSpace, Bool.or_eq_true, decide_eq_true_eq] at hs
  rcases hs with ((rfl | rfl) | rfl) | rfl <;> exact absurd h (by decide)

/-- A value that begins with a digit is a number. -/
theorem valueWith_digit {c : Char} (hc : c.isDigit) (care : Care) (container : Char → Reader Value)
    (rest : List Char) : valueWith care container (c :: rest) = number care false (c :: rest) := by
  have hne : ∀ d : Char, d.isDigit = false → c ≠ d := by
    rintro d hd rfl
    rw [hc] at hd
    cases hd
  rw [valueWith, skipSpace_cons (isSpace_of_isDigit hc)]
  split
  · next heq => cases heq
  · next heq => exact absurd (List.cons.inj heq).1 (hne 'n' rfl)
  · next heq => exact absurd (List.cons.inj heq).1 (hne 't' rfl)
  · next heq => exact absurd (List.cons.inj heq).1 (hne 'f' rfl)
  · next heq => exact absurd (List.cons.inj heq).1 (hne '-' rfl)
  · next heq => exact absurd (List.cons.inj heq).1 (hne '"' rfl)
  · next heq =>
    obtain ⟨rfl, rfl⟩ := List.cons.inj heq
    rw [if_neg (by simp [hne '[' rfl, hne '\x7b' rfl]), if_pos hc]

/-- A literal with its sign. -/
def Literal.signedSpelling (l : Literal) : List Char :=
  (if l.negative then ['-'] else []) ++ l.spelling

/-- A value that begins with the sign or the digits of a literal is a number. -/
theorem valueWith_literal {l : Literal} (h : l.WellFormed) (care : Care) (container : Char → Reader Value)
    (text : List Char) :
    valueWith care container ((if l.negative then ['-'] else []) ++ (l.whole ++ text)) =
      number care l.negative (l.whole ++ text) := by
  cases l.negative with
  | true => rfl
  | false =>
    obtain ⟨hne, hd⟩ := h.whole
    cases hw : l.whole with
    | nil => exact absurd hw hne
    | cons c cs => exact valueWith_digit (hd c (by rw [hw]; exact List.mem_cons_self)) care container _

/-- A written number is read by what its literal stands for, whatever comes of that. -/
theorem valueWith_signedSpelling_eq {l : Literal} (h : l.WellFormed) {rest : List Char}
    (hr : EndsNumber rest) (container : Char → Reader Value) :
    valueWith .full container (l.signedSpelling ++ rest) =
      (l.evaluate rest).map fun n => (.number n, rest) := by
  rw [← number_spelling h hr, Literal.signedSpelling, Literal.spelling, List.append_assoc, List.append_assoc]
  exact valueWith_literal h .full container _

theorem valueWith_signedSpelling {l : Literal} (h : l.WellFormed) {rest : List Char}
    (hr : EndsNumber rest) {n : Number} (he : l.evaluate rest = .ok n)
    (container : Char → Reader Value) :
    valueWith .full container (l.signedSpelling ++ rest) = .ok (.number n, rest) := by
  rw [valueWith_signedSpelling_eq h hr, he]
  rfl

/-! ## Integers -/

theorem Literal.wellFormed_integer (negative : Bool) (n : Nat) :
    Literal.WellFormed ⟨negative, digits n, none, none⟩ where
  whole := .digits n
  lead := head_digits_zero
  fraction := fun _ h => by cases h
  exponent := fun _ h => by cases h

/-- The literal of an integer. -/
def integerLiteral (n : Int) : Literal := ⟨decide (n < 0), digits n.natAbs, none, none⟩

theorem integerText_eq (n : Int) : integerText n = (integerLiteral n).signedSpelling := by
  by_cases h : n < 0 <;>
    simp [integerText, Literal.signedSpelling, Literal.spelling, integerLiteral, fractionSpelling,
      exponentSpelling, h]

theorem evaluate_integerLiteral {n : Int} (h : (Number.integer n).Canonical) (rest : List Char) :
    (integerLiteral n).evaluate rest = .ok (.integer n) := by
  obtain ⟨hlow, hhigh⟩ := h
  have hm : (integerLiteral n).mantissa = n.natAbs := by
    simp [Literal.mantissa, integerLiteral]
  by_cases hneg : n < 0
  · have hsign : (integerLiteral n).negative = true := by simp [integerLiteral, hneg]
    change (if (integerLiteral n).negative = true then _ else _) = _
    rw [if_pos hsign, hm, if_pos (by omega)]
    congr 2
    omega
  · have hsign : (integerLiteral n).negative = false := by simp [integerLiteral, hneg]
    change (if (integerLiteral n).negative = true then _ else _) = _
    rw [if_neg (by rw [hsign]; exact Bool.false_ne_true), hm, if_pos (by omega)]
    congr 2
    omega

/-- An integer of 64 bits reads back. -/
theorem valueWith_integerText {n : Int} (h : (Number.integer n).Canonical) {rest : List Char}
    (hr : EndsNumber rest) (container : Char → Reader Value) :
    valueWith .full container (integerText n ++ rest) = .ok (.number (.integer n), rest) := by
  rw [integerText_eq]
  exact valueWith_signedSpelling (Literal.wellFormed_integer _ _) hr (evaluate_integerLiteral h rest) container

end Dashboards.Json
