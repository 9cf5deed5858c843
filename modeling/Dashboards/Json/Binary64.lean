import Dashboards.Text.Digits

/-!
# Double-precision numbers

A finite number of the interchange format binary64 is `m · 2 ^ q` with `m < 2 ^ 53` and
`-1074 ≤ q ≤ 971`, kept as its bit pattern.

* `Binary64` : the pattern; `significand`, `exponent` : the parts `m` and `q`;
* `roundHalfEven` : a quotient to the nearest natural number, a tie to the even one;
* `ofQuotient?` : the nearest double, `none` beyond the largest one;
* `ofDecimal?` : the double nearest to `digits · 10 ^ exponent`;
* `shortest` : the fewest decimal digits that round back to the number, and their place.
-/

namespace Dashboards.Json

structure Binary64 where
  bits : UInt64
  deriving DecidableEq, Repr, Inhabited

namespace Binary64

/-- The weight of the sign bit, `2 ^ 63`. -/
def signBit : Nat := 0x8000000000000000

/-- The weight of the lowest exponent bit, `2 ^ 52`: there are as many fractions. -/
def hiddenBit : Nat := 0x10000000000000

def isNegative (x : Binary64) : Bool := signBit ≤ x.bits.toNat

/-- The eleven exponent bits. -/
def exponentField (x : Binary64) : Nat := x.bits.toNat / hiddenBit % 2048

def fractionField (x : Binary64) : Nat := x.bits.toNat % hiddenBit

/-- An exponent field of all ones stands for infinities and for what is not a number. -/
def IsFinite (x : Binary64) : Prop := x.exponentField < 2047

instance (x : Binary64) : Decidable x.IsFinite := inferInstanceAs (Decidable (_ < _))

/-- The natural number `m` of `m · 2 ^ q`. -/
def significand (x : Binary64) : Nat :=
  if x.exponentField = 0 then x.fractionField else x.fractionField + hiddenBit

/-- The exponent `q` of `m · 2 ^ q`. -/
def exponent (x : Binary64) : Int :=
  if x.exponentField = 0 then -1074 else (x.exponentField : Int) - 1075

def zero (negative : Bool) : Binary64 := ⟨.ofNat (if negative then signBit else 0)⟩

/-! ## From a quotient or a decimal to the nearest double -/

def roundHalfEven (num den : Nat) : Nat :=
  let q := num / den
  let twice := 2 * (num % den)
  if twice < den then q
  else if den < twice then q + 1
  else if q % 2 = 0 then q
  else q + 1

/-- `num / den · 2 ^ -q`, as a quotient of natural numbers. -/
def scaled (num den : Nat) (q : Int) : Nat × Nat :=
  if q < 0 then (num * Nat.pow 2 q.natAbs, den) else (num, den * Nat.pow 2 q.natAbs)

/-- The exponent `q` that leaves 53 bits before the point of `num / den · 2 ^ -q`, or fewer where
the format has no smaller exponent. -/
def placeOf (num den : Nat) : Int :=
  let q : Int := (Nat.log2 num : Int) - Nat.log2 den - 53
  let (n, d) := scaled num den q
  max (-1074) (if d * (2 * hiddenBit) ≤ n then q + 1 else q)

/-- Bits of `m · 2 ^ q`. A significand that rounding brought to `2 ^ 53` carries into the exponent
field by itself. -/
def ofParts? (negative : Bool) (m : Nat) (q : Int) : Option Binary64 :=
  let magnitude := (q + 1074).toNat * hiddenBit + m
  if magnitude < 2047 * hiddenBit then
    some ⟨.ofNat (if negative then signBit + magnitude else magnitude)⟩
  else none

/-- The double nearest to `num / den`, a tie going to the even significand. -/
def ofQuotient? (negative : Bool) (num den : Nat) : Option Binary64 :=
  if num = 0 then some (zero negative)
  else
    let q := placeOf num den
    let (n, d) := scaled num den q
    ofParts? negative (roundHalfEven n d) q

/-- Decimals of a magnitude from `10 ^ 310` on have no double near them. -/
def overflowPlace : Int := 310

/-- Decimals of a magnitude below `10 ^ -330` are nearest to zero. -/
def underflowPlace : Int := -330

/-- The double nearest to `digits · 10 ^ exponent`, or `none` where that is beyond the largest. -/
def ofDecimal? (negative : Bool) (digits : Nat) (exponent : Int) : Option Binary64 :=
  let place := exponent + (Text.digits digits).length
  if digits = 0 then some (zero negative)
  else if overflowPlace < place then none
  else if place < underflowPlace then some (zero negative)
  else if exponent < 0 then ofQuotient? negative digits (Nat.pow 10 exponent.natAbs)
  else ofQuotient? negative (digits * Nat.pow 10 exponent.natAbs) 1

/-! ## The fewest digits that round back -/

/-- The reals that round to a positive double, as an interval of fractions over one denominator. -/
structure Interval where
  lower : Nat
  value : Nat
  upper : Nat
  den : Nat
  /-- The ends belong to the interval. -/
  closed : Bool

/-- Half a unit on each side, a quarter below where the next smaller double is nearer. The ends
round to the number exactly if its significand is even. -/
def interval (x : Binary64) : Interval :=
  let m := x.significand
  let q := x.exponent
  let below := if x.fractionField = 0 && 1 < x.exponentField then 4 * m - 1 else 4 * m - 2
  let (unit, den) := if q < 2 then (1, Nat.pow 2 (2 - q).natAbs) else (Nat.pow 2 (q - 2).natAbs, 1)
  ⟨below * unit, 4 * m * unit, (4 * m + 2) * unit, den, m % 2 = 0⟩

/-- The exponent `e` with `10 ^ e ≤ num / den < 10 ^ (e + 1)`. -/
def decimalPlace (num den : Nat) : Int :=
  if den ≤ num then (Text.digits (num / den)).length - 1
  else
    let inverse := (den + num - 1) / num
    let steps := if inverse ≤ 1 then 0 else (Text.digits (inverse - 1)).length
    (0 : Int) - steps

/-- `digits · 10 ^ place` lies in the interval. -/
def Interval.holds (i : Interval) (digits : Nat) (place : Int) : Bool :=
  let (point, scale) :=
    if place < 0 then (digits * i.den, Nat.pow 10 place.natAbs)
    else (digits * Nat.pow 10 place.natAbs * i.den, 1)
  if i.closed then i.lower * scale ≤ point && point ≤ i.upper * scale
  else i.lower * scale < point && point < i.upper * scale

/-- The point of the grid of step `10 ^ place` that is in the interval and nearest to its value, if
there is one. -/
def Interval.gridPoint? (i : Interval) (place : Int) : Option Nat :=
  let (num, den) :=
    if place < 0 then (i.value * Nat.pow 10 place.natAbs, i.den)
    else (i.value, i.den * Nat.pow 10 place.natAbs)
  let down := num / den
  let nearest := roundHalfEven num den
  let other := if nearest = down then down + 1 else down
  if i.holds nearest place then some nearest
  else if i.holds other place then some other
  else none

/-- The first grid with a point in the interval, from the coarsest on. -/
def Interval.search (i : Interval) : Nat → Int → Nat × Int
  | 0, place => (0, place)
  | steps + 1, place =>
    match i.gridPoint? place with
    | some digits => (digits, place)
    | none => i.search steps (place - 1)

/-- The fewest digits `d` and their place `p` such that `d · 10 ^ p` rounds to the number's
magnitude; seventeen digits always do. The search begins one place above the leading digit, where
only a number that rounds up to a power of ten has its point. -/
def shortest (x : Binary64) : Nat × Int :=
  let i := x.interval
  i.search 19 (decimalPlace i.value i.den + 1)

end Binary64

end Dashboards.Json
