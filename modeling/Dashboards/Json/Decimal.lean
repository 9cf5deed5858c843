import Dashboards.Json.Value
import Dashboards.Text.Digits

/-!
# Numbers as text

* `integerText` : an integer in decimal;
* `positional` : digits with a point at a given place, always with a fractional part;
* `scientific` : one digit, the others as its fraction, and an exponent;
* `Binary64.text` : the shortest digits of a double, positional from `10 ^ -5` up to below
  `10 ^ 16` and scientific elsewhere;
* `Number.text` : the text of a number.
-/

namespace Dashboards.Json

open Text (digits)

/-- The sign and the decimal digits of an integer. -/
def integerText (n : Int) : List Char :=
  if n < 0 then '-' :: digits n.natAbs else digits n.natAbs

/-- The digits with the point behind the digit of place `e`, zeros filling the gaps. -/
def positional (ds : List Char) (e : Int) : List Char :=
  if e < 0 then '0' :: '.' :: List.replicate (e.natAbs - 1) '0' ++ ds
  else
    let whole := e.natAbs + 1
    if ds.length ≤ whole then ds ++ List.replicate (whole - ds.length) '0' ++ ['.', '0']
    else ds.take whole ++ '.' :: ds.drop whole

/-- A positive exponent carries its sign too. -/
def scientific (ds : List Char) (e : Int) : List Char :=
  let fraction := if ds.length ≤ 1 then [] else '.' :: ds.drop 1
  ds.take 1 ++ fraction ++ 'e' :: (if e < 0 then '-' else '+') :: digits e.natAbs

/-- The exponents of the leading digit that are written without an exponent. -/
def isPositional (e : Int) : Bool := -5 ≤ e && e < 16

namespace Binary64

/-- The text of the magnitude. -/
def magnitudeText (x : Binary64) : List Char :=
  if x.significand = 0 then ['0', '.', '0']
  else
    let (d, place) := x.shortest
    let ds := digits d
    let e := place + ds.length - 1
    if isPositional e then positional ds e else scientific ds e

def text (x : Binary64) : List Char :=
  if x.isNegative then '-' :: x.magnitudeText else x.magnitudeText

end Binary64

def Number.text : Number → List Char
  | .integer n => integerText n
  | .float x => x.text

end Dashboards.Json
