/-!
# Decimal digits

* `digits` : a natural number in decimal, without leading zeros;
* `padded` : the same with leading zeros up to some width;
* `digitsValue` : the number that digits stand for.
-/

namespace Dashboards.Text

def digits (n : Nat) : List Char := Nat.toDigits 10 n

/-- The decimal digits, with leading zeros up to the given number of digits. -/
def padded (width n : Nat) : List Char :=
  List.replicate (width - (digits n).length) '0' ++ digits n

def digitsValue (ds : List Char) : Nat := ds.foldl (fun n d => 10 * n + (d.toNat - 48)) 0

end Dashboards.Text
