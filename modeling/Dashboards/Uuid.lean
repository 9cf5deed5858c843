import Dashboards.Text.Digits

/-!
# Random identifiers

* `hexByte` : a byte as two digits;
* `Uuid.ofBytes` : the identifier that sixteen random bytes give, marked as a random one.
-/

namespace Dashboards.Uuid

def hexByte (b : UInt8) : List Char :=
  [Nat.digitChar (b.toNat / 16), Nat.digitChar (b.toNat % 16)]

/-- Four bits tell the version and two the variant, all others are random. -/
def mark (bytes : List UInt8) : List UInt8 :=
  bytes.mapIdx fun i b =>
    if i = 6 then b % 16 + 64 else if i = 8 then b % 64 + 128 else b

/-- The bytes in groups of four, two, two, two and six. -/
def ofBytes (bytes : List UInt8) : String :=
  let digits := (mark bytes).flatMap hexByte
  let group (start length : Nat) : String := String.ofList ((digits.drop start).take length)
  "-".intercalate [group 0 8, group 8 4, group 12 4, group 16 4, group 20 12]

end Dashboards.Uuid
