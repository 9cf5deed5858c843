import Dashboards.Json.Binary64

/-!
# JSON values

* `Number` : an integer or a double;
* `Value` : a JSON value, the members of an object in the order in which they are written;
* `insertMember` : a member put at the place of its key among sorted members, replacing one of the
  same key;
* `Value.ofMembers` : the object of a list of members, sorted by key, the last of equal keys kept;
* `Value.depth` : how many arrays and objects are open at the deepest point;
* `SortedKeys`, `Value.Canonical` : what reading a text produces: keys strictly ascending in every
  object, integers of 64 bits, finite doubles.
-/

namespace Dashboards.Json

inductive Number where
  | integer (n : Int)
  | float (x : Binary64)
  deriving DecidableEq, Repr, Inhabited

/-- Integers with or without sign of 64 bits; doubles that are finite. -/
def Number.Canonical : Number → Prop
  | .integer n => -9223372036854775808 ≤ n ∧ n ≤ 18446744073709551615
  | .float x => x.IsFinite

inductive Value where
  | null
  | bool (b : Bool)
  | number (n : Number)
  | string (s : String)
  | array (items : List Value)
  | object (members : List (String × Value))
  deriving Repr, Inhabited

/-! ## Members of an object -/

/-- The value of the first member with the given key. -/
def lookup (key : String) : List (String × α) → Option α
  | [] => none
  | (k, v) :: rest => if k = key then some v else lookup key rest

/-- Members sorted by key stay sorted; a member of the same key is replaced. -/
def insertMember (key : String) (value : α) : List (String × α) → List (String × α)
  | [] => [(key, value)]
  | (k, v) :: rest =>
    if key < k then (key, value) :: (k, v) :: rest
    else if k = key then (key, value) :: rest
    else (k, v) :: insertMember key value rest

/-- Keys strictly ascending. -/
def SortedKeys (members : List (String × α)) : Prop :=
  members.Pairwise fun a b => a.1 < b.1

namespace Value

/-- The object with these members: keys ascend, and of equal keys the last one counts. -/
def ofMembers (members : List (String × Value)) : Value :=
  .object (members.foldl (fun sorted (k, v) => insertMember k v sorted) [])

def ofOption (f : α → Value) : Option α → Value
  | none => .null
  | some a => f a

def ofNat (n : Nat) : Value := .number (.integer n)

def isNull : Value → Bool
  | .null => true
  | _ => false

def isObject : Value → Bool
  | .object _ => true
  | _ => false

/-! ## Depth -/

mutual

/-- The number of nested arrays and objects. -/
def depth : Value → Nat
  | .array items => depthOfItems items + 1
  | .object members => depthOfMembers members + 1
  | _ => 0

def depthOfItems : List Value → Nat
  | [] => 0
  | v :: rest => max v.depth (depthOfItems rest)

def depthOfMembers : List (String × Value) → Nat
  | [] => 0
  | (_, v) :: rest => max v.depth (depthOfMembers rest)

end

/-! ## Canonical values -/

mutual

/-- Keys ascend strictly in every object, and every number is canonical. -/
def Canonical : Value → Prop
  | .number n => n.Canonical
  | .array items => CanonicalItems items
  | .object members => SortedKeys members ∧ CanonicalMembers members
  | _ => True

def CanonicalItems : List Value → Prop
  | [] => True
  | v :: rest => v.Canonical ∧ CanonicalItems rest

def CanonicalMembers : List (String × Value) → Prop
  | [] => True
  | (_, v) :: rest => v.Canonical ∧ CanonicalMembers rest

end

end Value

end Dashboards.Json
