import Dashboards.Json.Value

/-!
# Looking into values

A null counts as absent, and so does a value of another shape than the one that is asked for.

* `field?`, `item?` : a member of an object, an item of an array;
* `asObject?`, `asArray?`, `asString?` : a value as what it is;
* `objectField?`, `arrayField?`, `stringField?` : a member of the given shape;
* `stringMapField?` : a member that is an object of strings;
* `Lens` : a value that may be absent, and steps into it that keep absence.
-/

namespace Dashboards.Json

namespace Value

/-- The value itself, unless it is null. -/
def present? (v : Value) : Option Value := if v.isNull then none else some v

def asObject? : Value → Option (List (String × Value))
  | .object members => some members
  | _ => none

def asArray? : Value → Option (List Value)
  | .array items => some items
  | _ => none

def asString? : Value → Option String
  | .string s => some s
  | _ => none

/-- The value of a key in an object. -/
def field? (v : Value) (key : String) : Option Value := do
  (← lookup key (← v.asObject?)).present?

/-- The item of an array at an index. -/
def item? (v : Value) (index : Nat) : Option Value := do
  (← (← v.asArray?)[index]?).present?

def objectField? (v : Value) (key : String) : Option (List (String × Value)) := do
  (← v.field? key).asObject?

def arrayField? (v : Value) (key : String) : Option (List Value) := do
  (← v.field? key).asArray?

def stringField? (v : Value) (key : String) : Option String := do
  (← v.field? key).asString?

/-- An object whose values are all strings; a single other value makes the whole object absent. -/
def stringMapField? (v : Value) (key : String) : Option (List (String × String)) := do
  (← v.objectField? key).mapM fun (k, v) => v.asString?.map (k, ·)

end Value

/-! ## Lenses -/

/-- A place in a value: what is there, unless that is absent or null. -/
structure Lens where
  focus : Option Value
  deriving Inhabited

namespace Lens

def ofValue (v : Value) : Lens := ⟨v.present?⟩

def absent : Lens := ⟨none⟩

def isPresent (l : Lens) : Bool := l.focus.isSome

def key (l : Lens) (k : String) : Lens := ⟨l.focus.bind (·.field? k)⟩

def index (l : Lens) (i : Nat) : Lens := ⟨l.focus.bind (·.item? i)⟩

def members? (l : Lens) : Option (List (String × Value)) := l.focus.bind (·.asObject?)

def array? (l : Lens) : Option (List Value) := l.focus.bind (·.asArray?)

def string? (l : Lens) : Option String := l.focus.bind (·.asString?)

/-- The items of an array, nulls as absent places; nothing else has items. -/
def items (l : Lens) : List Lens := (l.array?.getD []).map ofValue

end Lens

end Dashboards.Json
