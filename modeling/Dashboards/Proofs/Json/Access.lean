import Dashboards.Json.Access
import Mathlib

/-!
# Places and members

A place in a value is looked into like the value itself: a step to a key is the member of that key.

* `focus_key_ofValue`, `string?_key_ofValue` : one step from a value;
* `string?_key_key_ofValue`, `items_key_key_ofValue` : two steps.
-/

namespace Dashboards.Json.Lens

theorem focus_key_ofValue (v : Value) (k : String) : ((ofValue v).key k).focus = v.field? k := by
  cases v <;> rfl

theorem string?_key_ofValue (v : Value) (k : String) : ((ofValue v).key k).string? = v.stringField? k := by
  rw [string?, focus_key_ofValue]
  rfl

theorem string?_key_key_ofValue (v : Value) (k k' : String) :
    (((ofValue v).key k).key k').string? = (v.field? k).bind (·.stringField? k') := by
  rw [string?, key, focus_key_ofValue]
  cases v.field? k <;> rfl

theorem items_key_key_ofValue (v : Value) (k k' : String) :
    (((ofValue v).key k).key k').items = (((v.field? k).bind (·.arrayField? k')).getD []).map ofValue := by
  rw [items, array?, key, focus_key_ofValue]
  cases v.field? k <;> rfl

end Dashboards.Json.Lens
