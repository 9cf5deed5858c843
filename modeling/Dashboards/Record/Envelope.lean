import Dashboards.Json.Reader
import Dashboards.Json.Writer
import Dashboards.Json.Access
import Dashboards.Record

/-!
# Records as text

On disk a record is a JSON object of eight members, its document again as text inside a string.

* `toJson`, `encode` : the members in their order, written on indented lines;
* `fieldNames` : the names of the members;
* `members?` : the members of an object, those of other names only passed over;
* `ofMembers?` : the record of such members, of which four may be left out;
* `ofItems?` : the record of an array of exactly the eight values;
* `decode?` : the record that a text holds.
-/

namespace Dashboards.Record

open Json

/-! ## Writing -/

def optional (s : Option String) : Value := .ofOption .string s

/-- The members of the object that stands for a record, in their order. -/
def toMembers (r : Record) : List (String × Value) :=
  [("id", .number (.integer r.id)), ("uuid", .string r.uuid),
    ("created_at", .string r.createdAt.text), ("created_by", optional r.createdBy),
    ("updated_at", .string r.updatedAt.text), ("updated_by", optional r.updatedBy),
    ("isLocked", .bool r.locked), ("data", .string r.data)]

def toJson (r : Record) : Value := .object r.toMembers

def encode (r : Record) : String := r.toJson.pretty

/-! ## Reading -/

def fieldNames : List String :=
  ["id", "uuid", "created_at", "created_by", "updated_at", "updated_by", "isLocked", "data"]

/-- An integer of 64 bits with sign. -/
def idOf? : Value → Option Int
  | .number (.integer n) =>
    if -9223372036854775808 ≤ n ∧ n ≤ 9223372036854775807 then some n else none
  | _ => none

def userOf? : Value → Option (Option String)
  | .null => some none
  | .string s => some (some s)
  | _ => none

def lockOf? : Value → Option Bool
  | .bool b => some b
  | _ => none

def timeOf? (v : Value) : Option Timestamp := v.asString?.bind Timestamp.parse?

/-- The member of a name, or a default where it is absent. -/
def fieldOr (decode? : Value → Option α) (default : α) (name : String)
    (members : List (String × Value)) : Option α :=
  match lookup name members with
  | some v => decode? v
  | none => some default

/-- A member that must be there. -/
def field? (decode? : Value → Option α) (name : String) (members : List (String × Value)) :
    Option α :=
  (lookup name members).bind decode?

/-- Members of other names do not count, not even twice; those of a record come at most once.
Identifier, users and lock may be left out. -/
def ofMembers? (members : List (String × Value)) : Option Record := do
  guard (fieldNames.all fun name => members.countP (·.1 = name) ≤ 1)
  return {
    id := ← fieldOr idOf? 0 "id" members
    uuid := ← field? Value.asString? "uuid" members
    createdAt := ← field? timeOf? "created_at" members
    createdBy := ← fieldOr userOf? none "created_by" members
    updatedAt := ← field? timeOf? "updated_at" members
    updatedBy := ← fieldOr userOf? none "updated_by" members
    locked := ← fieldOr lockOf? false "isLocked" members
    data := ← field? Value.asString? "data" members }

/-- The eight values in the order of the members. -/
def ofItems? (items : List Value) : Option Record :=
  if items.length = fieldNames.length then ofMembers? (fieldNames.zip items) else none

/-- The value of a member: those of a record are scalars, all others are skimmed. -/
def memberValue (limit : Nat) (name : String) : Reader Value :=
  if fieldNames.contains name then value .full 0 else value .skim limit

/-- The record that a text holds: an object with its members, or an array of their values. -/
def decode? (text : String) : Option Record :=
  let cs := text.toList
  match skipSpace cs with
  | '\x7b' :: rest =>
    match objectMembers .full (memberValue rest.length) rest with
    | .ok (members, rest) => if (skipSpace rest).isEmpty then ofMembers? members else none
    | .error _ => none
  | '[' :: rest =>
    match listItems (value .full 0) rest with
    | .ok (items, rest) => if (skipSpace rest).isEmpty then ofItems? items else none
    | .error _ => none
  | _ => none

end Dashboards.Record
