/-!
# Faults of files

What the operating system reports when a step on a file or folder fails.

* `Fault.message` : the report's wording;
* `Fault.kind` : the short name of its kind.
-/

namespace Dashboards.Files

inductive Fault where
  | notFound
  | busy
  | alreadyExists
  | notDirectory
  | isDirectory
  | nameTooLong
  | notText
  | other (message : String)
  deriving DecidableEq, Repr

namespace Fault

def message : Fault → String
  | .notFound => "No such file or directory (os error 2)"
  | .busy => "Device or resource busy (os error 16)"
  | .alreadyExists => "File exists (os error 17)"
  | .notDirectory => "Not a directory (os error 20)"
  | .isDirectory => "Is a directory (os error 21)"
  | .nameTooLong => "File name too long (os error 36)"
  | .notText => "stream did not contain valid UTF-8"
  | .other message => message

def kind : Fault → String
  | .notFound => "entity not found"
  | .busy => "resource busy"
  | .alreadyExists => "entity already exists"
  | .notDirectory => "not a directory"
  | .isDirectory => "is a directory"
  | .nameTooLong => "invalid filename"
  | .notText => "invalid data"
  | .other _ => "other error"

end Fault

/-- The text that a file's bytes encode. -/
def textOf (content : ByteArray) : Except Fault String :=
  match String.fromUTF8? content with
  | some text => .ok text
  | none => .error .notText

theorem textOf_toUTF8 (s : String) : textOf s.toUTF8 = .ok s := by
  have h : s.toUTF8.IsValidUTF8 := s.isValidUTF8
  simp only [textOf, String.fromUTF8?, dif_pos h]
  rfl

end Dashboards.Files
