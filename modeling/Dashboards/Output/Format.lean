/-!
# Output formats

* `Format` : the forms in which results are shown;
* `Format.ofName?`, `Format.title` : the format of a name, and what a format is called in a report;
* `Format.unknownMessage` : what is said of a name that is none.
-/

namespace Dashboards.Output

inductive Format where
  | json
  | table
  deriving DecidableEq, Repr

namespace Format

/-- The format of a name, whether its letters are small or capital. Only letters of ASCII have one
of these letters for their small form. -/
def ofName? (name : String) : Option Format :=
  match name.toLower with
  | "json" => some .json
  | "table" => some .table
  | _ => none

def title : Format → String
  | .json => "Json"
  | .table => "Table"

theorem ofName?_title (f : Format) : ofName? f.title = some f := by
  cases f <;> decide +kernel

def unknownMessage (name : String) : String :=
  "Invalid output format: " ++ name ++ ". Valid options: json, table"

end Format

end Dashboards.Output
