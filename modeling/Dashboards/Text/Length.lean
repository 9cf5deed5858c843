/-!
# Length in bytes

* `byteLength` : how many bytes a text takes in UTF-8.
-/

namespace Dashboards.Text

def byteLength : List Char → Nat
  | [] => 0
  | c :: text => c.utf8Size + byteLength text

end Dashboards.Text
