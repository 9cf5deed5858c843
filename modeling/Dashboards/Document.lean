import Dashboards.Json.Access
import Dashboards.Json.Reader

/-!
# Dashboard documents

A dashboard is described by a JSON object. A document may have any content: what does not have the
shape that is looked for is absent.

* `Flaw` : why data is no usable document, with its wording in `Flaw.message`;
* `parse` : the document of a text;
* `checkRoot` : data that is an object;
* `checkNew` : data that is an object and has a title, as a new dashboard must;
* `title` : the title, or nothing.
-/

namespace Dashboards.Document

open Json

inductive Flaw where
  | notJson (error : Json.Error)
  | rootNotObject
  | dataNotObject
  | titleMissing
  /-- Some of a number of files could not be analyzed. -/
  | unanalyzed (failed total : Nat)
  deriving DecidableEq, Repr

def Flaw.message : Flaw → String
  | .notJson e => "not valid JSON: " ++ e.message
  | .rootNotObject => "document root must be an object"
  | .dataNotObject => "dashboard data must be an object"
  | .titleMissing => "title not found in post data"
  | .unanalyzed failed total =>
    toString failed ++ " of " ++ toString total ++ " files could not be analyzed"

/-- The document that a text holds. -/
def parse (text : String) : Except Flaw Value :=
  match Value.parse text with
  | .error e => .error (.notJson e)
  | .ok v => if v.isObject then .ok v else .error .rootNotObject

/-- Data to be stored must be an object. -/
def checkRoot (data : Value) : Except Flaw Unit :=
  if data.isObject then .ok () else .error .dataNotObject

/-- Data for a new dashboard must be an object with a title that is not null. -/
def checkNew (data : Value) : Except Flaw Unit := do
  checkRoot data
  if ((Lens.ofValue data).key "title").isPresent then .ok () else .error .titleMissing

/-- The title, or an empty one where it is absent or no string. -/
def title (document : Value) : String :=
  ((Lens.ofValue document).key "title").string?.getD ""

end Dashboards.Document
