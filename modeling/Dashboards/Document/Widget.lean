import Dashboards.Document

/-!
# Widgets of a document

* `Widget` : an identifier, a title and a query;
* `Widget.ofValue?` : a widget needs a string for its identifier and a query;
* `widgets` : the widgets of a document in its order, all else in their array skipped;
* `widgetIds` : their identifiers.
-/

namespace Dashboards.Document

open Json

structure Widget where
  id : String
  title : Option String
  query : Value

def Widget.ofValue? (v : Value) : Option Widget := do
  let id ← v.stringField? "id"
  let query ← v.field? "query"
  return ⟨id, v.stringField? "title", query⟩

def widgets (document : Value) : List Widget :=
  ((Lens.ofValue document).key "widgets").items.filterMap fun place =>
    place.focus.bind Widget.ofValue?

def widgetIds (document : Value) : List String := (widgets document).map (·.id)

end Dashboards.Document
