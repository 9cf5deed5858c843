import Dashboards.Document.Widget

/-!
# Removing widgets

One update of a dashboard may remove at most one widget.

* `removedIds` : the identifiers that are lost between two lists, each once, in the order of their
  first appearance;
* `maxRemoved` : how many an update may remove;
* `Excess` : more than that, with its wording in `Excess.message`;
* `checkRemoval` : the identifiers that a new document removes from an old one.
-/

namespace Dashboards.Document

open Json

/-- Goes through a list and keeps what is neither in `new` nor was seen before. -/
def lostIds (new : List String) : List String → List String → List String
  | _, [] => []
  | seen, id :: rest =>
    if new.contains id || seen.contains id then lostIds new seen rest
    else id :: lostIds new (id :: seen) rest

/-- What is in `existing` but not in `new`. -/
def removedIds (existing new : List String) : List String := lostIds new [] existing

def maxRemoved : Nat := 1

/-- The identifiers that an update would remove although they are too many. -/
structure Excess where
  removed : List String
  deriving DecidableEq, Repr

def Excess.message (e : Excess) : String :=
  "deleting more than one panel is not supported (would remove " ++ toString e.removed.length ++
    ": " ++ ", ".intercalate e.removed ++ ")"

def checkLimit (removed : List String) : Except Excess Unit :=
  if maxRemoved < removed.length then .error ⟨removed⟩ else .ok ()

/-- The identifiers that are removed where `new` replaces `old`. -/
def checkRemoval (old new : Value) : Except Excess (List String) := do
  let removed := removedIds (widgetIds old) (widgetIds new)
  checkLimit removed
  return removed

end Dashboards.Document
