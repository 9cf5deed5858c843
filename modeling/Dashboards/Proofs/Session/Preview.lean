import Dashboards.Proofs.Service.Interleaving
import Dashboards.Proofs.Service.ReadBack
import Dashboards.Proofs.Session.Outcome
import Dashboards.Proofs.Store.Writing
import Mathlib

/-!
# Previews of updates

Two documents are compared before one of them replaces the other in a store. The comparison asks no
store.

* `checkRemoval_eq`, `RemovalCheck.failure` : an update is refused for what the preview shows;
* `compare_outcome` : the preview shows its check, and fails if that does not pass;
  `display_printed` : without a file to write to it is printed;
* `Backend.Obstructed` : a folder stands where a record would be drafted;
  `answer_update_obstructed`, `answer_update_own` : then it cannot be written, and else it can;
* `update_refused`, `update_allowed` : what an update comes to;
* `preview_predicts_update` : an update succeeds exactly if its preview passes and nothing obstructs
  the record, and both are refused alike (`obstructed_update_fails`).
-/

namespace Dashboards.Output

open Json Document

/-! ## Checks of updates -/

/-- The refusal of an update that does not pass its check. -/
def RemovalCheck.failure (check : RemovalCheck) : Failure :=
  .policyViolation (Excess.message ⟨check.removed⟩)

/-- An update is refused for the identifiers that its preview shows. -/
theorem checkRemoval_eq (old new : Value) :
    checkRemoval old new =
      if (RemovalCheck.ofDocuments old new).allowed then .ok (RemovalCheck.ofDocuments old new).removed
      else .error ⟨(RemovalCheck.ofDocuments old new).removed⟩ := by
  unfold checkRemoval RemovalCheck.ofDocuments checkLimit
  generalize removedIds (widgetIds old) (widgetIds new) = removed
  by_cases hlimit : Document.maxRemoved < removed.length
  · simp only [if_pos hlimit]
    rfl
  · simp only [if_neg hlimit]
    rfl

end Dashboards.Output

namespace Dashboards.Session

open Files (Fault)

/-! ## Comparing two documents -/

section Comparing

open Json Output

variable {old new : Value} {w w' : World}

/-- The check is shown, whether it passes or not, and then decides how the comparison ends. -/
theorem compare_outcome {oldPath newPath oldText newText : String} {target : Target} {w₁ w₂ w₃ : World}
    (hold : Document.parse oldText = .ok old) (hnew : Document.parse newText = .ok new)
    (holdText : outcome (readText oldPath) w = (.ok oldText, w₁))
    (hnewText : outcome (readText newPath) w₁ = (.ok newText, w₂))
    (hshown : outcome (display target (.removal (.ofDocuments old new))) w₂ = (.ok (), w₃)) :
    outcome (compare oldPath newPath target) w =
      (if (RemovalCheck.ofDocuments old new).allowed then .ok ()
        else .error (.ofFailure (RemovalCheck.ofDocuments old new).failure), w₃) := by
  unfold compare
  rw [outcome_bind_ok (outcome_readDocument holdText hold), outcome_bind_ok (outcome_readDocument hnewText hnew),
    outcome_bind_ok hshown, checkRemoval_eq]
  split_ifs <;> rfl

/-- Without a file to write it to, a result is printed. -/
theorem display_printed (format : Format) (result : Result) (w : World) :
    outcome (display ⟨format, none⟩ result) w =
      (.ok (), { w with output := w.output ++ lineText (result.render format) }) := rfl

end Comparing

end Dashboards.Session

namespace Dashboards.Store

open Files (Folder)

/-! ## What stands in the way of a record -/

namespace Directory

variable {folder : Folder} {uuid : String} {record : Record}

/-- A record that is found under its own uuid is written again, if no folder stands in the place of
its draft. -/
theorem modify_own (h : view folder uuid = some record) (root : String) {change : Record → Record}
    (hown : (change record).uuid = uuid) (hfree : ∀ inner, folder.node? (draftName uuid) ≠ some (.folder inner)) :
    ((modify root uuid change).run Folder.answer folder).1 = .ok true := by
  obtain ⟨entries, rfl⟩ := Folder.eq_present_of_target (target_of_view h)
  have hdraft := target_draftName (short_of_view h) hfree
  have hwritten := writeRecord_written root (change record) (.present entries)
  rw [modify_of_some h]
  rw [hwritten.eq_ok (by rw [hown]; exact isKey_of_view h) rfl (by rw [hown]; exact hdraft)
    (by rw [hown]; exact target_of_view h)]
  rfl

/-- Such a folder is all that can keep it from being written. -/
theorem modify_obstructed (h : view folder uuid = some record) (root : String) {change : Record → Record}
    (hown : (change record).uuid = uuid) {inner : Files.Entries}
    (hfolder : folder.node? (draftName uuid) = some (.folder inner)) :
    (modify root uuid change).run Folder.answer folder =
      (.error (.io (Files.join root (draftName uuid)) .isDirectory), folder) := by
  obtain ⟨entries, rfl⟩ := Folder.eq_present_of_target (target_of_view h)
  have hfault : (Folder.present entries).target (draftName uuid) = .error .isDirectory := by
    have hslot := slot_draftName (short_of_view h) entries
    rw [show entries.find? (draftName uuid) = some (.folder inner) from hfolder] at hslot
    simp only [Folder.target, Folder.slot, hslot]
  rw [modify_of_some h, writeRecord_eq root (by rw [hown]; exact isKey_of_view h) rfl, hown, hfault]
  rfl

end Directory

namespace Backend

variable {b : Backend} {uuid : String} {record changed : Record}

/-- A folder stands where the record would be drafted. -/
def Obstructed (uuid : String) : Backend → Prop
  | .memory _ => False
  | .directory _ folder => ∃ inner, folder.node? (Directory.draftName uuid) = some (.folder inner)

theorem answer_update_own (h : b.view uuid = some record) (hown : record.uuid = uuid) (hchanged : changed.uuid = uuid)
    (hfree : ¬b.Obstructed uuid) : (b.answer (.update changed)).1 = .ok true := by
  cases b with
  | memory m =>
    have hfound : m.find? changed.uuid = some record := by
      rw [hchanged]
      exact h
    change Except.ok (m.modify changed.uuid _).1 = _
    simp [Memory.modify, hfound]
  | directory root folder =>
    change ((Directory.modify root changed.uuid _).run Folder.answer folder).1 = _
    rw [hchanged]
    exact Directory.modify_own h root hown fun inner hinner => hfree ⟨inner, hinner⟩

theorem answer_update_obstructed (h : b.view uuid = some record) (hown : record.uuid = uuid)
    (hchanged : changed.uuid = uuid) (hobstructed : b.Obstructed uuid) :
    ∃ root, b.answer (.update changed) = (.error (.io (Files.join root (Directory.draftName uuid)) .isDirectory), b) := by
  cases b with
  | memory m => exact hobstructed.elim
  | directory root folder =>
    obtain ⟨inner, hinner⟩ := hobstructed
    have hown' : (record.withChange changed).uuid = uuid := hown
    refine ⟨root, ?_⟩
    rw [Backend.answer, Directory.handle, Directory.answer, hchanged, Directory.modify_obstructed h root hown' hinner]

end Backend

end Dashboards.Store

namespace Dashboards.Service

open Json Store Output

/-! ## What an update comes to -/

section Updates

variable {b : Backend} {uuid : String} {record : Record} {document new : Value} {user : Option String}

theorem isObject_of_parse {text : String} (h : Document.parse text = .ok new) : new.isObject := by
  unfold Document.parse at h
  split at h
  · cases h
  · split_ifs at h with hobject
    rwa [← Except.ok.inj h]

/-- An update that does not pass its check changes nothing. -/
theorem update_refused (hrecord : b.view uuid = some record) (hadmits : Admits record user)
    (hparse : Document.parse record.data = .ok document) (hobject : new.isObject)
    (hrefused : (RemovalCheck.ofDocuments document new).allowed = false) (now : Timestamp) :
    (Call.update now uuid new user).run b = (.error (RemovalCheck.ofDocuments document new).failure, b) := by
  have hcheck : Document.checkRoot new = .ok () := if_pos hobject
  change (Service.update now uuid new user).run Backend.answer b = _
  rw [Service.update, run_require, hcheck]
  dsimp only
  rw [run_withRecord_some b hrecord, run_unlessLocked, admits_iff.mp hadmits, if_neg Bool.false_ne_true, run_require,
    hparse]
  dsimp only
  rw [checkRemoval_eq, hrefused, if_neg Bool.false_ne_true]
  rfl

/-- An update that passes its check comes to what the store replies. -/
theorem update_allowed (hrecord : b.view uuid = some record) (hadmits : Admits record user)
    (hparse : Document.parse record.data = .ok document) (hobject : new.isObject)
    (hallowed : (RemovalCheck.ofDocuments document new).allowed = true) (now : Timestamp) :
    ((Call.update now uuid new user).run b).1 =
      match (b.answer (.update (updatedRecord record now new user))).1 with
      | .ok true => .ok (.ofRecord (updatedRecord record now new user) new)
      | .ok false => .error (.notFound uuid)
      | .error failure => .error (.store failure) := by
  have hreplaces : Replaces record new :=
    ⟨document, _, hparse, by rw [checkRemoval_eq, hallowed, if_pos rfl]⟩
  exact congrArg Prod.fst (update_admitted hrecord hobject hadmits hreplaces now)

end Updates

/-- For all documents that were read from texts, if one of them is stored under a uuid and no lock stops
the user, then the preview of its update tells what the update comes to. The update succeeds exactly if
its check passes, unless a folder is in the way. The update finds the identifiers that the preview
shows, and both are refused alike, which leaves the store as it is. -/
theorem preview_predicts_update {oldText newText : String} {old new : Value}
    (hold : Document.parse oldText = .ok old) (hnew : Document.parse newText = .ok new)
    {b : Backend} {uuid : String} {record : Record} (hrecord : b.view uuid = some record) (hown : record.uuid = uuid)
    (hdata : record.data = old.compact) {user : Option String} (hadmits : Admits record user) (now : Timestamp) :
    ((∃ d, ((Call.update now uuid new user).run b).1 = .ok d) ↔
      (RemovalCheck.ofDocuments old new).allowed = true ∧ ¬b.Obstructed uuid) ∧
    (∃ stored, Document.parse record.data = .ok stored ∧
      Document.checkRemoval stored new =
        if (RemovalCheck.ofDocuments old new).allowed then .ok (RemovalCheck.ofDocuments old new).removed
        else .error ⟨(RemovalCheck.ofDocuments old new).removed⟩) ∧
    ((RemovalCheck.ofDocuments old new).allowed = false →
      (Call.update now uuid new user).run b = (.error (RemovalCheck.ofDocuments old new).failure, b)) ∧
    (∀ oldPath newPath target w w₁ w₂ w₃,
      Session.outcome (Session.readText oldPath) w = (.ok oldText, w₁) →
      Session.outcome (Session.readText newPath) w₁ = (.ok newText, w₂) →
      Session.outcome (Session.display target (.removal (.ofDocuments old new))) w₂ = (.ok (), w₃) →
      Session.outcome (Session.compare oldPath newPath target) w =
        (if (RemovalCheck.ofDocuments old new).allowed then .ok ()
          else .error (.ofFailure (RemovalCheck.ofDocuments old new).failure), w₃)) ∧
    (∀ format w, Session.outcome (Session.display ⟨format, none⟩ (.removal (.ofDocuments old new))) w =
      (.ok (), { w with
        output := w.output ++ Session.lineText ((Result.removal (.ofDocuments old new)).render format) })) ∧
    (RemovalCheck.ofDocuments old new).failure.exitCode = .invalid ∧
    (Diagnostic.ofFailure (RemovalCheck.ofDocuments old new).failure).exitCode = .invalid := by
  have hparse : Document.parse record.data = .ok old := by
    rw [hdata]
    exact document_parse_compact hold
  have hobject := isObject_of_parse hnew
  have hchanged : (updatedRecord record now new user).uuid = uuid := hown
  refine ⟨?_, ⟨old, hparse, checkRemoval_eq old new⟩, ?_, ?_, ?_, rfl, rfl⟩
  · cases hcheck : (RemovalCheck.ofDocuments old new).allowed with
    | false =>
      rw [update_refused hrecord hadmits hparse hobject hcheck]
      exact iff_of_false (fun h => by obtain ⟨d, hd⟩ := h; cases hd) fun h => Bool.false_ne_true h.1
    | true =>
      rw [update_allowed hrecord hadmits hparse hobject hcheck]
      by_cases hobstructed : b.Obstructed uuid
      · obtain ⟨path, hreply⟩ := Backend.answer_update_obstructed hrecord hown hchanged hobstructed
        rw [hreply]
        exact iff_of_false (fun h => by obtain ⟨d, hd⟩ := h; cases hd) fun h => h.2 hobstructed
      · rw [Backend.answer_update_own hrecord hown hchanged hobstructed]
        exact iff_of_true ⟨_, rfl⟩ ⟨rfl, hobstructed⟩
  · intro hrefused
    exact update_refused hrecord hadmits hparse hobject hrefused now
  · intro oldPath newPath target w w₁ w₂ w₃ holdText hnewText hshown
    exact Session.compare_outcome hold hnew holdText hnewText hshown
  · intro format w
    exact Session.display_printed format _ w

/-- The preview of removing two widgets does not pass, and the update fails with its message. -/
theorem preview_of_two_removals :
    RemovalCheck.ofDocuments charted titled = ⟨["a", "b"], false, 1⟩ ∧
    (Call.update .newYear "u" titled (some "x")).run
        (.memory ⟨1, [updatedRecord titledRecord .newYear charted none]⟩) =
      (.error (.policyViolation "deleting more than one panel is not supported (would remove 2: a, b)"),
        .memory ⟨1, [updatedRecord titledRecord .newYear charted none]⟩) := by
  have hcheck : RemovalCheck.ofDocuments charted titled = ⟨["a", "b"], false, 1⟩ := by rfl
  have hrecord : (Backend.memory ⟨1, [updatedRecord titledRecord .newYear charted none]⟩).view "u" =
      some (updatedRecord titledRecord .newYear charted none) := rfl
  have hadmits : Admits (updatedRecord titledRecord .newYear charted none) (some "x") := fun h => by cases h.2
  obtain ⟨-, -, hrefused, -⟩ :=
    preview_predicts_update charted_parses titled_parses hrecord rfl rfl hadmits .newYear
  refine ⟨hcheck, ?_⟩
  rw [hrefused (by rw [hcheck]), hcheck]
  rfl

/-- A record, and a folder in the place of its draft. -/
def obstructed : Backend := .directory "r" (.present [Directory.fileOf titledRecord, ("u.tmp", .folder [])])

/-- The preview passes, and yet the update fails. -/
theorem obstructed_update_fails :
    obstructed.view "u" = some titledRecord ∧ titledRecord.data = titled.compact ∧
    Document.parse titled.compact = .ok titled ∧ Admits titledRecord none ∧
    (RemovalCheck.ofDocuments titled titled).allowed = true ∧
    ∃ path, ((Call.update .newYear "u" titled none).run obstructed).1 = .error (.store (.io path .isDirectory)) := by
  have hstorable : titledRecord.Storable :=
    ⟨by decide, by decide, Timestamp.newYear_isValid, Timestamp.newYear_isValid⟩
  have hrecord : obstructed.view "u" = some titledRecord := by
    change Directory.view _ "u" = _
    rw [Directory.view_of_isKey (by decide)]
    change Directory.recordOf? (some titledRecord.encode.toUTF8) = _
    exact Directory.recordOf?_encode hstorable
  have hadmits : Admits titledRecord none := fun h => by cases h.1
  refine ⟨hrecord, rfl, titled_parses, hadmits, rfl, ?_⟩
  have hchanged : (updatedRecord titledRecord .newYear titled none).uuid = "u" := rfl
  obtain ⟨root, hreply⟩ := Backend.answer_update_obstructed hrecord rfl hchanged ⟨[], rfl⟩
  refine ⟨Files.join root (Directory.draftName "u"), ?_⟩
  rw [update_allowed hrecord hadmits titled_parses rfl rfl, hreply]

end Dashboards.Service
