import Dashboards.Proofs.Analytics.Report
import Dashboards.Proofs.Json.Depth
import Dashboards.Proofs.Service.Policy
import Dashboards.Proofs.Service.Requests
import Dashboards.Proofs.Session.Outcome
import Dashboards.Proofs.Store.Contents
import Mathlib

/-!
# Which stored documents can be read

* `Follows.run` : what every request of a program keeps, the whole program keeps;
* `task_brings` : the documents that a call asks to store are those it was given, and objects;
* `Reachable.carries` : so what holds of all that is given holds of all that is stored;
* `Call.Shallow` : the documents of a call are no deeper than texts may be, as those are that were read
  from texts (`Call.Sound.shallow`, `readDocument_shallow`);
* `stored_documents_read_back` : after such calls every stored document can be read, got and updated, and
  no report skips any (`titled_can_be_read`);
* `deep_is_refused` : a deeper document is stored all the same, and then neither got nor updated again
  (`deep_cannot_be_read`);
* `stored_is_not_always_updated` : a lock and a document's depth may stand in the way of an update.
-/

namespace Dashboards.Service

open Json Store

/-! ## What all requests keep -/

theorem Follows.run {α : Type} {asks : List Exchange → Request → Prop} {past : List Exchange} {p : Task α}
    (h : Follows asks past p) {I : Backend → Prop} (hkeeps : ∀ past q b, asks past q → I b → I (b.answer q).2)
    {b : Backend} (hb : I b) : I (p.run Backend.answer b).2 := by
  induction p generalizing past b with
  | done result => exact hb
  | ask q next ih =>
    obtain ⟨hq, hnext⟩ := h
    exact ih _ (hnext _) (hkeeps past q b hq hb)

/-- The documents that a call asks to store have the property, if those it is given have. -/
theorem task_brings {P : String → Prop} {c : Call} (hc : c.Timely)
    (hdata : ∀ data ∈ c.data?, data.isObject → P data.compact) :
    Follows (fun _ q => q.Timely ∧ q.Brings P) [] c.task := by
  cases c with
  | create now freshUuid data user =>
    apply follows_require
    intro _ hcheck
    have hobject := isObject_of_checkNew hcheck
    exact follows_last ⟨⟨hc, hc⟩, hdata data rfl hobject⟩
  | update now uuid data user =>
    apply follows_require
    intro _ hcheck
    have hobject := isObject_of_checkRoot hcheck
    refine follows_withRecord ⟨trivial, trivial⟩ fun record => follows_unlessLocked fun _ => ?_
    apply follows_require
    intro document _
    cases Document.checkRemoval document data with
    | error excess => trivial
    | ok removed =>
      refine follows_ask ⟨hc, hdata data rfl hobject⟩ fun _ found _ => ?_
      cases found <;> trivial
  | delete uuid user =>
    refine follows_withRecord ⟨trivial, trivial⟩ fun record => follows_unlessLocked fun _ => ?_
    refine follows_ask ⟨trivial, trivial⟩ fun _ found _ => ?_
    cases found <;> trivial
  | setLocked uuid locked =>
    refine follows_ask ⟨trivial, trivial⟩ fun _ found _ => ?_
    cases found <;> trivial
  | get uuid =>
    refine follows_withRecord ⟨trivial, trivial⟩ fun record => ?_
    exact follows_require fun _ _ => trivial
  | list => exact follows_last ⟨trivial, trivial⟩
  | report detector => exact follows_last ⟨trivial, trivial⟩
  | metricUsage metrics => exact follows_last ⟨trivial, trivial⟩

/-- What holds of all documents that are given holds of all that are stored. -/
theorem Reachable.carries {allowed : Call → Prop} {P : String → Prop} {b : Backend} (h : Reachable allowed b)
    (hallowed : ∀ c, allowed c → c.Timely ∧ ∀ data ∈ c.data?, data.isObject → P data.compact) : b.Carries P := by
  induction h with
  | fresh hb => exact hb.carries
  | call _ hc ih =>
    obtain ⟨htimely, hdata⟩ := hallowed _ hc
    exact (task_brings htimely hdata).run (fun _ q _ hq hb => hb.answer hq.1 hq.2) ih

/-! ## Documents that are not too deep -/

/-- The text can be read as a document. -/
def Reads (text : String) : Prop := ∃ document, Document.parse text = .ok document

/-- The clock shows a time of the calendar, and no document is deeper than one that is read from a
text. -/
def Call.Shallow (c : Call) : Prop :=
  c.Timely ∧ ∀ data ∈ c.data?, data.isObject → data.Canonical ∧ data.depth ≤ depthLimit

/-- Documents that were read from texts are no deeper than that. -/
theorem Call.Sound.shallow {c : Call} (h : c.Sound) : c.Shallow := by
  refine ⟨h.1, fun data hdata hobject => ?_⟩
  obtain ⟨text, htext⟩ := h.2 data hdata hobject
  obtain ⟨hcanonical, hdepth, -⟩ := document_parse_canonical htext
  exact ⟨hcanonical, hdepth⟩

/-- So are those that commands bring. -/
theorem readDocument_shallow {σ : Type} {answer : (q : Session.Request) → σ → Session.Reply q × σ} {path : String}
    {s s' : σ} {data : Value} (h : Session.answered answer (Session.readDocument path) s = (.ok data, s')) :
    data.isObject ∧ data.Canonical ∧ data.depth ≤ depthLimit := by
  unfold Session.readDocument at h
  rw [Session.answered_bind] at h
  split at h
  · next text s₁ _ =>
    cases hparse : Document.parse text with
    | ok document =>
      rw [hparse] at h
      cases h
      obtain ⟨hcanonical, hdepth, hobject⟩ := document_parse_canonical hparse
      exact ⟨hobject, hcanonical, hdepth⟩
    | error flaw =>
      rw [hparse] at h
      cases h
  · cases h

theorem Reachable.mono {allowed allowed' : Call → Prop} {b : Backend} (h : Reachable allowed b)
    (hallowed : ∀ c, allowed c → allowed' c) : Reachable allowed' b := by
  induction h with
  | fresh hb => exact .fresh hb
  | call _ hc ih => exact ih.call (hallowed _ hc)

theorem Reachable.reads {b : Backend} (h : Reachable Call.Shallow b) : b.Carries Reads := by
  refine h.carries fun c hc => ⟨hc.1, fun data hdata hobject => ?_⟩
  obtain ⟨hcanonical, hdepth⟩ := hc.2 data hdata hobject
  exact (document_parse_compact_iff hcanonical hobject).mpr hdepth

/-- Every document that is stored can be read: its record is got and can be updated as the lock and the
limit on removals allow, all records are listed, and no report skips any of them. -/
theorem stored_documents_read_back {b : Backend} (hb : Reachable Call.Shallow b) :
    (∀ uuid record, b.view uuid = some record →
      ∃ document, Document.parse record.data = .ok document ∧
        ((Call.get uuid).run b).1 = .ok (.ofRecord record document) ∧
        ∀ now data user removed, data.isObject → Admits record user →
          Document.checkRemoval document data = .ok removed →
          ((Call.update now uuid data user).run b).1 = .ok (.ofRecord (updatedRecord record now data user) data)) ∧
    (∃ records, (Call.list.run b).1 = .ok records ∧ ∀ record ∈ records, Reads record.data) ∧
    ∀ detector, ∃ report, ((Call.report detector).run b).1 = .ok report ∧ report.skipped = 0 := by
  have hreads := hb.reads
  have hnamed := hb.named fun _ hc => hc.1
  obtain ⟨records, hlist, hall⟩ := hreads.fetchAll
  refine ⟨fun uuid record hrecord => ?_, ⟨records, list_run hlist, hall⟩, fun detector => ?_⟩
  · obtain ⟨document, hparse⟩ := hreads.view hrecord
    refine ⟨document, hparse, congrArg Prod.fst (get_of_view hrecord hparse), ?_⟩
    intro now data user removed hobject hadmits hremoval
    have huuid : record.uuid = uuid := hnamed uuid record hrecord
    have hstored : b.view (updatedRecord record now data user).uuid = some record := by
      rw [← huuid] at hrecord
      exact hrecord
    have hdone := hreads.update_found hstored rfl
    change ((Service.update now uuid data user).run Backend.answer b).1 = _
    rw [update_admitted hrecord hobject hadmits ⟨document, removed, hparse, hremoval⟩, hdone]
  · refine ⟨_, report_run hlist detector, ?_⟩
    rw [Analytics.Report.skipped_ofRecords, List.countP_eq_zero]
    intro record hrecord
    obtain ⟨document, hparse⟩ := hall record hrecord
    rw [hparse]
    exact Bool.false_ne_true

theorem titledStore_shallow : Reachable Call.Shallow titledStore := titledStore_reachable.mono fun _ h => h.shallow

/-- A dashboard that was stored is got, updated by a user, and counted by a report. -/
theorem titled_can_be_read :
    (∃ dashboard, ((Call.get "u").run titledStore).1 = .ok dashboard) ∧
    (∃ dashboard, ((Call.update .newYear "u" titled (some "x")).run titledStore).1 = .ok dashboard) ∧
    ∃ report, ((Call.report Document.detect).run titledStore).1 = .ok report ∧ report.skipped = 0 := by
  obtain ⟨hviews, -, hreports⟩ := stored_documents_read_back titledStore_shallow
  obtain ⟨document, hparse, hget, hupdate⟩ := hviews "u" _ rfl
  obtain rfl : document = titled := Except.ok.inj (hparse.symm.trans titled_parses)
  exact ⟨⟨_, hget⟩, ⟨_, hupdate .newYear titled (some "x") [] rfl (fun h => by cases h.2) rfl⟩, hreports _⟩

/-! ## Deeper documents -/

/-- No text of a document that is too deep can be read. -/
theorem parse_deep {data : Value} (hdata : data.Canonical) (hobject : data.isObject) (hdeep : depthLimit < data.depth) :
    ∃ flaw, Document.parse data.compact = .error flaw := by
  cases hparse : Document.parse data.compact with
  | error flaw => exact ⟨flaw, rfl⟩
  | ok document =>
    have hshallow := (document_parse_compact_iff hdata hobject).mp ⟨document, hparse⟩
    omega

section Deep

variable {b : Backend} {now : Timestamp} {freshUuid : String} {data : Value} {user : Option String} {d : Dashboard}

/-- A document that is too deep is stored, and from then on its dashboard is neither got nor updated. -/
theorem deep_is_refused (hb : b.view.Named) (hnow : now.isValid) (hdata : data.Canonical)
    (hdeep : depthLimit < data.depth) (h : ((Call.create now freshUuid data user).run b).1 = .ok d)
    (hid : d.id ≤ greatestReadable) :
    ∃ explanation,
      ((Call.get d.uuid).run ((Call.create now freshUuid data user).next b)).1 =
        .error (.invalidDocument explanation) ∧
      ∀ later data' user', data'.isObject →
        ((Call.update later d.uuid data' user').run ((Call.create now freshUuid data user).next b)).1 =
          .error (.invalidDocument explanation) := by
  have heffect := run_effect (c := .create now freshUuid data user) hnow hb
  rw [h] at heffect
  obtain ⟨record, hrecord, rfl, hobject, -, hview | ⟨hlarge, -⟩⟩ := heffect
  · have hfound : ((Call.create now freshUuid data user).next b).view record.uuid = some record := by
      rw [hview, Function.update_self]
    obtain ⟨flaw, hflaw⟩ : ∃ flaw, Document.parse record.data = .error flaw := by
      rw [hrecord]
      exact parse_deep hdata hobject hdeep
    have hopen : record.locked = false := by
      rw [hrecord]
      rfl
    refine ⟨flaw.message, ?_, fun later data' user' hobject' => ?_⟩
    · exact congrArg Prod.fst (get_unreadable hfound hflaw)
    · change ((Service.update later record.uuid data' user').run Backend.answer _).1 = _
      rw [Service.update, run_require, Document.checkRoot, if_pos hobject']
      dsimp only
      rw [run_withRecord_some _ hfound, run_unlessLocked, hopen, Bool.and_false, if_neg Bool.false_ne_true,
        run_require, hflaw]
  · exact absurd hid (not_le.mpr hlarge)

end Deep

/-- An object one level deeper than texts may be. -/
def deep : Value := .object [("a", nested 127), ("title", .string "t"), ("uuid", .string "u")]

theorem canonical_deep : deep.Canonical :=
  ⟨by unfold SortedKeys; decide, canonical_nested 127, trivial, trivial, trivial⟩

theorem depth_deep : deep.depth = 128 := by
  simp [deep, Value.depth, Value.depthOfMembers, depth_nested]

/-- It is stored and listed, but neither got nor replaced by itself, and a report skips it. -/
theorem deep_cannot_be_read :
    deep.Canonical ∧ (∃ d, ((Call.create .newYear "f" deep none).run (.memory .empty)).1 = .ok d ∧ d.uuid = "u") ∧
    ∃ explanation,
      ((Call.get "u").run ((Call.create .newYear "f" deep none).next (.memory .empty))).1 =
        .error (.invalidDocument explanation) ∧
      ((Call.update .newYear "u" deep none).run ((Call.create .newYear "f" deep none).next (.memory .empty))).1 =
        .error (.invalidDocument explanation) ∧
      ∃ report, ((Call.report Document.detect).run
          ((Call.create .newYear "f" deep none).next (.memory .empty))).1 = .ok report ∧ report.skipped = 1 := by
  have hdeep : depthLimit < deep.depth := by
    rw [depth_deep]
    decide
  have hstored : ((Call.create .newYear "f" deep none).run (.memory .empty)).1 =
      .ok (.ofRecord (createdRecord .newYear "f" deep none 1) deep) := rfl
  obtain ⟨explanation, hget, hupdate⟩ := deep_is_refused Backend.Fresh.memory.named Timestamp.newYear_isValid
    canonical_deep hdeep hstored (by decide)
  have hreport : ((Call.report Document.detect).run
      ((Call.create .newYear "f" deep none).next (.memory .empty))).1 =
        .ok (.ofRecords Document.detect [createdRecord .newYear "f" deep none 1]) := rfl
  refine ⟨canonical_deep, ⟨_, hstored, rfl⟩, explanation, hget, hupdate _ _ _ rfl, _, hreport, ?_⟩
  obtain ⟨flaw, hflaw⟩ := parse_deep canonical_deep rfl hdeep
  rw [Analytics.Report.skipped_ofRecords, List.countP_singleton]
  change (if !(Document.parse deep.compact).isOk then 1 else 0) = 1
  rw [hflaw]
  rfl

/-- A store whose dashboard is locked. -/
def lockedStore : Backend := (Call.setLocked "u" true).next titledStore

/-- A user does not update the locked dashboard, not even with the document that it has. And no command
reads a document that is too deep, but where one is stored its dashboard is not got. -/
theorem stored_is_not_always_updated :
    (Reachable Call.Shallow lockedStore ∧ (∃ d, ((Call.get "u").run lockedStore).1 = .ok d ∧ d.document = titled) ∧
      ((Call.update .newYear "u" titled (some "x")).run lockedStore).1 = .error (.locked "u")) ∧
    (∀ (σ : Type) (answer : (q : Session.Request) → σ → Session.Reply q × σ) (path : String) (s s' : σ),
      Session.answered answer (Session.readDocument path) s ≠ (.ok deep, s')) ∧
    (∃ d, ((Call.create .newYear "f" deep none).run (.memory .empty)).1 = .ok d ∧ d.uuid = "u") ∧
    ∃ explanation, ((Call.get "u").run ((Call.create .newYear "f" deep none).next (.memory .empty))).1 =
      .error (.invalidDocument explanation) := by
  obtain ⟨-, hstored, explanation, hget, -⟩ := deep_cannot_be_read
  have hreachable : Reachable Call.Shallow lockedStore := titledStore_shallow.call ⟨trivial, fun _ h => by cases h⟩
  have hlocked : lockedStore.view "u" = some { createdRecord .newYear "u" titled none 1 with locked := true } :=
    rfl
  refine ⟨⟨hreachable, ⟨_, congrArg Prod.fst (get_of_view hlocked titled_parses), rfl⟩, rfl⟩, ?_, hstored,
    explanation, hget⟩
  intro σ answer path s s' hread
  obtain ⟨-, -, hdepth⟩ := readDocument_shallow hread
  rw [depth_deep] at hdepth
  exact absurd hdepth (by decide)

end Dashboards.Service
