import Dashboards.Proofs.Service.Call
import Mathlib

/-!
# Reading back what was written

* `Reachable` : the stores that calls lead to, from one that nothing was stored in;
  `Reachable.named` : records are found under their own uuids in all of them;
* `get_of_view`, `get_unreadable` : a record is got whose document can be read, and no other;
* `list_run`, `report_run` : all records are listed, and a report is made of them;
* `get_created`, `get_updated` : what a call returned is got, right after it;
* `written_reads_back` : for every document that was read from a text.
-/

namespace Dashboards.Service

open Json Store

/-- The stores that such calls lead to. -/
inductive Reachable (allowed : Call → Prop) : Backend → Prop where
  | fresh {b : Backend} : b.Fresh → Reachable allowed b
  | call {b : Backend} {c : Call} : Reachable allowed b → allowed c → Reachable allowed (c.next b)

theorem Call.Effect.named {c : Call} {out : Except Failure c.Outcome} {v v' : View} (h : c.Effect out v v')
    (hv : v.Named) : v'.Named := by
  have hsame : v' = v → v'.Named := by
    rintro rfl
    exact hv
  cases out with
  | error failure => cases c <;> exact hsame h
  | ok result =>
    cases c with
    | create now freshUuid data user =>
      obtain ⟨record, -, -, -, -, rfl | ⟨-, rfl⟩⟩ := h
      · exact hv.update fun r hr => by rw [Option.some.inj hr]
      · exact hv
    | update now uuid data user =>
      obtain ⟨record, hrecord, -, -, -, -, rfl⟩ := h
      refine hv.update fun r hr => ?_
      obtain rfl := Option.some.inj hr
      exact hv uuid record hrecord
    | delete uuid user =>
      obtain ⟨record, -, -, rfl⟩ := h
      exact hv.update fun _ hr => by cases hr
    | setLocked uuid locked =>
      obtain ⟨record, hrecord, rfl⟩ := h
      refine hv.update fun r hr => ?_
      obtain rfl := Option.some.inj hr
      exact hv uuid record hrecord
    | _ => exact hsame h

/-- Records are found under their own uuids. -/
theorem Reachable.named {allowed : Call → Prop} {b : Backend} (h : Reachable allowed b)
    (hallowed : ∀ c, allowed c → c.Timely) : b.view.Named := by
  induction h with
  | fresh hb => exact hb.named
  | call _ hc ih => exact (run_effect (hallowed _ hc) ih).named ih

/-- A record whose document can be read is got. -/
theorem get_of_view {b : Backend} {uuid : String} {record : Record} {document : Value}
    (h : b.view uuid = some record) (hparse : Document.parse record.data = .ok document) :
    (Call.get uuid).run b = (.ok (.ofRecord record document), b) := by
  change (Service.get uuid).run Backend.answer b = _
  rw [Service.get, run_withRecord_some b h, run_require, hparse]
  rfl

theorem get_unreadable {b : Backend} {uuid : String} {record : Record} {flaw : Document.Flaw}
    (h : b.view uuid = some record) (hparse : Document.parse record.data = .error flaw) :
    (Call.get uuid).run b = (.error (.invalidDocument flaw.message), b) := by
  change (Service.get uuid).run Backend.answer b = _
  rw [Service.get, run_withRecord_some b h, run_require, hparse]

theorem list_run {b : Backend} {records : List Record} (h : (b.answer .fetchAll).1 = .ok records) :
    (Call.list.run b).1 = .ok records := by
  change ((Service.list).run Backend.answer b).1 = _
  rw [Service.list, run_ask, h]
  rfl

theorem report_run {b : Backend} {records : List Record} (h : (b.answer .fetchAll).1 = .ok records)
    (detector : Document.Detector) :
    ((Call.report detector).run b).1 = .ok (Analytics.Report.ofRecords detector records) := by
  change ((Service.report detector).run Backend.answer b).1 = _
  rw [Service.report, run_ask, h]
  rfl

section Written

variable {b : Backend} {text : String} {v : Value} {now : Timestamp} {user : Option String} {d : Dashboard}

theorem get_created (hb : b.view.Named) (hv : Document.parse text = .ok v) (hnow : now.isValid) {freshUuid : String}
    (h : ((Call.create now freshUuid v user).run b).1 = .ok d) (hid : d.id ≤ greatestReadable) :
    (Call.get d.uuid).run ((Call.create now freshUuid v user).next b) =
        (.ok d, (Call.create now freshUuid v user).next b) ∧ d.document = v := by
  have heffect := run_effect (c := .create now freshUuid v user) hnow hb
  rw [h] at heffect
  obtain ⟨record, hrecord, rfl, -, -, hview | ⟨hlarge, -⟩⟩ := heffect
  · have hfound : ((Call.create now freshUuid v user).next b).view record.uuid = some record := by
      rw [hview, Function.update_self]
    refine ⟨get_of_view hfound ?_, rfl⟩
    rw [hrecord]
    exact document_parse_compact hv
  · exact absurd hid (not_le.mpr hlarge)

theorem get_updated (hb : b.view.Named) (hv : Document.parse text = .ok v) (hnow : now.isValid) {uuid : String}
    (h : ((Call.update now uuid v user).run b).1 = .ok d) :
    (Call.get d.uuid).run ((Call.update now uuid v user).next b) =
        (.ok d, (Call.update now uuid v user).next b) ∧ d.document = v := by
  have heffect := run_effect (c := .update now uuid v user) hnow hb
  rw [h] at heffect
  obtain ⟨record, hrecord, -, -, -, rfl, hview⟩ := heffect
  have huuid : record.uuid = uuid := hb uuid record hrecord
  have hfound : ((Call.update now uuid v user).next b).view record.uuid =
      some (updatedRecord record now v user) := by
    rw [hview, huuid, Function.update_self]
  exact ⟨get_of_view hfound (document_parse_compact hv), rfl⟩

/-- What creating or updating returns is what getting returns right after it, and its document is the
one that was given. -/
theorem written_reads_back (hb : Reachable Call.Timely b) (hv : Document.parse text = .ok v)
    (hnow : now.isValid) (user : Option String) :
    (∀ freshUuid d, ((Call.create now freshUuid v user).run b).1 = .ok d → d.id ≤ greatestReadable →
      (Call.get d.uuid).run ((Call.create now freshUuid v user).next b) =
          (.ok d, (Call.create now freshUuid v user).next b) ∧ d.document = v) ∧
    ∀ uuid d, ((Call.update now uuid v user).run b).1 = .ok d →
      (Call.get d.uuid).run ((Call.update now uuid v user).next b) =
          (.ok d, (Call.update now uuid v user).next b) ∧ d.document = v := by
  have hnamed := hb.named fun _ h => h
  exact ⟨fun freshUuid d h hid => get_created hnamed hv hnow h hid,
    fun uuid d h => get_updated hnamed hv hnow h⟩

end Written

def titled : Value := .object [("title", .string "t")]

/-- A document that is the text of itself. -/
theorem titled_parses : Document.parse titled.compact = .ok titled :=
  document_parse_of_canonical ⟨List.pairwise_singleton _ _, trivial, trivial⟩ (by decide) rfl

theorem titled_reads_back : ∃ d, ((Call.create .newYear "u" titled none).run (.memory .empty)).1 = .ok d ∧
    ((Call.get d.uuid).run ((Call.create .newYear "u" titled none).next (.memory .empty))).1 = .ok d := by
  refine ⟨_, rfl, ?_⟩
  have hback := (written_reads_back (.fresh .memory) titled_parses Timestamp.newYear_isValid none).1 "u" _ rfl
    (by decide)
  exact congrArg Prod.fst hback.1

end Dashboards.Service
