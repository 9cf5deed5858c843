import Dashboards.Proofs.Record.ObjectText
import Dashboards.Proofs.Store.Listing
import Mathlib

/-!
# Files that hold a record

* `ReadAs` : what comes of reading a file of some text, wherever it stands;
* `envelopes_decode` : a text that describes a record is read as that record, and one with a name too
  many or too few is reported as corrupt (`shuffled_decodes`).
-/

namespace Dashboards.Store.Directory

open Files (Folder)
open Json Record

/-- A file of this text is read so, wherever it stands. -/
def ReadAs (text : String) (outcome : String → Except StoreFailure (Option Record)) : Prop :=
  ∀ root name folder, folder.content? name = some text.toUTF8 →
    (readRecord root name).run Folder.answer folder = (outcome (Files.join root name), folder)

theorem readAs_of_decode? {text : String} {record : Record} (h : decode? text = some record) :
    ReadAs text fun _ => .ok (some record) := by
  intro root name folder hcontent
  rw [readRecord_text ⟨_, text, hcontent, Files.textOf_toUTF8 text⟩, hcontent, recordOf?_toUTF8, h]

theorem readAs_corrupt {text : String} (h : decode? text = none) : ReadAs text fun path => .error (.corrupt path) := by
  intro root name folder hcontent
  rw [readRecord_text ⟨_, text, hcontent, Files.textOf_toUTF8 text⟩, hcontent, recordOf?_toUTF8, h]

/-- What is written of a record is read as that record, and so is every text that describes it: its
members in any order and any spelling, others of any other names between them, and four of them left
out where they are the defaults. A text that has two members under one of the names of a record, or
none under one that must be there, is reported as corrupt. -/
theorem envelopes_decode {record : Record} (hrecord : record.Storable) :
    ReadAs record.encode (fun _ => .ok (some record)) ∧
    (∀ o : ObjectText, Describes o.members record → ReadAs o.text fun _ => .ok (some record)) ∧
    ∀ o : ObjectText,
      (∃ name ∈ fieldNames, 1 < occurrences name o.members) ∨ (∃ name ∈ requiredNames, occurrences name o.members = 0) →
      ReadAs o.text fun path => .error (.corrupt path) := by
  have hdescribed : ∀ o : ObjectText, Describes o.members record → ReadAs o.text fun _ => .ok (some record) :=
    fun o ho => readAs_of_decode? (decode?_of_describes hrecord ho)
  refine ⟨?_, hdescribed, ?_⟩
  · obtain ⟨o, htext, ho⟩ := encode_describes hrecord
    rw [← htext]
    exact hdescribed o ho
  · rintro o (⟨name, hname, hrepeated⟩ | ⟨name, hname, hmissing⟩)
    · exact readAs_corrupt (decode?_of_repeated hname hrepeated)
    · exact readAs_corrupt (decode?_of_missing hname hmissing)

/-- Members of a record in another order, its uuid escaped, two of another name among them. -/
def shuffled : List (Entry Spelling) :=
  [writtenEntry "data" (.string (piecesOf "t")) [], writtenEntry "more" (.array [] [⟨[.tab], .null, []⟩]) [],
    writtenEntry "uuid" (.string [.code (.ofNat 0x75)]) [.space],
    writtenEntry "more" (.string [.code (.ofNat 0xd800)]) [],
    writtenEntry "updated_at" (.string (piecesOf Timestamp.newYear.text)) [],
    writtenEntry "created_at" (.string (piecesOf Timestamp.newYear.text)) []]

theorem shuffled_describes : Describes shuffled someRecord where
  named := by
    simp [shuffled, nameOf?_writtenEntry]
  spelled := by
    have huuid : Spells (.string [.code (.ofNat 0x75)]) (.string "u") := .string rfl
    simpa [shuffled, toMembers, nameOf?_writtenEntry, value_writtenEntry] using
      ⟨huuid, spells_piecesOf _, spells_piecesOf _, spells_piecesOf _⟩
  once := by
    simp [shuffled, occurrences, nameOf?_writtenEntry, fieldNames]
  complete := by
    have hdefaults : someRecord.id = 0 ∧ Record.optional someRecord.createdBy = .null ∧
        Record.optional someRecord.updatedBy = .null ∧ someRecord.locked = false := ⟨rfl, rfl, rfl, rfl⟩
    simpa [shuffled, occurrences, toMembers, nameOf?_writtenEntry, defaults] using hdefaults

/-- The text of these members is read as the record. With the uuid a second time, or without the data,
it is reported as corrupt. -/
theorem shuffled_decodes :
    ReadAs (ObjectText.text ⟨[], [], shuffled, [.lineFeed]⟩) (fun _ => .ok (some someRecord)) ∧
    ReadAs (ObjectText.text ⟨[], [], writtenEntry "uuid" .null [] :: shuffled, []⟩)
      (fun path => .error (.corrupt path)) ∧
    ReadAs (ObjectText.text ⟨[], [], shuffled.tail, []⟩) fun path => .error (.corrupt path) := by
  obtain ⟨-, hdescribed, hcorrupt⟩ := envelopes_decode someRecord_storable
  refine ⟨hdescribed _ shuffled_describes, hcorrupt _ (.inl ⟨"uuid", by decide, ?_⟩),
    hcorrupt _ (.inr ⟨"data", by decide, ?_⟩)⟩
  · simp [occurrences, shuffled, nameOf?_writtenEntry]
  · simp [occurrences, shuffled, nameOf?_writtenEntry]

end Dashboards.Store.Directory
