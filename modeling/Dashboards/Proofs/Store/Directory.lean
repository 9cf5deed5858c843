import Dashboards.Proofs.Files.Folder
import Dashboards.Proofs.Store.Effect
import Dashboards.Store.Directory
import Mathlib

/-!
# Requests to a store in a folder

* `recordOf?` : the record that some bytes hold; `view` : the records of a folder by their uuids;
* `run_step`, `run_withKey`, `run_bind` : one step of a program on a folder;
* `recordName_injective`, `recordName_ne_draftName` : files of different uses have different names;
* `Finds` : a reader that finds what is there (`readRecord_finds`, `fetchOne_finds`); `readAll_run` :
  reading all changes nothing either;
* `writeRecord_run`, `writeRecord_view` : writing a record changes its own file, or no record;
* `modified`, `insert_effect`, `delete_effect` : the requests that write;
* `answer_effect` : every request does what it should, if records carry the names of their files.
-/

namespace Dashboards.Store.Directory

open Files (Folder Fault)

/-! ## Records in files -/

/-- The record that some bytes hold. -/
def recordOf? (content : Option ByteArray) : Option Record :=
  content.bind fun bytes => (Files.textOf bytes).toOption.bind Record.decode?

/-- The records of a folder, each under the uuid that its file is named after. -/
def view (folder : Folder) : View := fun uuid =>
  if isKey uuid then recordOf? (folder.content? (recordName uuid)) else none

theorem recordOf?_toUTF8 (text : String) : recordOf? (some text.toUTF8) = Record.decode? text := by
  rw [recordOf?, Option.bind_some, Files.textOf_toUTF8]
  rfl

theorem recordOf?_encode {r : Record} (h : r.Storable) : recordOf? (some r.encode.toUTF8) = some r := by
  rw [recordOf?_toUTF8, Record.decode?_encode h]

theorem recordOf?_encode_eq_none {r : Record} (h : greatestReadable < r.id) :
    recordOf? (some r.encode.toUTF8) = none := by
  rw [recordOf?_toUTF8, Record.decode?_encode_eq_none h]

theorem storable_of_recordOf? {content : Option ByteArray} {r : Record} (h : recordOf? content = some r) :
    r.Storable := by
  obtain ⟨bytes, -, h⟩ := Option.bind_eq_some_iff.mp h
  obtain ⟨text, -, h⟩ := Option.bind_eq_some_iff.mp h
  exact Record.storable_of_decode? h

theorem view_of_isKey {folder : Folder} {uuid : String} (h : isKey uuid) :
    view folder uuid = recordOf? (folder.content? (recordName uuid)) := if_pos h

theorem isKey_of_view {folder : Folder} {uuid : String} {r : Record} (h : view folder uuid = some r) :
    isKey uuid := by
  by_contra hkey
  rw [view, if_neg hkey] at h
  cases h

theorem storable_of_view {folder : Folder} {uuid : String} {r : Record} (h : view folder uuid = some r) :
    r.Storable := by
  rw [view_of_isKey (isKey_of_view h)] at h
  exact storable_of_recordOf? h

/-! ## Names of files -/

theorem recordName_injective {uuid other : String} (h : recordName uuid = recordName other) : uuid = other := by
  have := congrArg String.toList h
  simp only [recordName, String.toList_append] at this
  exact String.toList_inj.mp (List.append_cancel_right this)

theorem recordName_ne_draftName (uuid other : String) : recordName uuid ≠ draftName other := by
  intro h
  have := congrArg (fun s => s.toList.getLast?) h
  simp [recordName, draftName] at this

/-- Drafts are no records. -/
theorem view_of_frame_draft {folder folder' : Folder} {uuid : String}
    (h : Folder.Frame [draftName uuid] folder folder') : view folder' = view folder := by
  funext other
  rw [view, view, h _ (by simpa using recordName_ne_draftName other uuid)]

/-- Where one record's file differs, one record differs. -/
theorem view_of_frame {folder folder' : Folder} {uuid : String} (hkey : isKey uuid)
    (h : Folder.Frame [draftName uuid, recordName uuid] folder folder') :
    view folder' = Function.update (view folder) uuid (recordOf? (folder'.content? (recordName uuid))) := by
  funext other
  by_cases hne : other = uuid
  · subst hne
    rw [Function.update_self, view_of_isKey hkey]
  · have hname : recordName other ≠ recordName uuid := fun heq => hne (recordName_injective heq)
    rw [Function.update_of_ne hne, view, view, h _ (by simp [hname, recordName_ne_draftName])]

/-! ## Steps -/

section Steps

variable {α β : Type}

theorem run_step (path : String) (q : Files.Request) (reply : Files.Reply q → Except Fault α)
    (next : α → Steps β) (folder : Folder) :
    (step path q reply next).run Folder.answer folder =
      match reply (Folder.answer q folder).1 with
      | .ok a => (next a).run Folder.answer (Folder.answer q folder).2
      | .error fault => (.error (.io path fault), (Folder.answer q folder).2) := by
  rw [step, Program.run_ask]
  cases reply (Folder.answer q folder).1 <;> rfl

theorem run_withKey (uuid : String) (next : Steps α) (folder : Folder) :
    (withKey uuid next).run Folder.answer folder =
      if isKey uuid then next.run Folder.answer folder else (.error (.invalidKey uuid), folder) := by
  rw [withKey]
  split_ifs <;> rfl

theorem run_bind (p : Steps α) (f : Except StoreFailure α → Steps β) (folder : Folder) :
    (p.bind f).run Folder.answer folder =
      (f (p.run Folder.answer folder).1).run Folder.answer (p.run Folder.answer folder).2 :=
  Program.run_bind Folder.answer p f folder

end Steps

variable (root : String)

/-! ## Reading -/

/-- A reader changes nothing, finds what is there and nothing else. -/
structure Finds (p : Steps (Option Record)) (folder : Folder) (record : Option Record) : Prop where
  same : (p.run Folder.answer folder).2 = folder
  sound : ∀ found, (p.run Folder.answer folder).1 = .ok found → found = record
  complete : ∀ r, record = some r → (p.run Folder.answer folder).1 = .ok (some r)

theorem Finds.of_eq {p : Steps (Option Record)} {folder : Folder} {record : Option Record}
    {reply : Except StoreFailure (Option Record)} (h : p.run Folder.answer folder = (reply, folder))
    (hsound : ∀ found, reply = .ok found → found = record)
    (hcomplete : ∀ r, record = some r → reply = .ok (some r)) : Finds p folder record where
  same := by rw [h]
  sound := by rwa [h]
  complete := by rwa [h]

/-- What comes of the text of a file at some path. -/
def textOutcome (path : String) (text : Except Fault (Option String)) : Except StoreFailure (Option Record) :=
  match text with
  | .error fault => .error (.io path fault)
  | .ok none => .ok none
  | .ok (some text) =>
    match Record.decode? text with
    | some record => .ok (some record)
    | none => .error (.corrupt path)

theorem readRecord_run (name : String) (folder : Folder) :
    (readRecord root name).run Folder.answer folder =
      (textOutcome (Files.join root name) (textOf? (Folder.answer (.read name) folder).1), folder) := by
  rw [readRecord, run_step, (Folder.answer_read folder name).1]
  cases textOf? (Folder.answer (.read name) folder).1 with
  | error fault => rfl
  | ok text => cases text <;> rfl

theorem readRecord_finds (name : String) (folder : Folder) :
    Finds (readRecord root name) folder (recordOf? (folder.content? name)) := by
  have hread := (Folder.answer_read folder name).2
  have hrun := readRecord_run root name folder
  cases hreply : (Folder.answer (.read name) folder).1 with
  | error fault =>
    have hnone : folder.content? name = none := by
      cases hc : folder.content? name with
      | none => rfl
      | some content =>
        rw [(hread content).mpr hc] at hreply
        cases hreply
    rw [hreply] at hrun
    rw [hnone]
    refine .of_eq hrun (fun found h => ?_) fun r h => by cases h
    cases fault with
    | notFound => exact (Except.ok.inj h).symm
    | _ => cases h
  | ok bytes =>
    rw [hreply] at hrun
    rw [(hread bytes).mp hreply, recordOf?, Option.bind_some]
    rw [textOf?] at hrun
    cases htext : Files.textOf bytes with
    | error fault =>
      rw [htext] at hrun
      exact .of_eq hrun (fun _ h => by cases h) fun _ h => by cases h
    | ok text =>
      rw [htext] at hrun
      change Finds (readRecord root name) folder (Record.decode? text)
      cases hdecode : Record.decode? text with
      | none =>
        simp only [Except.map, textOutcome, hdecode] at hrun
        exact .of_eq hrun (fun _ h => by cases h) fun _ h => by cases h
      | some record =>
        simp only [Except.map, textOutcome, hdecode] at hrun
        exact .of_eq hrun (fun found h => (Except.ok.inj h).symm) fun r h => by rw [h]

theorem fetchOne_finds (uuid : String) (folder : Folder) :
    Finds (fetchOne root uuid) folder (view folder uuid) := by
  have hrun := run_withKey uuid (readRecord root (recordName uuid)) folder
  by_cases hkey : isKey uuid
  · rw [if_pos hkey] at hrun
    obtain ⟨hsame, hsound, hcomplete⟩ := readRecord_finds root (recordName uuid) folder
    rw [← view_of_isKey hkey] at hsound hcomplete
    exact ⟨by rw [fetchOne, hrun, hsame], by rwa [fetchOne, hrun], by rwa [fetchOne, hrun]⟩
  · rw [if_neg hkey] at hrun
    rw [view, if_neg hkey]
    exact .of_eq hrun (fun _ h => by cases h) fun _ h => by cases h

theorem readEach_run (names : List String) (folder : Folder) :
    ((readEach root names).run Folder.answer folder).2 = folder ∧
      ∀ records, ((readEach root names).run Folder.answer folder).1 = .ok records →
        ∀ r ∈ records, r.Storable := by
  induction names with
  | nil =>
    refine ⟨rfl, fun records h r hr => ?_⟩
    obtain rfl := Except.ok.inj h
    cases hr
  | cons name names ih =>
    obtain ⟨hsame, hsound, -⟩ := readRecord_finds root name folder
    rw [readEach, run_bind, hsame]
    cases hfound : ((readRecord root name).run Folder.answer folder).1 with
    | error failure =>
      cases failure with
      | corrupt _ => exact ih
      | _ => exact ⟨rfl, fun _ h => by cases h⟩
    | ok found =>
      dsimp only
      rw [run_bind, ih.1]
      cases hrest : ((readEach root names).run Folder.answer folder).1 with
      | error failure => exact ⟨rfl, fun _ h => by cases h⟩
      | ok rest =>
        refine ⟨rfl, fun records h r hr => ?_⟩
        obtain rfl := Except.ok.inj h
        rcases List.mem_append.mp hr with hr | hr
        · rw [Option.mem_toList, hsound found hfound] at hr
          exact storable_of_recordOf? hr
        · exact ih.2 rest hrest r hr

theorem recordNames_same (folder : Folder) :
    ((recordNames root).run Folder.answer folder).2 = folder := by
  have hlist : (Folder.answer .list folder).2 = folder := by cases folder <;> rfl
  rw [recordNames, run_step, hlist]
  split <;> rfl

theorem insertById_perm (r : Record) (records : List Record) : (insertById r records).Perm (r :: records) := by
  induction records with
  | nil => exact .refl _
  | cons s rest ih =>
    rw [insertById]
    split_ifs
    · exact .refl _
    · exact (ih.cons s).trans (.swap r s rest)

theorem sortById_perm (records : List Record) : (sortById records).Perm records := by
  have hfold : ∀ (rest sorted : List Record),
      (rest.foldl (fun sorted r => insertById r sorted) sorted).Perm (sorted ++ rest) := by
    intro rest
    induction rest with
    | nil =>
      intro sorted
      rw [List.append_nil]
      exact .refl _
    | cons r rest ih =>
      intro sorted
      refine (ih (insertById r sorted)).trans ?_
      exact ((insertById_perm r sorted).append_right rest).trans List.perm_middle.symm
  exact hfold records []

theorem readAll_run (folder : Folder) :
    ((readAll root).run Folder.answer folder).2 = folder ∧
      ∀ records, ((readAll root).run Folder.answer folder).1 = .ok records → ∀ r ∈ records, r.Storable := by
  rw [readAll, run_bind, recordNames_same]
  cases ((recordNames root).run Folder.answer folder).1 with
  | error failure => exact ⟨rfl, fun _ h => by cases h⟩
  | ok names =>
    obtain ⟨hsame, hstorable⟩ := readEach_run root names folder
    dsimp only
    rw [run_bind, hsame]
    cases hread : ((readEach root names).run Folder.answer folder).1 with
    | error failure => exact ⟨rfl, fun _ h => by cases h⟩
    | ok found =>
      refine ⟨rfl, fun records h r hr => ?_⟩
      obtain rfl := Except.ok.inj h
      exact hstorable found hread r ((sortById_perm found).subset hr)

/-- The identifier behind the greatest one is no less than what 64 bits hold. -/
theorem le_greatestId {records : List Record} (h : ∀ r ∈ records, r.Storable) :
    -9223372036854775808 ≤ greatestId records + 1 := by
  rw [greatestId]
  split
  · next r hr =>
    have := (h r (List.mem_of_getLast? hr)).lower
    omega
  · decide

/-! ## Writing -/

/-- A record is written whole to its own file, or to none. -/
theorem writeRecord_run (record : Record) (folder : Folder) :
    (∃ failure folder', (writeRecord root record).run Folder.answer folder = (.error failure, folder') ∧
      Folder.Frame [draftName record.uuid] folder folder') ∨
    ∃ folder', (writeRecord root record).run Folder.answer folder = (.ok (), folder') ∧
      isKey record.uuid ∧
      folder'.content? (recordName record.uuid) = some record.encode.toUTF8 ∧
      Folder.Frame [draftName record.uuid, recordName record.uuid] folder folder' := by
  rw [writeRecord, run_withKey]
  split_ifs with hkey
  · have hmade : Folder.Frame [draftName record.uuid] folder (Folder.answer .make folder).2 :=
      fun name _ => Folder.answer_make folder name
    rw [run_step]
    generalize Folder.answer .make folder = made at hmade
    obtain ⟨outcome, made⟩ := made
    cases outcome with
    | error fault => exact .inl ⟨_, _, rfl, hmade⟩
    | ok _ =>
      dsimp only [id]
      rw [run_step]
      rcases Folder.answer_write made (draftName record.uuid) record.encode.toUTF8 with
        ⟨fault, hwrite⟩ | ⟨hok, hcontent, hframe⟩
      · rw [hwrite]
        exact .inl ⟨_, _, rfl, hmade⟩
      · rw [hok]
        dsimp only [id]
        rw [run_step]
        have hdraft := hmade.trans hframe (List.Subset.refl _)
        generalize (Folder.answer (.write (draftName record.uuid) record.encode.toUTF8) made).2 = drafted
          at hcontent hdraft
        rcases Folder.answer_rename drafted (recordName_ne_draftName record.uuid record.uuid) with
          ⟨fault, hrename⟩ | ⟨hok, hrenamed, hframe⟩
        · rw [hrename]
          exact .inl ⟨_, _, rfl, hdraft⟩
        · rw [hok]
          refine .inr ⟨_, rfl, hkey, ?_, hdraft.trans hframe (by simp)⟩
          rw [hrenamed, hcontent]
  · exact .inl ⟨_, _, rfl, Folder.Frame.refl _ _⟩

/-- A written record is found again, if it can be read at all. -/
theorem writeRecord_view (record : Record) (folder : Folder) :
    (∃ failure folder', (writeRecord root record).run Folder.answer folder = (.error failure, folder') ∧
      view folder' = view folder) ∨
    ∃ folder', (writeRecord root record).run Folder.answer folder = (.ok (), folder') ∧
      view folder' =
        Function.update (view folder) record.uuid (recordOf? (some record.encode.toUTF8)) := by
  rcases writeRecord_run root record folder with ⟨failure, folder', hrun, hframe⟩ | ⟨folder', hrun, hkey, hcontent, hframe⟩
  · exact .inl ⟨failure, folder', hrun, view_of_frame_draft hframe⟩
  · refine .inr ⟨folder', hrun, ?_⟩
    rw [view_of_frame hkey hframe, hcontent]

/-- What a changed record must keep to be found again. -/
structure Keeps (change : Record → Record) : Prop where
  uuid : ∀ r, (change r).uuid = r.uuid
  storable : ∀ r, r.Storable → (change r).Storable

theorem keeps_withLock (locked : Bool) : Keeps (·.withLock locked) :=
  ⟨fun _ => rfl, fun _ h => ⟨h.lower, h.upper, h.createdAt, h.updatedAt⟩⟩

theorem keeps_withChange {change : Record} (h : change.updatedAt.isValid) : Keeps (·.withChange change) :=
  ⟨fun _ => rfl, fun _ hr => ⟨hr.lower, hr.upper, hr.createdAt, h⟩⟩

theorem modified {folder : Folder} {uuid : String}
    (hown : ∀ record, view folder uuid = some record → record.uuid = uuid) {change : Record → Record}
    (hkeeps : Keeps change) :
    Modified uuid change ((modify root uuid change).run Folder.answer folder).1 (view folder)
      (view ((modify root uuid change).run Folder.answer folder).2) := by
  obtain ⟨hsame, hsound, hcomplete⟩ := fetchOne_finds root uuid folder
  rw [modify, run_bind, hsame]
  cases hreply : ((fetchOne root uuid).run Folder.answer folder).1 with
  | error failure => exact rfl
  | ok found =>
    have hfound := hsound found hreply
    cases found with
    | none => exact ⟨hfound.symm, rfl⟩
    | some record =>
      have huuid : (change record).uuid = uuid := by rw [hkeeps.uuid, hown record hfound.symm]
      have hstorable := hkeeps.storable record (storable_of_view hfound.symm)
      dsimp only
      rw [run_bind]
      rcases writeRecord_view root (change record) folder with ⟨failure, folder', hrun, hview⟩ | ⟨folder', hrun, hview⟩
      · rw [hrun]
        exact hview
      · rw [hrun]
        refine ⟨record, hfound.symm, ?_⟩
        rw [huuid, recordOf?_encode hstorable] at hview
        exact hview

theorem insert_effect {record : Record} (hvalid : (Request.insert record).Timely) (folder : Folder) :
    Effect (.insert record) ((insert root record).run Folder.answer folder).1 (view folder)
      (view ((insert root record).run Folder.answer folder).2) := by
  rw [insert, run_withKey]
  split_ifs with hkey
  · obtain ⟨hsame, hprobe⟩ := Folder.answer_probe folder (recordName record.uuid)
    rw [run_step, hsame]
    cases hreply : (Folder.answer (.probe (recordName record.uuid)) folder).1 with
    | error fault => exact rfl
    | ok taken =>
      cases taken with
      | true => exact rfl
      | false =>
        have hfree : view folder record.uuid = none := by
          rw [view_of_isKey hkey, hprobe hreply]
          rfl
        dsimp only [id]
        obtain ⟨hread, hstorable⟩ := readAll_run root folder
        rw [if_neg Bool.false_ne_true, run_bind, hread]
        cases hrecords : ((readAll root).run Folder.answer folder).1 with
        | error failure => exact rfl
        | ok records =>
          have hlower := le_greatestId (hstorable records hrecords)
          dsimp only
          rw [run_bind]
          generalize greatestId records + 1 = id at hlower
          rcases writeRecord_view root { record with id } folder with
            ⟨failure, folder', hrun, hview⟩ | ⟨folder', hrun, hview⟩
          · rw [hrun]
            exact hview
          · rw [hrun]
            refine ⟨hfree, ?_⟩
            change view folder' = Function.update (view folder) record.uuid _ at hview
            rcases le_or_gt id greatestReadable with hid | hid
            · have hstored : Record.Storable { record with id } := ⟨hlower, hid, hvalid.1, hvalid.2⟩
              rw [recordOf?_encode hstored] at hview
              exact .inl hview
            · have hunread : recordOf? (some (Record.encode { record with id }).toUTF8) = none :=
                recordOf?_encode_eq_none hid
              rw [hunread, ← hfree, Function.update_eq_self] at hview
              exact .inr ⟨hid, hview⟩
  · exact rfl

theorem delete_effect (uuid : String) (folder : Folder) :
    Effect (.delete uuid) ((delete root uuid).run Folder.answer folder).1 (view folder)
      (view ((delete root uuid).run Folder.answer folder).2) := by
  rw [delete, run_withKey]
  split_ifs with hkey
  · rw [run_step]
    rcases Folder.answer_remove folder (recordName uuid) with ⟨fault, hremove, hmissing⟩ | ⟨hok, hgone, hframe⟩
    · rw [hremove]
      cases fault with
      | notFound =>
        refine ⟨?_, rfl⟩
        rw [view_of_isKey hkey, hmissing rfl]
        rfl
      | _ => exact rfl
    · rw [hok]
      change view (Folder.answer (.remove (recordName uuid)) folder).2 = _
      rw [view_of_frame hkey (fun name hname => hframe name fun hmem => hname (List.mem_cons_of_mem _ hmem)), hgone]
      rfl
  · exact rfl

/-- Every request does what it should, if records carry the names of their files. -/
theorem answer_effect {q : Request} (hvalid : q.Timely) {folder : Folder} (hnamed : (view folder).Named) :
    Effect q (handle root q folder).1 (view folder) (view (handle root q folder).2) := by
  cases q with
  | fetchAll => exact congrArg view (readAll_run root folder).1
  | fetchOne uuid =>
    obtain ⟨hsame, hsound, hcomplete⟩ := fetchOne_finds root uuid folder
    exact ⟨congrArg view hsame, hsound, hcomplete⟩
  | insert record => exact insert_effect root hvalid folder
  | update record => exact modified root (hnamed record.uuid) (keeps_withChange hvalid)
  | delete uuid => exact delete_effect root uuid folder
  | setLocked uuid locked => exact modified root (hnamed uuid) (keeps_withLock locked)

end Dashboards.Store.Directory
