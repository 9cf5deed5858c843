import Dashboards.Proofs.Store.Listing
import Mathlib

/-!
# Folders that a store can rely on

* `Sound` : files of records are text, each record is in its own file, and no two have one identifier;
  other files may stand beside them;
* `Sound.of_change` : what keeps a folder sound where one file of a record differs;
* `Written.nodup` : writing does not use a name twice;
* `Sound.written_error`, `Sound.written_ok`, `Sound.erased` : it stays sound when a record is written or removed;
* `Lists`, `Sound.lists` : all records are listed, once each and in order;
* `Touches`, `Sound.untouched` : a request leaves every other entry as it is;
* `SoundStep`, `Sound.step` : one request; `Along`, `sound_along_runs` : any number of them
  (`mixed_stays_sound`).
-/

namespace Dashboards.Store.Directory

open Files (Folder Fault Entries Node)

variable {root uuid : String} {folder folder' : Folder} {record : Record}

/-- The files of records are text and carry the uuids of their records, whose identifiers differ. -/
structure Sound (folder : Folder) : Prop where
  opened : folder.opened?.isSome
  /-- A name stands for one entry. -/
  names : folder.names.Nodup
  legible : Legible folder
  own : ∀ name ∈ namesIn folder, ∀ r, recordOf? (folder.content? name) = some r → name = recordName r.uuid
  distinct : (recordsIn folder).Pairwise (·.id ≠ ·.id)

/-! ## Names of records -/

theorem nodup_namesIn (h : folder.names.Nodup) : (namesIn folder).Nodup := by
  cases folder with
  | missing => exact .nil
  | blocked fault => exact .nil
  | present entries => exact h.filter _

/-- Different files hold records of different identifiers. -/
theorem Sound.id_ne (h : Sound folder) {name other : String} (hname : name ∈ namesIn folder)
    (hother : other ∈ namesIn folder) (hne : name ≠ other) {r s : Record}
    (hr : recordOf? (folder.content? name) = some r) (hs : recordOf? (folder.content? other) = some s) :
    r.id ≠ s.id := by
  have hpairs := List.pairwise_filterMap.mp h.distinct
  have : Std.Symm fun a b => ∀ r, recordOf? (folder.content? a) = some r →
      ∀ s, recordOf? (folder.content? b) = some s → r.id ≠ s.id := ⟨fun a b hab s hs r hr => (hab r hr s hs).symm⟩
  exact hpairs.forall hname hother hne r hr s hs

/-! ## One file changed -/

/-- A folder stays sound where the file of one uuid goes, or holds text and no record but one of that
uuid and of a new identifier. -/
theorem Sound.of_change (h : Sound folder) (uuid : String) (hopen : folder'.opened?.isSome)
    (hnames : folder'.names.Nodup)
    (hothers : ∀ name, Files.hasExtension "json" name → name ≠ recordName uuid → folder'.node? name = folder.node? name)
    (hself : recordName uuid ∈ namesIn folder' → TextUnder folder' (recordName uuid) ∧
      ∀ r, recordOf? (folder'.content? (recordName uuid)) = some r → r.uuid = uuid ∧
        ∀ name ∈ namesIn folder, name ≠ recordName uuid →
          ∀ s, recordOf? (folder.content? name) = some s → s.id ≠ r.id) :
    Sound folder' := by
  have hbefore : ∀ name ∈ namesIn folder', name ≠ recordName uuid →
      name ∈ namesIn folder ∧ folder'.content? name = folder.content? name := by
    intro name hname hne
    obtain ⟨hjson, hnode⟩ := mem_namesIn_iff.mp hname
    rw [hothers name hjson hne] at hnode
    exact ⟨mem_namesIn_iff.mpr ⟨hjson, hnode⟩, Folder.content?_congr (hothers name hjson hne)⟩
  refine ⟨hopen, hnames, ?_, ?_, ?_⟩
  · intro name hname
    by_cases hne : name = recordName uuid
    · subst hne
      exact (hself hname).1
    · obtain ⟨hmem, hcontent⟩ := hbefore name hname hne
      unfold TextUnder
      rw [hcontent]
      exact h.legible name hmem
  · intro name hname r hr
    by_cases hne : name = recordName uuid
    · subst hne
      rw [((hself hname).2 r hr).1]
    · obtain ⟨hmem, hcontent⟩ := hbefore name hname hne
      rw [hcontent] at hr
      exact h.own name hmem r hr
  · refine List.pairwise_filterMap.mpr ((nodup_namesIn hnames).pairwise_of_forall_ne ?_)
    intro name hname other hother hne r hr s hs
    by_cases hn : name = recordName uuid
    · subst hn
      obtain ⟨hmem, hcontent⟩ := hbefore other hother hne.symm
      rw [hcontent] at hs
      exact (((hself hname).2 r hr).2 other hmem hne.symm s hs).symm
    · obtain ⟨hmem, hcontent⟩ := hbefore name hname hn
      rw [hcontent] at hr
      by_cases ho : other = recordName uuid
      · subst ho
        exact ((hself hother).2 s hs).2 name hmem hn r hr
      · obtain ⟨hmem', hcontent'⟩ := hbefore other hother ho
        rw [hcontent'] at hs
        exact h.id_ne hmem hmem' hne hr hs

/-! ## A record written or removed -/

namespace Written

variable {reply : Except StoreFailure Unit}

theorem nodup (h : Written root record folder reply folder') (hnames : folder.names.Nodup) : folder'.names.Nodup := by
  have hentries : ∀ {entries : Entries}, folder.opened? = some entries → (entries.map (·.1)).Nodup := by
    intro entries hopen
    cases folder with
    | missing =>
      obtain rfl := Option.some.inj hopen
      exact .nil
    | blocked fault => cases hopen
    | present entries =>
      obtain rfl := Option.some.inj hopen
      exact hnames
  cases h with
  | noKey _ => exact hnames
  | noFolder _ => exact hnames
  | noDraft _ hopen _ => exact hentries hopen
  | stuck _ hopen _ => exact Entries.nodup_set (hentries hopen)
  | done _ hopen _ => exact Entries.nodup_set (Entries.nodup_erase (hentries hopen))

end Written

/-- A record that could not be written has left the files of records as they were. -/
theorem Sound.written_error (h : Sound folder) {failure : StoreFailure}
    (hwritten : Written root record folder (.error failure) folder') : Sound folder' := by
  have hsame := fun name (hjson : Files.hasExtension "json" name) => hwritten.node?_of_error hjson
  refine h.of_change record.uuid (hwritten.opened h.opened) (hwritten.nodup h.names)
    (fun name hjson _ => hsame name hjson) fun hmem => ?_
  obtain ⟨hjson, hnode⟩ := mem_namesIn_iff.mp hmem
  have hcontent := Folder.content?_congr (hsame _ hjson)
  rw [hsame _ hjson] at hnode
  have hmem := mem_namesIn_iff.mpr ⟨hjson, hnode⟩
  unfold TextUnder
  rw [hcontent]
  refine ⟨h.legible _ hmem, fun r hr => ⟨?_, ?_⟩⟩
  · exact (recordName_injective (h.own _ hmem r hr)).symm
  · exact fun name hname hne s hs => h.id_ne hname hmem hne hs hr

theorem Sound.written_ok (h : Sound folder) (hwritten : Written root record folder (.ok ()) folder')
    (hstorable : record.Storable)
    (hnew : ∀ name ∈ namesIn folder, name ≠ recordName record.uuid → ∀ s, recordOf? (folder.content? name) = some s →
      s.id ≠ record.id) : Sound folder' := by
  refine h.of_change record.uuid (hwritten.opened h.opened) (hwritten.nodup h.names)
    (fun name hjson hne => hwritten.node?_of_ne (ne_draftName_of_hasExtension hjson _) hne) fun _ => ⟨?_, ?_⟩
  · exact ⟨_, _, hwritten.content?_record, Files.textOf_toUTF8 _⟩
  · intro r hr
    rw [hwritten.content?_record, recordOf?_encode hstorable] at hr
    obtain rfl := Option.some.inj hr
    exact ⟨rfl, hnew⟩

theorem Sound.erased {entries : Entries} (h : Sound (.present entries)) (uuid : String) :
    Sound (.present (entries.erase (recordName uuid))) := by
  refine h.of_change uuid rfl (Entries.nodup_erase h.names)
    (fun name _ hne => Entries.find?_erase_of_ne hne) fun hmem => ?_
  have hnone : (Folder.present (entries.erase (recordName uuid))).node? (recordName uuid) = none :=
    Entries.find?_erase_self
  have hnode := (mem_namesIn_iff.mp hmem).2
  rw [hnone] at hnode
  cases hnode

/-! ## All records -/

/-- All records are listed, each once, by strictly ascending identifier. -/
def Lists (root : String) (folder : Folder) : Prop :=
  ∃ records, handle root .fetchAll folder = (.ok records, folder) ∧ records.Perm (recordsIn folder) ∧
    records.Pairwise (·.id < ·.id)

theorem Sound.lists (h : Sound folder) (root : String) : Lists root folder := by
  have hperm := sortById_perm (recordsIn folder)
  have hdistinct : (sortById (recordsIn folder)).Pairwise (·.id ≠ ·.id) :=
    hperm.symm.pairwise h.distinct fun hne => hne.symm
  refine ⟨_, readAll_legible h.opened h.legible root, hperm, ?_⟩
  exact (sortById_sorted _).imp₂ (fun _ _ hle hne => lt_of_le_of_ne hle hne) hdistinct

/-! ## Requests -/

/-- The record of a sound folder is written anew under its own name. -/
theorem Sound.uuid_of_view (h : Sound folder) (hview : view folder uuid = some record) : record.uuid = uuid := by
  have hkey := isKey_of_view hview
  rw [view_of_isKey hkey] at hview
  obtain ⟨bytes, hbytes, -⟩ := Option.bind_eq_some_iff.mp hview
  exact (recordName_injective (h.own _ (mem_namesIn hkey hbytes) record hview)).symm

theorem Sound.modify (h : Sound folder) (root uuid : String) {change : Record → Record} (hkeeps : Keeps change)
    (hid : ∀ r, (change r).id = r.id) : Sound ((Directory.modify root uuid change).run Folder.answer folder).2 := by
  cases hstored : view folder uuid with
  | none =>
    rw [(modify_of_none hstored root change).1]
    exact h
  | some stored =>
    have hwritten := writeRecord_written root (change stored) folder
    rw [modify_of_some hstored]
    generalize (writeRecord root (change stored)).run Folder.answer folder = outcome at hwritten
    obtain ⟨reply, folder'⟩ := outcome
    cases reply with
    | error failure => exact h.written_error hwritten
    | ok _ =>
      refine h.written_ok hwritten (hkeeps.storable stored (storable_of_view hstored)) ?_
      intro name hname hne s hs
      have hkey := isKey_of_view hstored
      rw [hkeeps.uuid, h.uuid_of_view hstored] at hne
      rw [view_of_isKey hkey] at hstored
      obtain ⟨bytes, hbytes, -⟩ := Option.bind_eq_some_iff.mp hstored
      rw [hid]
      exact h.id_ne hname (mem_namesIn hkey hbytes) hne hs hstored

theorem Sound.insert (h : Sound folder) (root : String) (hrecord : (Request.insert record).Timely)
    (hreadable : ReadableReply (.insert record) ((Directory.insert root record).run Folder.answer folder).1) :
    Sound ((Directory.insert root record).run Folder.answer folder).2 := by
  rcases insert_cases root record folder with ⟨hsame, -⟩ | ⟨records, hrecords, -, hrun⟩
  · rw [hsame]
    exact h
  · have hstorable := (readAll_run root folder).2 records hrecords
    have hwritten := writeRecord_written root { record with id := greatestId records + 1 } folder
    rw [hrun] at hreadable ⊢
    generalize (writeRecord root { record with id := greatestId records + 1 }).run Folder.answer folder = outcome
      at hreadable hwritten
    obtain ⟨reply, folder'⟩ := outcome
    cases reply with
    | error failure => exact h.written_error hwritten
    | ok _ =>
      refine h.written_ok hwritten ⟨le_greatestId hstorable, hreadable, hrecord.1, hrecord.2⟩ ?_
      intro name hname _ s hs
      rw [readAll_legible h.opened h.legible] at hrecords
      obtain rfl := Except.ok.inj hrecords
      have hmem : s ∈ sortById (recordsIn folder) :=
        (sortById_perm _).symm.subset (List.mem_filterMap.mpr ⟨name, hname, hs⟩)
      have hlt := lt_greatestId_of_sorted (sortById_sorted (recordsIn folder)) s hmem
      exact hlt.ne

theorem Sound.delete (h : Sound folder) (root uuid : String) :
    Sound ((Directory.delete root uuid).run Folder.answer folder).2 := by
  rcases delete_cases root uuid folder with ⟨hsame, -⟩ | ⟨entries, rfl, -, hfolder⟩
  · rw [hsame]
    exact h
  · rw [hfolder]
    exact h.erased uuid

theorem Sound.handle (h : Sound folder) (root : String) {q : Request} (hq : q.Timely)
    (hreadable : ReadableReply q (Directory.handle root q folder).1) : Sound (Directory.handle root q folder).2 := by
  cases q with
  | fetchAll =>
    rw [Directory.handle, answer, (readAll_run root folder).1]
    exact h
  | fetchOne uuid =>
    rw [Directory.handle, answer, (fetchOne_finds root uuid folder).same]
    exact h
  | insert record => exact h.insert root hq hreadable
  | update record => exact h.modify root record.uuid (keeps_withChange hq) fun _ => rfl
  | delete uuid => exact h.delete root uuid
  | setLocked uuid locked => exact h.modify root uuid (keeps_withLock locked) fun _ => rfl

/-! ## What a request leaves alone -/

/-- The entries that a request may change. A new record takes a name that is free, a change is made to a
record that can be read, and a file is removed whatever it holds. -/
def Touches (folder : Folder) (name : String) : Request → Prop
  | .fetchAll => False
  | .fetchOne _ => False
  | .insert record => name = draftName record.uuid ∨ name = recordName record.uuid ∧ folder.node? name = none
  | .update record => name = draftName record.uuid ∨ name = recordName record.uuid ∧ (view folder record.uuid).isSome
  | .delete uuid => name = recordName uuid
  | .setLocked uuid _ => name = draftName uuid ∨ name = recordName uuid ∧ (view folder uuid).isSome

theorem Sound.modify_untouched (h : Sound folder) (root : String) (change : Record → Record)
    (hchange : ∀ r, (change r).uuid = r.uuid) {name : String}
    (hname : ¬(name = draftName uuid ∨ name = recordName uuid ∧ (view folder uuid).isSome)) :
    ((Directory.modify root uuid change).run Folder.answer folder).2.node? name = folder.node? name := by
  cases hstored : view folder uuid with
  | none => rw [(modify_of_none hstored root change).1]
  | some stored =>
    rw [hstored] at hname
    have huuid : (change stored).uuid = uuid := by rw [hchange, h.uuid_of_view hstored]
    rw [modify_of_some hstored]
    refine (writeRecord_written root (change stored) folder).node?_of_ne ?_ ?_
    · rw [huuid]
      exact fun hdraft => hname (.inl hdraft)
    · rw [huuid]
      exact fun heq => hname (.inr ⟨heq, rfl⟩)

theorem insert_untouched (root : String) (record : Record) {name : String}
    (hname : ¬Touches folder name (.insert record)) :
    ((Directory.insert root record).run Folder.answer folder).2.node? name = folder.node? name := by
  rcases insert_cases root record folder with ⟨hsame, -⟩ | ⟨records, -, hprobe, hrun⟩
  · rw [hsame]
  · rw [hrun]
    refine (writeRecord_written root { record with id := greatestId records + 1 } folder).node?_of_ne ?_ ?_
    · exact fun hdraft => hname (.inl hdraft)
    · rintro rfl
      exact hname (.inr ⟨rfl, Folder.node?_of_probe hprobe⟩)

theorem delete_untouched (root : String) {name : String} (hname : name ≠ recordName uuid) :
    ((Directory.delete root uuid).run Folder.answer folder).2.node? name = folder.node? name := by
  rcases delete_cases root uuid folder with ⟨hsame, -⟩ | ⟨entries, rfl, -, hfolder⟩
  · rw [hsame]
  · rw [hfolder]
    exact Entries.find?_erase_of_ne hname

theorem Sound.untouched (h : Sound folder) (root : String) {q : Request} {name : String}
    (hname : ¬Touches folder name q) : (Directory.handle root q folder).2.node? name = folder.node? name := by
  rw [Directory.handle]
  cases q with
  | fetchAll => rw [answer, (readAll_run root folder).1]
  | fetchOne uuid => rw [answer, (fetchOne_finds root uuid folder).same]
  | insert record => exact insert_untouched root record hname
  | update record =>
    rw [Touches] at hname
    rw [answer, h.modify_untouched root (·.withChange record) (fun _ => rfl) hname]
  | delete uuid =>
    rw [Touches] at hname
    rw [answer, delete_untouched root hname]
  | setLocked uuid locked =>
    rw [Touches] at hname
    rw [answer, h.modify_untouched root (·.withLock locked) (fun _ => rfl) hname]

/-! ## Runs -/

/-- What one request does to a sound folder. -/
structure SoundStep (root : String) (q : Request) (folder : Folder) : Prop where
  sound : Sound (handle root q folder).2
  untouched : ∀ name, ¬Touches folder name q → (handle root q folder).2.node? name = folder.node? name
  lists : Lists root (handle root q folder).2

/-- Every request of a run, and the folder that it meets, has the property. -/
def Along (root : String) (P : Request → Folder → Prop) : List Request → Folder → Prop
  | [], _ => True
  | q :: requests, folder => P q folder ∧ Along root P requests (handle root q folder).2

/-- However many requests are made, a sound folder stays sound, lists its records in order, and every
entry stays as it is that is not about the record of the request: files that hold no record and files
of other uses among them. -/
theorem sound_along_runs (root : String) {requests : List Request} (h : Sound folder)
    (htimely : ∀ q ∈ requests, q.Timely)
    (hreadable : Along root (fun q folder => ReadableReply q (handle root q folder).1) requests folder) :
    Lists root folder ∧ Along root (SoundStep root) requests folder := by
  refine ⟨h.lists root, ?_⟩
  induction requests generalizing folder with
  | nil => trivial
  | cons q requests ih =>
    have hnext := h.handle root (htimely q List.mem_cons_self) hreadable.1
    refine ⟨⟨hnext, fun name hname => h.untouched root hname, hnext.lists root⟩, ?_⟩
    exact ih hnext (fun q' hq' => htimely q' (List.mem_cons_of_mem q hq')) hreadable.2

theorem sound_mixed : Sound mixed := by
  refine ⟨rfl, ?_, legible_mixed, ?_, ?_⟩
  · show ["x.json", "u.json"].Nodup
    decide
  · rw [namesIn_mixed]
    intro name hname r hr
    rcases List.mem_pair.mp hname with rfl | rfl
    · rw [recordOf?_empty] at hr
      cases hr
    · rw [recordOf?_someRecord] at hr
      obtain rfl := Option.some.inj hr
      rfl
  · rw [recordsIn_mixed]
    exact List.pairwise_singleton _ _

/-- The empty file stays beside the records until it is removed. -/
theorem mixed_stays_sound : Sound mixed ∧ Lists "r" mixed ∧
    Along "r" (SoundStep "r") [.insert { someRecord with uuid := "v" }, .setLocked "u" true, .delete "x"] mixed := by
  have htimely : ∀ q ∈ [Request.insert { someRecord with uuid := "v" }, .setLocked "u" true, .delete "x"],
      q.Timely := by
    decide
  have hfree : Free mixed "v" := ⟨by decide, by decide, rfl, fun _ h => by cases h⟩
  have hreply : (handle "r" (.insert { someRecord with uuid := "v" }) mixed).1 = .ok 1 := by
    rw [handle, answer, hfree.insert_run rfl, readAll_legible rfl legible_mixed, recordsIn_mixed]
    rfl
  refine ⟨sound_mixed, sound_along_runs "r" sound_mixed htimely ⟨?_, trivial, trivial, trivial⟩⟩
  beta_reduce
  rw [hreply]
  show (1 : Int) ≤ greatestReadable
  decide

end Dashboards.Store.Directory
