import Dashboards.Proofs.Store.Agreement
import Dashboards.Proofs.Store.Listing
import Dashboards.Proofs.Store.Writing
import Mathlib

/-!
# Requests that are cut off

* `CutOff` : what a program may leave of a folder when it is stopped between two steps, or while it
  writes a file;
* `recordFiles` : the files that may be those of records; `Quiet` : steps that leave them alone;
* `Commits` : only the last step changes them (`answer_commits`), so they are as before or as after
  (`Commits.cutOff`);
* `Plain` : a folder of files only; `Left` : what requests have left of an empty folder, each of them
  complete or cut off (`Left.plain`);
* `SameRecords` : plain folders with the same files of records; `SameRecords.handle` : they reply alike
  and stay so; `SameRecords.exchanges` : to any number of requests;
* `withoutDrafts` : some drafts removed; `never_half_written` : what is left of a request that was cut
  off (`torn_draft_is_harmless`).
-/

namespace Dashboards.Store.Directory

open Files (Folder Fault Entries Node Slot)

variable {α β : Type} {root : String} {folder folder' : Folder}

/-! ## Cut off -/

/-- What a program may leave when it does not run to its end. A file that is being written may hold any
part of the content up to some byte; all other steps happen or do not happen. -/
inductive CutOff : Program Files.Reply α → Folder → Folder → Prop where
  | stopped {p : Program Files.Reply α} {folder : Folder} : CutOff p folder folder
  | torn {name : String} {content : ByteArray} {next : Except Fault Unit → Program Files.Reply α} {folder : Folder}
      (n : Nat) :
      CutOff (.ask (.write name content) next) folder (Folder.answer (.write name (content.extract 0 n)) folder).2
  | further {q : Files.Request} {next : Files.Reply q → Program Files.Reply α} {folder folder' : Folder} :
      CutOff (next (Folder.answer q folder).1) (Folder.answer q folder).2 folder' → CutOff (.ask q next) folder folder'

/-- A program that comes to its end is one that was cut off behind its last step. -/
theorem cutOff_run (p : Program Files.Reply α) (folder : Folder) : CutOff p folder (p.run Folder.answer folder).2 := by
  induction p generalizing folder with
  | done a => exact .stopped
  | ask q next ih => exact .further (ih _ _)

/-! ## Files of records -/

/-- The entries under names that may be those of records. -/
def recordFiles : Folder → Entries
  | .present entries => entries.filter fun e => Files.hasExtension "json" e.1
  | _ => []

/-- A step that leaves the files of records as they are. -/
def Quiet : Files.Request → Prop
  | .write name _ => Files.hasExtension "json" name = false
  | .rename _ _ => False
  | .remove _ => False
  | _ => True

theorem recordFiles_of_opened? {entries : Entries} (h : folder.opened? = some entries) :
    recordFiles folder = recordFiles (.present entries) := by
  cases folder with
  | missing =>
    obtain rfl := Option.some.inj h
    rfl
  | blocked fault => cases h
  | present es =>
    obtain rfl := Option.some.inj h
    rfl

theorem recordFiles_of_quiet {q : Files.Request} (h : Quiet q) (folder : Folder) :
    recordFiles (Folder.answer q folder).2 = recordFiles folder := by
  cases q with
  | write name content =>
    rw [Folder.answer_write_eq]
    split
    · cases folder with
      | present entries => exact Entries.filter_set_of_neg h
      | _ => rfl
    · rfl
  | make => cases folder <;> rfl
  | list => cases folder <;> rfl
  | rename source target => exact h.elim
  | remove name => exact h.elim
  | _ => rfl

/-! ## One change, at the end -/

/-- No step changes files of records. -/
def Reads : Program Files.Reply α → Prop
  | .done _ => True
  | .ask q next => Quiet q ∧ ∀ reply, Reads (next reply)

/-- No step but the last changes files of records, and that one does not write but moves or removes. -/
def Commits : Program Files.Reply α → Prop
  | .done _ => True
  | .ask q next =>
    Quiet q ∧ (∀ reply, Commits (next reply)) ∨
      (∀ name content, q ≠ .write name content) ∧ ∀ reply, ∃ a, next reply = .done a

/-- Cut off at any point, such a program leaves the files of records as they were, or has come to its end. -/
theorem Commits.cutOff {p : Program Files.Reply α} (hp : Commits p) (h : CutOff p folder folder') :
    recordFiles folder' = recordFiles folder ∨ folder' = (p.run Folder.answer folder).2 := by
  induction h with
  | stopped => exact .inl rfl
  | torn n =>
    rcases hp with ⟨hquiet, -⟩ | ⟨hwhole, -⟩
    · left
      apply recordFiles_of_quiet
      exact hquiet
    · exact absurd rfl (hwhole _ _)
  | @further q next folder folder' h ih =>
    rcases hp with ⟨hquiet, hnext⟩ | ⟨-, hlast⟩
    · rw [← recordFiles_of_quiet hquiet folder]
      exact ih (hnext _)
    · obtain ⟨a, ha⟩ := hlast (Folder.answer q folder).1
      rw [ha] at h
      cases h
      right
      rw [Program.run_ask, ha]
      rfl

section Combinators

variable {uuid path : String} {q : Files.Request}

theorem Reads.bind {p : Steps α} {f : Except StoreFailure α → Steps β} (hp : Reads p) (hf : ∀ a, Reads (f a)) :
    Reads (p.bind f) := by
  induction p with
  | done a => exact hf a
  | ask q next ih => exact ⟨hp.1, fun reply => ih reply (hp.2 reply)⟩

theorem Reads.commits {p : Program Files.Reply α} (hp : Reads p) : Commits p := by
  induction p with
  | done a => trivial
  | ask q next ih => exact .inl ⟨hp.1, fun reply => ih reply (hp.2 reply)⟩

theorem Reads.bind_commits {p : Steps α} {f : Except StoreFailure α → Steps β} (hp : Reads p)
    (hf : ∀ a, Commits (f a)) : Commits (p.bind f) := by
  induction p with
  | done a => exact hf a
  | ask q next ih => exact .inl ⟨hp.1, fun reply => ih reply (hp.2 reply)⟩

/-- A result may be made of what a program ends in. -/
theorem Commits.map {p : Steps α} (hp : Commits p) (f : Except StoreFailure α → Except StoreFailure β) :
    Commits (p.bind fun a => .done (f a)) := by
  induction p with
  | done a => trivial
  | ask q next ih =>
    rcases hp with ⟨hquiet, hnext⟩ | ⟨hwhole, hlast⟩
    · exact .inl ⟨hquiet, fun reply => ih reply (hnext reply)⟩
    · refine .inr ⟨hwhole, fun reply => ?_⟩
      obtain ⟨a, ha⟩ := hlast reply
      refine ⟨f a, ?_⟩
      beta_reduce
      rw [ha]
      rfl

theorem reads_step (hq : Quiet q) (reply : Files.Reply q → Except Fault α) {next : α → Steps β}
    (hnext : ∀ a, Reads (next a)) : Reads (step path q reply next) := by
  refine ⟨hq, fun r => ?_⟩
  beta_reduce
  cases reply r with
  | ok a => exact hnext a
  | error fault => trivial

theorem commits_step (hq : Quiet q) (reply : Files.Reply q → Except Fault α) {next : α → Steps β}
    (hnext : ∀ a, Commits (next a)) : Commits (step path q reply next) := by
  refine .inl ⟨hq, fun r => ?_⟩
  beta_reduce
  cases reply r with
  | ok a => exact hnext a
  | error fault => trivial

theorem commits_last (hq : ∀ name content, q ≠ .write name content) (reply : Files.Reply q → Except Fault α)
    (f : α → Except StoreFailure β) : Commits (step path q reply fun a => .done (f a)) := by
  refine .inr ⟨hq, fun r => ?_⟩
  beta_reduce
  cases reply r with
  | ok a => exact ⟨f a, rfl⟩
  | error fault => exact ⟨.error (.io path fault), rfl⟩

theorem reads_withKey {next : Steps α} (h : Reads next) : Reads (withKey uuid next) := by
  unfold withKey
  split_ifs
  · exact h
  · trivial

theorem commits_withKey {next : Steps α} (h : Commits next) : Commits (withKey uuid next) := by
  unfold withKey
  split_ifs
  · exact h
  · trivial

end Combinators

variable (root)

theorem readRecord_reads (name : String) : Reads (readRecord root name) := by
  refine reads_step (by trivial) _ fun text => ?_
  trivial

theorem readEach_reads (names : List String) : Reads (readEach root names) := by
  induction names with
  | nil => trivial
  | cons name names ih =>
    refine (readRecord_reads root name).bind fun found => ?_
    rcases found with failure | found
    · cases failure with
      | corrupt path => exact ih
      | _ => trivial
    · refine ih.bind fun records => ?_
      cases records <;> trivial

theorem readAll_reads : Reads (readAll root) := by
  have hnames : Reads (recordNames root) := reads_step (by trivial) _ fun _ => trivial
  refine hnames.bind fun names => ?_
  cases names with
  | error failure => trivial
  | ok names =>
    refine (readEach_reads root names).bind fun records => ?_
    cases records <;> trivial

theorem writeRecord_commits (record : Record) : Commits (writeRecord root record) := by
  have hdraft : Quiet (.write (draftName record.uuid) record.encode.toUTF8) := hasExtension_draftName record.uuid
  refine commits_withKey (commits_step (by trivial) _ fun _ => commits_step hdraft _ fun _ => ?_)
  exact commits_last (fun _ _ h => by cases h) _ fun _ => .ok ()

theorem modify_commits (uuid : String) (change : Record → Record) : Commits (modify root uuid change) := by
  refine (reads_withKey (readRecord_reads root (recordName uuid))).bind_commits fun found => ?_
  rcases found with failure | _ | record
  · trivial
  · trivial
  · exact (writeRecord_commits root (change record)).map fun outcome => outcome.map fun () => true

/-- A request changes the files of records by its last step only. -/
theorem answer_commits (q : Request) : Commits (answer root q) := by
  cases q with
  | fetchAll => exact (readAll_reads root).commits
  | fetchOne uuid => exact (reads_withKey (readRecord_reads root (recordName uuid))).commits
  | insert record =>
    refine commits_withKey (commits_step (by trivial) _ fun taken => ?_)
    split_ifs
    · trivial
    · refine (readAll_reads root).bind_commits fun records => ?_
      cases records with
      | error failure => trivial
      | ok records => exact (writeRecord_commits root _).map fun outcome => outcome.map fun () => greatestId records + 1
  | update record => exact modify_commits root record.uuid (·.withChange record)
  | delete uuid => exact commits_withKey (commits_last (fun _ _ h => by cases h) _ fun removed => .ok removed)
  | setLocked uuid locked => exact modify_commits root uuid (·.withLock locked)

/-! ## What requests leave -/

/-- All entries are files. -/
def FilesIn (entries : Entries) : Prop := ∀ e ∈ entries, ∃ content, e.2 = Node.file content

/-- The folder can be made, and only files are in it. -/
def Plain (folder : Folder) : Prop := ∃ entries, folder.opened? = some entries ∧ FilesIn entries

section FilesIn

variable {entries entries' : Entries} {name : String}

theorem FilesIn.set (h : FilesIn entries) (name : String) (content : ByteArray) :
    FilesIn (entries.set name (.file content)) := by
  induction entries with
  | nil => simp [FilesIn, Entries.set]
  | cons entry rest ih =>
    obtain ⟨n, node⟩ := entry
    obtain ⟨hnode, hrest⟩ := List.forall_mem_cons.mp h
    unfold Entries.set
    split_ifs
    · exact List.forall_mem_cons.mpr ⟨⟨content, rfl⟩, hrest⟩
    · exact List.forall_mem_cons.mpr ⟨hnode, ih hrest⟩

theorem FilesIn.filter (h : FilesIn entries) (p : String × Node → Bool) : FilesIn (entries.filter p) :=
  fun e he => h e (List.mem_filter.mp he).1

theorem FilesIn.erase (h : FilesIn entries) (name : String) : FilesIn (entries.erase name) := h.filter _

theorem FilesIn.find? (h : FilesIn entries) (inner : Entries) : entries.find? name ≠ some (.folder inner) := by
  induction entries with
  | nil => simp [Entries.find?]
  | cons entry rest ih =>
    obtain ⟨n, node⟩ := entry
    obtain ⟨⟨content, hnode⟩, hrest⟩ := List.forall_mem_cons.mp h
    unfold Entries.find?
    split_ifs
    · simp [show node = .file content from hnode]
    · exact ih hrest

/-- Among files, whether a file may stand under a name is told by the name. -/
theorem FilesIn.target_eq (h : FilesIn entries) (h' : FilesIn entries') (name : String) :
    (Folder.present entries).target name = (Folder.present entries').target name := by
  have hslot : ∀ {es : Entries}, FilesIn es → (Folder.present es).target name =
      if name = "" || name = "." || name = ".." then .error .isDirectory
      else if Files.nameLimit < name.utf8ByteSize then .error .nameTooLong else .ok () := by
    intro es hes
    simp only [Folder.target, Folder.slot, Entries.slot]
    split_ifs
    · rfl
    · rfl
    · cases hfind : es.find? name with
      | none => rfl
      | some node =>
        cases node with
        | file content => rfl
        | folder inner => exact absurd hfind (hes.find? inner)
  rw [hslot h, hslot h']

end FilesIn

theorem plain_present {entries : Entries} : Plain (.present entries) ↔ FilesIn entries := by
  simp [Plain, Folder.opened?]

/-- Every step leaves files only. -/
theorem Plain.answer (h : Plain folder) (q : Files.Request) : Plain (Folder.answer q folder).2 := by
  obtain ⟨entries, hopen, hfiles⟩ := h
  cases folder with
  | blocked fault => cases hopen
  | missing =>
    have hmade : Plain (.present []) := plain_present.mpr fun e he => absurd he List.not_mem_nil
    cases q with
    | make => exact hmade
    | _ => exact ⟨[], rfl, fun e he => absurd he List.not_mem_nil⟩
  | present es =>
    obtain rfl := Option.some.inj hopen
    cases q with
    | write name content =>
      rw [Folder.answer_write_eq]
      split
      · exact plain_present.mpr (hfiles.set name content)
      · exact plain_present.mpr hfiles
    | rename source target =>
      simp only [Folder.answer]
      split
      all_goals first | exact plain_present.mpr hfiles | exact plain_present.mpr ((hfiles.erase source).set target _)
    | remove name =>
      rcases Folder.answer_remove_eq (.present es) name with ⟨fault, hremove⟩ | ⟨es', heq, hremove⟩
      · rw [hremove]
        exact plain_present.mpr hfiles
      · cases heq
        rw [hremove]
        exact plain_present.mpr (hfiles.erase name)
    | _ => exact plain_present.mpr hfiles

theorem Plain.cutOff {p : Program Files.Reply α} (h : Plain folder) (hcut : CutOff p folder folder') :
    Plain folder' := by
  induction hcut with
  | stopped => exact h
  | torn n => exact h.answer _
  | further _ ih => exact ih (h.answer _)

/-- What requests have left where there was no folder or an empty one. Each of them was complete or cut
off. -/
inductive Left (root : String) : Folder → Prop where
  | missing : Left root .missing
  | empty : Left root (.present [])
  | request {q : Request} {folder folder' : Folder} :
      Left root folder → CutOff (answer root q) folder folder' → Left root folder'

theorem Left.plain (h : Left root folder) : Plain folder := by
  induction h with
  | missing => exact ⟨[], rfl, fun e he => absurd he List.not_mem_nil⟩
  | empty => exact plain_present.mpr fun e he => absurd he List.not_mem_nil
  | request _ hcut ih => exact ih.cutOff hcut

/-! ## The same records -/

/-- Folders of files that do not differ in the files of records. -/
structure SameRecords (f g : Folder) : Prop where
  left : Plain f
  right : Plain g
  missing : f = .missing ↔ g = .missing
  files : recordFiles f = recordFiles g

namespace SameRecords

variable {f g : Folder} {entries entries' : Entries}

theorem of_entries (h : FilesIn entries) (h' : FilesIn entries')
    (hfiles : recordFiles (.present entries) = recordFiles (.present entries')) :
    SameRecords (.present entries) (.present entries') where
  left := plain_present.mpr h
  right := plain_present.mpr h'
  missing := by simp
  files := hfiles

/-- Both are missing, or both are there. -/
theorem cases (h : SameRecords f g) : f = .missing ∧ g = .missing ∨ ∃ entries entries', f = .present entries ∧
    g = .present entries' ∧ FilesIn entries ∧ FilesIn entries' := by
  obtain ⟨⟨entries, hopen, hentries⟩, ⟨entries', hopen', hentries'⟩, hmissing, -⟩ := h
  cases f with
  | missing => exact .inl ⟨rfl, hmissing.mp rfl⟩
  | blocked fault => cases hopen
  | present es =>
    cases g with
    | missing => cases hmissing.mpr rfl
    | blocked fault => cases hopen'
    | present es' =>
      obtain rfl := Option.some.inj hopen
      obtain rfl := Option.some.inj hopen'
      exact .inr ⟨es, es', rfl, rfl, hentries, hentries'⟩

/-- The same file stands under the name of a record. -/
theorem slot_eq (h : SameRecords f g) {name : String} (hjson : Files.hasExtension "json" name) :
    f.slot name = g.slot name := by
  rcases h.cases with ⟨rfl, rfl⟩ | ⟨entries, entries', rfl, rfl, -, -⟩
  · rfl
  · refine Entries.slot_congr ?_
    have hfiles : List.filter (fun e => Files.hasExtension "json" e.1) entries =
        List.filter (fun e => Files.hasExtension "json" e.1) entries' := h.files
    rw [← Entries.find?_filter hjson, hfiles, Entries.find?_filter hjson]

theorem namesIn_eq (h : SameRecords f g) : namesIn f = namesIn g := by
  have hmap : ∀ folder : Folder, namesIn folder = (recordFiles folder).map (·.1) := by
    intro folder
    cases folder with
    | present entries => exact List.filter_map
    | _ => rfl
  rw [hmap, hmap, h.files]

variable (root : String)

theorem readRecord_eq (h : SameRecords f g) {name : String} (hjson : Files.hasExtension "json" name) :
    ((readRecord root name).run Folder.answer f).1 = ((readRecord root name).run Folder.answer g).1 := by
  simp only [readRecord_run, Folder.answer, h.slot_eq hjson]

theorem readEach_eq (h : SameRecords f g) {names : List String}
    (hjson : ∀ name ∈ names, Files.hasExtension "json" name) :
    ((readEach root names).run Folder.answer f).1 = ((readEach root names).run Folder.answer g).1 := by
  induction names with
  | nil => rfl
  | cons name names ih =>
    have hrest := ih fun other hother => hjson other (List.mem_cons_of_mem name hother)
    have hfirst := h.readRecord_eq root (hjson name List.mem_cons_self)
    have hsame := fun folder : Folder => (readRecord_finds root name folder).same
    simp only [readEach, run_bind, hsame, hfirst]
    rcases ((readRecord root name).run Folder.answer g).1 with failure | found
    · cases failure with
      | corrupt path => exact hrest
      | _ => rfl
    · simp only [run_bind, hrest]
      rcases ((readEach root names).run Folder.answer g).1 with failure | records <;> rfl

theorem readAll_eq (h : SameRecords f g) :
    ((readAll root).run Folder.answer f).1 = ((readAll root).run Folder.answer g).1 := by
  have hopen : ∀ {folder : Folder}, Plain folder → folder.opened?.isSome := by
    rintro folder ⟨entries, hopen, -⟩
    rw [hopen]
    rfl
  have hjson : ∀ name ∈ namesIn g, Files.hasExtension "json" name := by
    intro name hname
    exact (mem_namesIn_iff.mp hname).1
  simp only [readAll, run_bind, recordNames_run (hopen h.left), recordNames_run (hopen h.right), h.namesIn_eq,
    h.readEach_eq root hjson]
  rcases ((readEach root (namesIn g)).run Folder.answer g).1 with failure | records <;> rfl

theorem fetchOne_eq (h : SameRecords f g) (uuid : String) :
    ((fetchOne root uuid).run Folder.answer f).1 = ((fetchOne root uuid).run Folder.answer g).1 := by
  simp only [fetchOne, run_withKey]
  split_ifs with hkey
  · exact h.readRecord_eq root (hasExtension_recordName hkey)
  · rfl

/-- The replies are the same, and so are the records after them. -/
def Agree {γ : Type} (p q : γ × Folder) : Prop := p.1 = q.1 ∧ SameRecords p.2 q.2

/-- A record is written to both of them, or to none, whatever its draft was before. -/
theorem write (h : SameRecords f g) (record : Record) :
    Agree ((writeRecord root record).run Folder.answer f) ((writeRecord root record).run Folder.answer g) := by
  by_cases hkey : isKey record.uuid
  · obtain ⟨entries, hopen, hentries⟩ := h.left
    obtain ⟨entries', hopen', hentries'⟩ := h.right
    have hjson := hasExtension_recordName hkey
    have hdraft := hasExtension_draftName record.uuid
    have hfiles : recordFiles (.present entries) = recordFiles (.present entries') := by
      rw [← recordFiles_of_opened? hopen, ← recordFiles_of_opened? hopen', h.files]
    rw [writeRecord_eq root hkey hopen, writeRecord_eq root hkey hopen', hentries.target_eq hentries',
      hentries.target_eq hentries']
    split
    · exact ⟨rfl, of_entries hentries hentries' hfiles⟩
    · refine ⟨rfl, of_entries (hentries.set _ _) (hentries'.set _ _) ?_⟩
      simp only [recordFiles] at hfiles ⊢
      rw [Entries.filter_set_of_neg hdraft, Entries.filter_set_of_neg hdraft, hfiles]
    · refine ⟨rfl, of_entries ((hentries.erase _).set _ _) ((hentries'.erase _).set _ _) ?_⟩
      simp only [recordFiles] at hfiles ⊢
      rw [Entries.filter_set_of_pos hjson, Entries.filter_set_of_pos hjson, Entries.filter_erase_of_neg hdraft,
        Entries.filter_erase_of_neg hdraft, hfiles]
  · rw [writeRecord, run_withKey, run_withKey, if_neg hkey, if_neg hkey]
    exact ⟨rfl, h⟩

theorem modify (h : SameRecords f g) (uuid : String) (change : Record → Record) :
    Agree ((Directory.modify root uuid change).run Folder.answer f)
      ((Directory.modify root uuid change).run Folder.answer g) := by
  have hsame := fun folder : Folder => (fetchOne_finds root uuid folder).same
  rw [Directory.modify, run_bind, run_bind, hsame, hsame, h.fetchOne_eq]
  rcases ((fetchOne root uuid).run Folder.answer g).1 with failure | _ | record
  · exact ⟨rfl, h⟩
  · exact ⟨rfl, h⟩
  · obtain ⟨hreply, hafter⟩ := h.write root (change record)
    dsimp only
    rw [run_bind, run_bind, hreply]
    exact ⟨rfl, hafter⟩

theorem insert (h : SameRecords f g) (record : Record) :
    Agree ((Directory.insert root record).run Folder.answer f)
      ((Directory.insert root record).run Folder.answer g) := by
  rw [Directory.insert, run_withKey, run_withKey]
  split_ifs with hkey
  · have hprobe : (Folder.answer (.probe (recordName record.uuid)) f).1 =
        (Folder.answer (.probe (recordName record.uuid)) g).1 := by
      simp only [Folder.answer, h.slot_eq (hasExtension_recordName hkey)]
    rw [run_step, run_step, (Folder.answer_probe f _).1, (Folder.answer_probe g _).1, hprobe]
    dsimp only [id]
    rcases (Folder.answer (.probe (recordName record.uuid)) g).1 with fault | taken
    · exact ⟨rfl, h⟩
    · dsimp only
      split_ifs
      · exact ⟨rfl, h⟩
      · rw [run_bind, run_bind, (readAll_run root f).1, (readAll_run root g).1, h.readAll_eq]
        rcases ((readAll root).run Folder.answer g).1 with failure | records
        · exact ⟨rfl, h⟩
        · obtain ⟨hreply, hafter⟩ := h.write root { record with id := greatestId records + 1 }
          dsimp only
          rw [run_bind, run_bind, hreply]
          exact ⟨rfl, hafter⟩
  · exact ⟨rfl, h⟩

theorem remove (h : SameRecords f g) {name : String} (hjson : Files.hasExtension "json" name) :
    Agree (Folder.answer (.remove name) f) (Folder.answer (.remove name) g) := by
  have hslot := h.slot_eq hjson
  rcases h.cases with ⟨rfl, rfl⟩ | ⟨entries, entries', rfl, rfl, hentries, hentries'⟩
  · exact ⟨rfl, h⟩
  · simp only [Folder.answer, hslot]
    split
    · exact ⟨rfl, h⟩
    · exact ⟨rfl, h⟩
    · exact ⟨rfl, h⟩
    · refine ⟨rfl, of_entries (hentries.erase name) (hentries'.erase name) ?_⟩
      have hfiles := h.files
      simp only [recordFiles] at hfiles ⊢
      rw [Entries.filter_erase, Entries.filter_erase, hfiles]

theorem delete (h : SameRecords f g) (uuid : String) :
    Agree ((Directory.delete root uuid).run Folder.answer f) ((Directory.delete root uuid).run Folder.answer g) := by
  rw [Directory.delete, run_withKey, run_withKey]
  split_ifs with hkey
  · obtain ⟨hreply, hafter⟩ := h.remove (hasExtension_recordName hkey)
    rw [run_step, run_step, hreply]
    split <;> exact ⟨rfl, hafter⟩
  · exact ⟨rfl, h⟩

theorem handle (h : SameRecords f g) (q : Request) : Agree (Directory.handle root q f) (Directory.handle root q g) := by
  cases q with
  | fetchAll =>
    refine ⟨h.readAll_eq root, ?_⟩
    rw [Directory.handle, Directory.handle, answer, (readAll_run root f).1, (readAll_run root g).1]
    exact h
  | fetchOne uuid =>
    refine ⟨h.fetchOne_eq root uuid, ?_⟩
    rw [Directory.handle, Directory.handle, answer, (fetchOne_finds root uuid f).same,
      (fetchOne_finds root uuid g).same]
    exact h
  | insert record => exact h.insert root record
  | update record => exact h.modify root record.uuid (·.withChange record)
  | delete uuid => exact h.delete root uuid
  | setLocked uuid locked => exact h.modify root uuid (·.withLock locked)

theorem exchanges (h : SameRecords f g) (requests : List Request) :
    Store.exchanges requests (.directory root f) = Store.exchanges requests (.directory root g) := by
  induction requests generalizing f g with
  | nil => rfl
  | cons q requests ih =>
    obtain ⟨hreply, hafter⟩ := h.handle root q
    unfold Store.exchanges
    exact congrArg₂ List.cons (congrArg (Exchange.mk q) hreply) (ih hafter)

end SameRecords

/-! ## Drafts -/

/-- The folder without the drafts of these uuids. -/
def withoutDrafts (uuids : List String) (folder : Folder) : Folder :=
  folder.mapEntries fun entries => entries.filter fun e => e.1 ∉ uuids.map draftName

theorem Plain.withoutDrafts (h : Plain folder) (uuids : List String) :
    SameRecords folder (withoutDrafts uuids folder) := by
  cases folder with
  | missing => exact ⟨h, h, Iff.rfl, rfl⟩
  | blocked fault =>
    obtain ⟨entries, hopen, -⟩ := h
    cases hopen
  | present entries =>
    have hfiles := plain_present.mp h
    refine .of_entries hfiles (hfiles.filter _) ?_
    simp only [recordFiles]
    rw [List.filter_filter]
    refine List.filter_congr fun e _ => ?_
    have hdraft : Files.hasExtension "json" e.1 → e.1 ∉ uuids.map draftName := by
      intro hjson hmem
      obtain ⟨uuid, -, heq⟩ := List.mem_map.mp hmem
      exact ne_draftName_of_hasExtension hjson uuid heq.symm
    simpa using hdraft

/-- However far a request came before it was cut off, the files of records are those before it or those
after it, and from then on all requests are answered as if its draft, and any others, were not there. -/
theorem never_half_written (root : String) (h : Left root folder) {q : Request}
    (hcut : CutOff (answer root q) folder folder') :
    (recordFiles folder' = recordFiles folder ∨ recordFiles folder' = recordFiles (handle root q folder).2) ∧
    ∀ uuids requests, exchanges requests (.directory root folder') =
      exchanges requests (.directory root (withoutDrafts uuids folder')) := by
  refine ⟨?_, fun uuids requests => ?_⟩
  · rcases (answer_commits root q).cutOff hcut with hbefore | hafter
    · exact .inl hbefore
    · exact .inr (congrArg recordFiles hafter)
  · exact ((h.plain.cutOff hcut).withoutDrafts uuids).exchanges root requests

/-- The first three bytes of the draft of the first record. -/
def torn : Folder :=
  .present [(draftName "u", .file (({ someRecord with id := 1 } : Record).encode.toUTF8.extract 0 3))]

theorem cutOff_torn : CutOff (answer "r" (.insert someRecord)) .missing torn := by
  have hkey : isKey someRecord.uuid = true := by decide
  have hshort : Short "u" := by
    unfold Short
    decide
  have hwrite : ∀ content, (Folder.answer (.write (draftName "u") content) (.present [])).2 =
      .present [(draftName "u", .file content)] := by
    intro content
    rw [Folder.answer_write_eq, target_draftName hshort fun _ h => by cases h]
    rfl
  rw [answer, insert, withKey, if_pos hkey, torn, ← hwrite]
  -- probed, listed and made, then cut off
  refine .further (.further ?_)
  change CutOff ((writeRecord "r" { someRecord with id := 1 }).bind _) .missing _
  rw [writeRecord, withKey, if_pos hkey]
  exact .further (.torn 3)

/-- A new record that was cut off in its draft is not there, and can be stored as in an empty folder. -/
theorem torn_draft_is_harmless : CutOff (answer "r" (.insert someRecord)) .missing torn ∧
    recordFiles torn = recordFiles .missing ∧
    exchanges [.insert someRecord, .fetchAll] (.directory "r" torn) =
      exchanges [.insert someRecord, .fetchAll] (.directory "r" (.present [])) := by
  obtain ⟨-, hsame⟩ := never_half_written "r" .missing cutOff_torn
  refine ⟨cutOff_torn, ?_, ?_⟩
  · simp [recordFiles, torn, hasExtension_draftName]
  · rw [hsame ["u"]]
    simp [withoutDrafts, torn, Folder.mapEntries]

end Dashboards.Store.Directory
