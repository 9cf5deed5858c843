import Dashboards.Files.Tree
import Dashboards.Proofs.Except
import Dashboards.Proofs.Files.Entry
import Mathlib

/-!
# Which files a step on a tree changes

Steps are about a folder of the tree, and paths lead there in many ways. Whatever folder that is, a step
changes no file of the whole tree but those of the names that it is about.

* `Entries.file?` : a file by the way to its folder and its name there;
* `Entries.Frame names` : only files of these names may differ, in whatever folder (`Frame.refl`,
  `Frame.trans`, `Frame.of_find?`);
* `frame_set_file`, `frame_erase`, `frame_set_folder`, `frame_set_new` : one entry, `frame_changeAt` : a
  folder at the end of a way;
* `Request.changed` : the names of the files that a step may have changed;
* `Folder.answer_frame`, `Tree.frame_make`, `Tree.frame_makeAll`, `Tree.frame_answer`,
  `Tree.frame_move` : what each step leaves as it is.
-/

namespace Dashboards.Files

namespace Entries

/-! ## Files of a tree -/

/-- The content of a node that is a file. -/
def contentOf? : Option Node → Option ByteArray
  | some (.file content) => some content
  | _ => none

/-- The content of a file, by the way to its folder and its name there. -/
def file? (name : String) : List String → Entries → Option ByteArray
  | [], entries => contentOf? (entries.find? name)
  | folder :: way, entries =>
    match entries.find? folder with
    | some (.folder inner) => file? name way inner
    | _ => none

/-- The same in a node that may be a folder. -/
def fileIn? (name : String) (way : List String) : Option Node → Option ByteArray
  | some (.folder inner) => file? name way inner
  | _ => none

theorem file?_cons (name folder : String) (way : List String) (entries : Entries) :
    entries.file? name (folder :: way) = fileIn? name way (entries.find? folder) := by
  rw [file?]
  cases entries.find? folder with
  | none => rfl
  | some node => cases node <;> rfl

theorem file?_empty (name : String) (way : List String) : file? name way [] = none := by
  cases way <;> rfl

/-- Only files of these names may differ, in whatever folder they are. -/
def Frame (names : List String) (entries entries' : Entries) : Prop :=
  ∀ way, ∀ name ∉ names, entries'.file? name way = entries.file? name way

variable {names : List String} {entries entries' entries'' : Entries} {name : String}

theorem Frame.refl (names : List String) (entries : Entries) : Frame names entries entries := fun _ _ _ => rfl

theorem Frame.trans (h : Frame names entries entries') (h' : Frame names entries' entries'') :
    Frame names entries entries'' := fun way name hname => (h' way name hname).trans (h way name hname)

/-- One entry differs, in a file of one of the names or in what is in a folder. -/
theorem Frame.of_find? (h : ∀ other, other ≠ name → entries'.find? other = entries.find? other)
    (hcontent : name ∈ names ∨ contentOf? (entries'.find? name) = contentOf? (entries.find? name))
    (hinside : ∀ way, ∀ other ∉ names,
      fileIn? other way (entries'.find? name) = fileIn? other way (entries.find? name)) :
    Frame names entries entries' := by
  intro way other hother
  cases way with
  | nil =>
    rw [file?, file?]
    by_cases heq : other = name
    · subst heq
      exact hcontent.resolve_left hother
    · rw [h other heq]
  | cons folder way =>
    rw [file?_cons, file?_cons]
    by_cases heq : folder = name
    · subst heq
      exact hinside way other hother
    · rw [h folder heq]

/-! ## One entry -/

/-- No folder is under the name. -/
def NoFolder (entries : Entries) (name : String) : Prop := ∀ inner, entries.find? name ≠ some (.folder inner)

theorem NoFolder.fileIn? (h : NoFolder entries name) (other : String) (way : List String) :
    fileIn? other way (entries.find? name) = none := by
  cases hfind : entries.find? name with
  | none => rfl
  | some node =>
    cases node with
    | file content => rfl
    | folder inner => exact absurd hfind (h inner)

theorem NoFolder.erase (h : NoFolder entries name) (other : String) : NoFolder (entries.erase other) name := by
  intro inner hfind
  by_cases heq : name = other
  · rw [heq, find?_erase_self] at hfind
    cases hfind
  · rw [find?_erase_of_ne heq] at hfind
    exact h inner hfind

theorem frame_set_file (h : NoFolder entries name) (hname : name ∈ names) (content : ByteArray) :
    Frame names entries (entries.set name (.file content)) := by
  refine .of_find? (fun other hne => find?_set_of_ne hne) (.inl hname) fun way other _ => ?_
  rw [find?_set_self, h.fileIn?]
  rfl

theorem frame_erase (h : NoFolder entries name) (hname : name ∈ names) : Frame names entries (entries.erase name) := by
  refine .of_find? (fun other hne => find?_erase_of_ne hne) (.inl hname) fun way other _ => ?_
  rw [find?_erase_self, h.fileIn?]
  rfl

theorem frame_set_folder {inner inner' : Entries} (h : entries.find? name = some (.folder inner))
    (hinner : Frame names inner inner') : Frame names entries (entries.set name (.folder inner')) := by
  refine .of_find? (fun other hne => find?_set_of_ne hne) (.inr ?_) fun way other hother => ?_
  · rw [find?_set_self, h]
    rfl
  · rw [find?_set_self, h]
    exact hinner way other hother

theorem frame_set_new (h : entries.find? name = none) : Frame names entries (entries.set name (.folder [])) := by
  refine .of_find? (fun other hne => find?_set_of_ne hne) (.inr ?_) fun way other _ => ?_
  · rw [find?_set_self, h]
    rfl
  · rw [find?_set_self, h]
    exact file?_empty other way

/-! ## A folder at the end of a way -/

theorem frame_changeAt {f : Entries → Entries} (way : List String)
    (h : ∀ inner, entries.nodeAt? way = some (.folder inner) → Frame names inner (f inner)) :
    Frame names entries (entries.changeAt f way) := by
  induction way generalizing entries with
  | nil => exact h entries rfl
  | cons folder way ih =>
    rw [changeAt]
    split
    · next inner hfind =>
      refine frame_set_folder hfind (ih fun deeper hdeeper => h deeper ?_)
      rw [nodeAt?, hfind]
      exact hdeeper
    · exact Frame.refl names entries

theorem nodeAt?_concat {way : List String} {inner : Entries} (h : entries.nodeAt? way = some (.folder inner))
    (name : String) : entries.nodeAt? (way ++ [name]) = inner.find? name := by
  induction way generalizing entries with
  | nil =>
    cases h
    rw [List.nil_append, nodeAt?]
    cases inner.find? name with
    | none => rfl
    | some node => cases node <;> rfl
  | cons folder way ih =>
    rw [nodeAt?] at h
    rw [List.cons_append, nodeAt?]
    split at h
    · next deeper hfind => exact ih h
    · split_ifs at h
      cases h
    · cases h

/-- There is a folder at the end of the way. -/
def HasFolder (entries : Entries) (way : List String) : Prop := ∃ inner, entries.nodeAt? way = some (.folder inner)

theorem hasFolder_cons {folder : String} {way : List String} :
    HasFolder entries (folder :: way) ↔ ∃ inner, entries.find? folder = some (.folder inner) ∧ HasFolder inner way := by
  unfold HasFolder
  rw [nodeAt?]
  cases entries.find? folder with
  | none => simp
  | some node => cases node <;> simp

/-- Where an entry is erased, no folder appears. -/
theorem hasFolder_of_changeAt_erase {source way : List String}
    (h : HasFolder (entries.changeAt (·.erase name) source) way) : HasFolder entries way := by
  induction source generalizing entries way with
  | nil =>
    cases way with
    | nil => exact ⟨entries, rfl⟩
    | cons folder way =>
      obtain ⟨inner, hfind, hinner⟩ := hasFolder_cons.mp h
      have hne : folder ≠ name := by
        rintro rfl
        rw [changeAt, find?_erase_self] at hfind
        cases hfind
      rw [changeAt, find?_erase_of_ne hne] at hfind
      exact hasFolder_cons.mpr ⟨inner, hfind, hinner⟩
  | cons first source ih =>
    cases way with
    | nil => exact ⟨entries, rfl⟩
    | cons folder way =>
      rw [changeAt] at h
      split at h
      · next inner hfind =>
        obtain ⟨inner', hfind', hinner⟩ := hasFolder_cons.mp h
        by_cases heq : folder = first
        · subst heq
          rw [find?_set_self, Option.some.injEq, Node.folder.injEq] at hfind'
          exact hasFolder_cons.mpr ⟨inner, hfind, ih (hfind' ▸ hinner)⟩
        · rw [find?_set_of_ne heq] at hfind'
          exact hasFolder_cons.mpr ⟨inner', hfind', hinner⟩
      · exact h

/-! ## Slots -/

theorem noFolder_of_slot {s : Slot} (h : entries.slot name = .ok s) (hs : s ≠ .folder) : NoFolder entries name := by
  intro inner hfind
  rw [slot] at h
  split_ifs at h
  · exact hs (Except.ok.inj h).symm
  · rw [hfind] at h
    exact hs (Except.ok.inj h).symm

theorem find?_of_slot_empty (h : entries.slot name = .ok .empty) : entries.find? name = none := by
  cases hfind : entries.find? name with
  | none => rfl
  | some node =>
    rw [slot, hfind] at h
    split_ifs at h
    · cases h
    · cases node <;> cases h

end Entries

/-! ## Steps on a folder -/

/-- The names of the files that a step may have changed. -/
def Request.changed : (q : Request) → Reply q → List String
  | .write name _, _ => [name]
  | .rename source target, .ok () => [source, target]
  | .remove name, .ok () => [name]
  | _, _ => []

theorem Folder.noFolder_of_target {entries : Entries} {name : String}
    (h : (Folder.present entries).target name = .ok ()) : entries.NoFolder name := by
  obtain ⟨s, hslot, hs⟩ := exists_slot_of_target h
  exact Entries.noFolder_of_slot hslot hs

theorem Folder.answer_frame {q : Request} {reply : Reply q} {entries entries' : Entries}
    (h : Folder.answer q (.present entries) = (reply, .present entries')) :
    Entries.Frame (q.changed reply) entries entries' := by
  cases q with
  | write name content =>
    rw [Folder.answer_write_eq] at h
    split at h
    · next htarget =>
      cases h
      exact Entries.frame_set_file (noFolder_of_target htarget) (List.mem_singleton_self name) content
    · cases h
      exact .refl _ _
  | rename source target =>
    rw [Folder.answer] at h
    split at h
    case h_5 content hsource htarget =>
      cases h
      have herased : Entries.Frame [source, target] entries (entries.erase source) :=
        Entries.frame_erase (Entries.noFolder_of_slot hsource (by simp)) List.mem_cons_self
      have hfree : (entries.erase source).NoFolder target := (noFolder_of_target htarget).erase source
      exact herased.trans (Entries.frame_set_file hfree (by simp) content)
    all_goals
      cases h
      exact .refl _ _
  | remove name =>
    rw [Folder.answer] at h
    split at h
    case h_4 content hslot =>
      cases h
      exact Entries.frame_erase (Entries.noFolder_of_slot hslot (by simp)) (List.mem_singleton_self name)
    all_goals
      cases h
      exact .refl _ _
  | _ =>
    cases h
    exact .refl _ _

/-! ## Steps on a tree -/

namespace Tree

variable {t t' t'' : Tree} {names : List String}

/-- Only files of these names may differ, anywhere in the tree. -/
def Frame (names : List String) (t t' : Tree) : Prop := Entries.Frame names t.top t'.top

theorem Frame.refl (names : List String) (t : Tree) : Frame names t t := Entries.Frame.refl names t.top

theorem Frame.trans (h : Frame names t t') (h' : Frame names t' t'') : Frame names t t'' := Entries.Frame.trans h h'

theorem eq_of_folderAt {way : List String} {entries : Entries} (h : t.folderAt way = .present entries) :
    t.top.nodeAt? way = some (.folder entries) := by
  rw [folderAt] at h
  split at h
  · cases h
    assumption
  · cases h
  · cases h

theorem folderAt_of_nodeAt? {way : List String} {entries : Entries} (h : t.top.nodeAt? way = some (.folder entries)) :
    t.folderAt way = .present entries := by
  rw [folderAt, h]

theorem frame_change {f : Entries → Entries} (way : List String)
    (h : ∀ inner, t.folderAt way = .present inner → Entries.Frame names inner (f inner)) :
    Frame names t (t.change way f) :=
  Entries.frame_changeAt way fun inner hinner => h inner (folderAt_of_nodeAt? hinner)

/-! ## Folders that are made -/

theorem frame_make (path : String) (t : Tree) : Frame [] t (make path t).2 := by
  unfold make
  dsimp only
  split
  · exact .refl _ _
  · split_ifs
    · exact .refl _ _
    · split
      · exact .refl _ _
      · next way _ _ _ hslot =>
        refine frame_change way fun inner hinner => Entries.frame_set_new (Entries.find?_of_slot_empty ?_)
        rw [hinner] at hslot
        exact hslot
      · exact .refl _ _

/-- Steps that change no files but those of the names. -/
def Leaves {α : Type} (names : List String) (steps : StateT Tree Id α) : Prop := ∀ t, Frame names t (steps t).2

section Leaves

variable {α β : Type}

theorem leaves_pure (a : α) : Leaves names (pure a : StateT Tree Id α) := fun t => .refl names t

theorem Leaves.bind {steps : StateT Tree Id α} {next : α → StateT Tree Id β} (h : Leaves names steps)
    (hnext : ∀ a, Leaves names (next a)) : Leaves names (steps >>= next) :=
  fun t => (h t).trans (hnext (steps t).1 (steps t).2)

theorem leaves_makeFirst {make : String → StateT Tree Id (Except Fault Unit)} {isFolder : String → StateT Tree Id Bool}
    (hmake : ∀ path, Leaves names (make path)) (hfolder : ∀ path, Leaves names (isFolder path))
    (folders : List String) : Leaves names (makeFirst make isFolder folders) := by
  have hsettle : ∀ folder outcome, Leaves names (makeFirst.settle isFolder folder outcome) := by
    intro folder outcome
    unfold makeFirst.settle
    split
    · exact (hfolder folder).bind fun found => leaves_pure _
    · exact leaves_pure _
  induction folders with
  | nil => exact leaves_pure _
  | cons folder holders ih =>
    refine (hmake folder).bind fun outcome => ?_
    split
    · refine ih.bind fun held => ?_
      split
      · exact leaves_pure _
      · exact (hmake folder).bind (hsettle folder)
    · exact hsettle folder outcome

end Leaves

theorem frame_makeAll (path : String) (t : Tree) : Frame [] t (t.makeAll path).2 := by
  have hfolder : ∀ path, Leaves [] (fun t => (t.isFolder path, t) : StateT Tree Id Bool) := fun path t => .refl [] t
  exact leaves_makeFirst frame_make hfolder (holders path) t

/-! ## Steps -/

/-- A step on the folder at the end of a way, if the way leads to one. -/
theorem frame_step (q : Request) (way : Except Fault (List String)) (t : Tree) :
    let ended : Reply q × Tree :=
      match way with
      | .error fault => ((Folder.answer q (.blocked fault)).1, t)
      | .ok way =>
        match Folder.answer q (t.folderAt way) with
        | (reply, .present entries) => (reply, t.change way fun _ => entries)
        | (reply, _) => (reply, t)
    Frame (q.changed ended.1) t ended.2 := by
  cases way with
  | error fault => exact .refl _ _
  | ok way =>
    dsimp only
    split
    · next reply entries hanswer =>
      refine frame_change way fun inner hinner => ?_
      rw [hinner] at hanswer
      exact Folder.answer_frame hanswer
    · exact .refl _ _

/-- A step on the folder of a path changes no files but those that it names. -/
theorem frame_answer (path : String) (q : Request) (t : Tree) :
    Frame (q.changed (t.answer path q).1) t (t.answer path q).2 := by
  cases q with
  | make => exact frame_makeAll path t
  | _ => exact frame_step _ _ t

/-- The names of the files that moving a file of that name may have changed. -/
def moved (name destination : String) : Except Fault Unit → List String
  | .ok () => [name, (Place.ofPath destination).name]
  | .error _ => []

theorem noFolder_of_target {place : Place} {way : List String} (h : t.target place way = .ok ()) :
    ∃ entries, t.folderAt way = .present entries ∧ entries.NoFolder place.name := by
  unfold target at h
  split_ifs at h
  obtain ⟨s, hslot, h⟩ := bind_eq_ok h
  obtain ⟨entries, hentries, hslot⟩ := Folder.exists_present_of_slot hslot
  refine ⟨entries, hentries, Entries.noFolder_of_slot hslot ?_⟩
  rintro rfl
  split at h <;> cases h

/-- A file that is moved leaves its folder and takes the place of one that is no folder. -/
theorem frame_move (path name destination : String) (t : Tree) :
    Frame (moved name destination (t.move path name destination).1) t (t.move path name destination).2 := by
  unfold move
  dsimp only
  split
  · exact .refl _ _
  · next source way content houtcome =>
    obtain ⟨_, -, houtcome⟩ := bind_eq_ok houtcome
    obtain ⟨_, -, houtcome⟩ := bind_eq_ok houtcome
    obtain ⟨source', -, houtcome⟩ := bind_eq_ok houtcome
    obtain ⟨way', -, houtcome⟩ := bind_eq_ok houtcome
    split at houtcome
    · cases houtcome
    · cases houtcome
    · cases houtcome
    next content' hslot =>
    obtain ⟨_, htarget, houtcome⟩ := bind_eq_ok houtcome
    cases houtcome
    change Frame [name, (Place.ofPath destination).name] t _
    have herased : Frame [name, (Place.ofPath destination).name] t (t.change source (·.erase name)) := by
      refine frame_change source fun inner hinner => Entries.frame_erase ?_ List.mem_cons_self
      rw [hinner] at hslot
      exact Entries.noFolder_of_slot hslot (by simp)
    refine herased.trans (frame_change way fun inner hinner => Entries.frame_set_file ?_ (by simp) content)
    obtain ⟨entries, hentries, hfree⟩ := noFolder_of_target htarget
    intro deeper hdeeper
    -- a folder in the place would have been there before the file was taken from its own
    rw [← Entries.nodeAt?_concat (eq_of_folderAt hinner)] at hdeeper
    obtain ⟨deeper', hbefore⟩ := Entries.hasFolder_of_changeAt_erase ⟨deeper, hdeeper⟩
    rw [Entries.nodeAt?_concat (eq_of_folderAt hentries)] at hbefore
    exact hfree deeper' hbefore

end Tree

end Dashboards.Files
