import Dashboards.Files.Folder
import Mathlib

/-!
# What steps do to the files of a folder

* `Entries.find?_set_self`, `find?_set_of_ne`, `find?_erase_self`, `find?_erase_of_ne` : entries by
  name; `set_of_find?_eq_none`, `erase_append_self` : an entry that comes and goes;
* `Folder.content?` : the bytes under a name, if a file is there;
* `Folder.Frame names` : only the files of these names may differ (`Frame.refl`, `Frame.trans`);
* `answer_make`, `answer_write`, `answer_rename`, `answer_remove` : each step either fails and changes
  nothing, or changes what it names and nothing else;
* `answer_read`, `answer_probe` : what a step replies about a file.
-/

namespace Dashboards.Files

/-! ## Entries -/

namespace Entries

variable {name other : String} {node : Node} {entries : Entries}

theorem find?_set_self : (entries.set name node).find? name = some node := by
  induction entries with
  | nil => exact if_pos rfl
  | cons entry rest ih =>
    obtain ⟨n, old⟩ := entry
    by_cases h : n = name
    · rw [set, if_pos h]
      exact if_pos rfl
    · rw [set, if_neg h, find?, if_neg h, ih]

theorem find?_set_of_ne (h : other ≠ name) : (entries.set name node).find? other = entries.find? other := by
  induction entries with
  | nil => exact if_neg h.symm
  | cons entry rest ih =>
    obtain ⟨n, old⟩ := entry
    by_cases hn : n = name
    · subst hn
      rw [set, if_pos rfl, find?, find?, if_neg h.symm, if_neg h.symm]
    · rw [set, if_neg hn, find?, find?, ih]

theorem find?_erase_self : (entries.erase name).find? name = none := by
  induction entries with
  | nil => rfl
  | cons entry rest ih =>
    obtain ⟨n, old⟩ := entry
    by_cases hn : n = name
    · rw [erase, List.filter_cons_of_neg (by simpa using hn)]
      exact ih
    · rw [erase, List.filter_cons_of_pos (by simpa using hn), find?, if_neg hn]
      exact ih

theorem find?_erase_of_ne (h : other ≠ name) : (entries.erase name).find? other = entries.find? other := by
  induction entries with
  | nil => rfl
  | cons entry rest ih =>
    obtain ⟨n, old⟩ := entry
    by_cases hn : n = name
    · rw [erase, List.filter_cons_of_neg (by simpa using hn), find?, if_neg (by rw [hn]; exact h.symm)]
      exact ih
    · rw [erase, List.filter_cons_of_pos (by simpa using hn), find?, find?]
      split_ifs
      · rfl
      · exact ih

theorem set_of_find?_eq_none (h : entries.find? name = none) : entries.set name node = entries ++ [(name, node)] := by
  induction entries with
  | nil => rfl
  | cons entry rest ih =>
    obtain ⟨n, old⟩ := entry
    rw [find?] at h
    split_ifs at h with hn
    rw [set, if_neg hn, ih h]
    rfl

theorem erase_append_self (h : entries.find? name = none) : erase name (entries ++ [(name, node)]) = entries := by
  induction entries with
  | nil =>
    rw [List.nil_append, erase, List.filter_cons_of_neg (by simp)]
    rfl
  | cons entry rest ih =>
    obtain ⟨n, old⟩ := entry
    rw [find?] at h
    split_ifs at h with hn
    rw [erase, List.cons_append, List.filter_cons_of_pos (by simpa using hn)]
    exact congrArg _ (ih h)

theorem find?_append_of_ne (h : other ≠ name) : Entries.find? other (entries ++ [(name, node)]) = entries.find? other := by
  induction entries with
  | nil => exact if_neg h.symm
  | cons entry rest ih =>
    obtain ⟨n, old⟩ := entry
    rw [List.cons_append, find?, find?, ih]

theorem slot_congr {entries' : Entries} (h : entries'.find? name = entries.find? name) :
    entries'.slot name = entries.slot name := by
  rw [slot, slot, h]

/-- A slot that is no folder is that of the entry. -/
theorem slot_set_self {s : Slot} (h : entries.slot name = .ok s) (hs : s ≠ .folder) (content : ByteArray) :
    (entries.set name (.file content)).slot name = .ok (.file content) := by
  rw [slot] at h
  split_ifs at h with hspecial hlong
  · exact absurd (Except.ok.inj h).symm hs
  · rw [slot, if_neg hspecial, if_neg hlong, find?_set_self]

end Entries

/-! ## Files of a folder -/

namespace Folder

variable {folder folder' folder'' : Folder} {name : String}

/-- The bytes under a name, if a file is there. -/
def content? (folder : Folder) (name : String) : Option ByteArray :=
  match folder.slot name with
  | .ok (.file content) => some content
  | _ => none

/-- Only the files of these names may differ. -/
def Frame (names : List String) (folder folder' : Folder) : Prop :=
  ∀ name ∉ names, folder'.content? name = folder.content? name

theorem Frame.refl (names : List String) (folder : Folder) : Frame names folder folder :=
  fun _ _ => rfl

theorem Frame.trans {names names' : List String} (h : Frame names folder folder')
    (h' : Frame names' folder' folder'') (hsub : names ⊆ names') : Frame names' folder folder'' := by
  intro name hname
  rw [h' name hname, h name fun hmem => hname (hsub hmem)]

theorem content?_of_slot {content : ByteArray} (h : folder.slot name = .ok (.file content)) :
    folder.content? name = some content := by
  rw [content?, h]

theorem content?_mapEntries {f : Entries → Entries}
    (h : ∀ entries, (f entries).find? name = Entries.find? name entries) :
    (folder.mapEntries f).content? name = folder.content? name := by
  cases folder with
  | present entries =>
    rw [content?, content?, mapEntries, slot, slot, Entries.slot_congr (h entries)]
  | missing => rfl
  | blocked fault => rfl

theorem exists_present_of_slot {s : Slot} (h : folder.slot name = .ok s) :
    ∃ entries, folder = .present entries ∧ entries.slot name = .ok s := by
  cases folder with
  | present entries => exact ⟨entries, rfl, h⟩
  | missing => cases h
  | blocked fault => cases h

/-- A file that is put in place is there. -/
theorem content?_set_self {s : Slot} (h : folder.slot name = .ok s) (hs : s ≠ .folder) (content : ByteArray) :
    (folder.mapEntries (·.set name (.file content))).content? name = some content := by
  obtain ⟨entries, rfl, hslot⟩ := exists_present_of_slot h
  exact content?_of_slot (Entries.slot_set_self hslot hs content)

theorem content?_present_nil (name : String) : (present []).content? name = none := by
  rw [content?, slot, Entries.slot]
  split_ifs <;> rfl

/-! ## Steps -/

theorem answer_make (folder : Folder) (name : String) :
    (answer .make folder).2.content? name = folder.content? name := by
  cases folder with
  | missing => exact content?_present_nil name
  | blocked fault => rfl
  | present entries => rfl

theorem answer_write (folder : Folder) (name : String) (content : ByteArray) :
    (∃ fault, answer (.write name content) folder = (.error fault, folder)) ∨
    ((answer (.write name content) folder).1 = .ok () ∧
      (answer (.write name content) folder).2.content? name = some content ∧
      Frame [name] folder (answer (.write name content) folder).2) := by
  have hframe : Frame [name] folder (folder.mapEntries (·.set name (.file content))) := fun other hother =>
    content?_mapEntries fun entries => Entries.find?_set_of_ne (List.ne_of_not_mem_cons hother)
  cases hs : folder.slot name with
  | error fault =>
    left
    refine ⟨fault, ?_⟩
    simp only [answer, hs]
  | ok s =>
    cases s with
    | folder =>
      left
      refine ⟨.isDirectory, ?_⟩
      simp only [answer, hs]
    | empty =>
      right
      simp only [answer, hs]
      exact ⟨trivial, content?_set_self hs (by simp) content, hframe⟩
    | file old =>
      right
      simp only [answer, hs]
      exact ⟨trivial, content?_set_self hs (by simp) content, hframe⟩

theorem answer_rename (folder : Folder) {source target : String} (hne : target ≠ source) :
    (∃ fault, answer (.rename source target) folder = (.error fault, folder)) ∨
    ((answer (.rename source target) folder).1 = .ok () ∧
      (answer (.rename source target) folder).2.content? target = folder.content? source ∧
      Frame [source, target] folder (answer (.rename source target) folder).2) := by
  cases hs : folder.slot source with
  | error fault =>
    left
    refine ⟨fault, ?_⟩
    simp only [answer, hs]
  | ok s =>
    cases s with
    | empty =>
      left
      refine ⟨.notFound, ?_⟩
      simp only [answer, hs]
    | folder =>
      left
      refine ⟨.isDirectory, ?_⟩
      simp only [answer, hs]
    | file content =>
      cases ht : folder.target target with
      | error fault =>
        left
        refine ⟨fault, ?_⟩
        simp only [answer, hs, ht]
      | ok _ =>
        right
        simp only [answer, hs, ht]
        obtain ⟨entries, rfl, -⟩ := exists_present_of_slot hs
        obtain ⟨s, hslot, hfolder⟩ : ∃ s, Entries.slot entries target = .ok s ∧ s ≠ .folder := by
          rw [Folder.target] at ht
          split at ht
          · cases ht
          · cases ht
          · next s hnot hslot => exact ⟨s, hslot, fun h => hnot (by rw [← h])⟩
        have herase : Entries.slot (Entries.erase source entries) target = .ok s := by
          rw [← hslot]
          exact Entries.slot_congr (Entries.find?_erase_of_ne hne)
        refine ⟨trivial, ?_, fun name hname => content?_mapEntries fun entries => ?_⟩
        · rw [content?_of_slot hs]
          exact content?_of_slot (Entries.slot_set_self herase hfolder content)
        · obtain ⟨hsource, hname⟩ := List.ne_and_not_mem_of_not_mem_cons hname
          rw [Entries.find?_set_of_ne (List.ne_of_not_mem_cons hname), Entries.find?_erase_of_ne hsource]

theorem content?_of_slot_ne {r : Except Fault Slot} (h : folder.slot name = r)
    (hr : ∀ content, r ≠ .ok (.file content)) : folder.content? name = none := by
  rw [content?, h]
  split
  · next content => exact absurd rfl (hr content)
  · rfl

theorem answer_remove (folder : Folder) (name : String) :
    (∃ fault, answer (.remove name) folder = (.error fault, folder) ∧
      (fault = .notFound → folder.content? name = none)) ∨
    ((answer (.remove name) folder).1 = .ok () ∧
      (answer (.remove name) folder).2.content? name = none ∧
      Frame [name] folder (answer (.remove name) folder).2) := by
  cases hs : folder.slot name with
  | error fault =>
    left
    refine ⟨fault, ?_, fun _ => content?_of_slot_ne hs (by simp)⟩
    simp only [answer, hs]
  | ok s =>
    cases s with
    | empty =>
      left
      refine ⟨.notFound, ?_, fun _ => content?_of_slot_ne hs (by simp)⟩
      simp only [answer, hs]
    | folder =>
      left
      refine ⟨.isDirectory, ?_, fun h => by cases h⟩
      simp only [answer, hs]
    | file content =>
      right
      simp only [answer, hs]
      obtain ⟨entries, rfl, hslot⟩ := exists_present_of_slot hs
      refine ⟨trivial, ?_, fun other hother => content?_mapEntries fun entries =>
        Entries.find?_erase_of_ne (List.ne_of_not_mem_cons hother)⟩
      rw [Entries.slot] at hslot
      split_ifs at hslot with hspecial hlong
      · cases hslot
      · refine content?_of_slot_ne (r := .ok .empty) ?_ (by simp)
        change Entries.slot (Entries.erase name entries) name = .ok .empty
        rw [Entries.slot, if_neg hspecial, if_neg hlong, Entries.find?_erase_self]

/-- What is read is what the file holds, and nothing is read where no file is. -/
theorem answer_read (folder : Folder) (name : String) :
    (answer (.read name) folder).2 = folder ∧
      ∀ content, (answer (.read name) folder).1 = .ok content ↔ folder.content? name = some content := by
  refine ⟨rfl, fun content => ?_⟩
  cases hs : folder.slot name with
  | error fault =>
    rw [content?_of_slot_ne hs (by simp)]
    simp [answer, hs, bind, Except.bind]
  | ok s =>
    cases s with
    | file content =>
      rw [content?_of_slot hs]
      simp [answer, hs, bind, Except.bind]
    | _ =>
      rw [content?_of_slot_ne hs (by simp)]
      simp [answer, hs, bind, Except.bind]

theorem answer_probe (folder : Folder) (name : String) :
    (answer (.probe name) folder).2 = folder ∧
      ((answer (.probe name) folder).1 = .ok false → folder.content? name = none) := by
  refine ⟨rfl, fun h => ?_⟩
  cases hs : folder.slot name with
  | error fault => exact content?_of_slot_ne hs (by simp)
  | ok s =>
    cases s with
    | file content => simp [answer, hs] at h
    | _ => exact content?_of_slot_ne hs (by simp)

end Folder

end Dashboards.Files
