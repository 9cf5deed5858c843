import Dashboards.Proofs.Files.Folder
import Mathlib

/-!
# What stands under the names of a folder

* `Entries.erase_set_self` : an entry that is put in place and erased again;
* `Folder.node?` : the file or folder under a name (`content?_congr`, `target_of_content?`);
* `Folder.opened?` : the entries of a folder once it is made (`node?_of_opened?`);
* `answer_write_eq`, `answer_rename_eq` : writing and moving, by what `Folder.target` allows
  (`target_set_of_ne`); `answer_remove_eq` : removing;
* `target_of_probe`, `node?_of_probe` : where probing found nothing;
* `Entries.isSome_find?_iff`, `Entries.map_fst_set` : names of entries; `Folder.names` : each stands for
  one entry (`Entries.nodup_set`, `Entries.nodup_erase`);
* `find?_filter`, `filter_set_of_pos`, `filter_set_of_neg`, `filter_erase` : the entries whose names are of
  one kind.
-/

namespace Dashboards.Files

theorem Entries.erase_set_self {name : String} {node : Node} {entries : Entries} :
    (entries.set name node).erase name = entries.erase name := by
  induction entries with
  | nil => simp [Entries.set, Entries.erase]
  | cons entry rest ih =>
    obtain ⟨n, old⟩ := entry
    simp only [Entries.erase, ne_eq, decide_not] at ih
    by_cases hn : n = name
    · simp [Entries.set, Entries.erase, hn]
    · simp [Entries.set, Entries.erase, hn, ih]

theorem Entries.find?_eq_none_of_not_mem {name : String} {entries : Entries} (h : name ∉ entries.map (·.1)) :
    entries.find? name = none := by
  induction entries with
  | nil => rfl
  | cons entry rest ih =>
    obtain ⟨n, node⟩ := entry
    rw [List.map_cons, List.mem_cons, not_or] at h
    exact (if_neg (Ne.symm h.1)).trans (ih h.2)

/-! ## Names -/

namespace Entries

variable {name : String} {node : Node} {entries : Entries}

theorem isSome_find?_iff : (entries.find? name).isSome ↔ name ∈ entries.map (·.1) := by
  induction entries with
  | nil => simp [find?]
  | cons entry rest ih =>
    obtain ⟨n, old⟩ := entry
    rw [find?]
    split_ifs with hn
    · simp [hn]
    · simp [ih, Ne.symm hn]

/-- A new name goes behind all others. -/
theorem map_fst_set : (entries.set name node).map (·.1) =
    if name ∈ entries.map (·.1) then entries.map (·.1) else entries.map (·.1) ++ [name] := by
  induction entries with
  | nil => simp [set]
  | cons entry rest ih =>
    obtain ⟨n, old⟩ := entry
    rw [set]
    split_ifs with hn hmem
    · simp [hn]
    · simp [hn] at hmem
    · simp_all [Ne.symm hn]
    · simp_all [Ne.symm hn]

theorem nodup_set (h : (entries.map (·.1)).Nodup) : ((entries.set name node).map (·.1)).Nodup := by
  rw [map_fst_set]
  split_ifs with hmem
  · exact h
  · exact h.append (List.nodup_singleton name) (by simpa using hmem)

theorem nodup_erase (h : (entries.map (·.1)).Nodup) : ((entries.erase name).map (·.1)).Nodup :=
  h.sublist (List.filter_sublist.map _)

/-! ### Entries whose names are of one kind -/

section Filter

variable {p : String → Bool}

theorem find?_filter (h : p name) : Entries.find? name (entries.filter fun e => p e.1) = entries.find? name := by
  induction entries with
  | nil => rfl
  | cons entry rest ih =>
    obtain ⟨n, old⟩ := entry
    by_cases hn : n = name
    · subst hn
      simp [find?, h]
    · by_cases hp : p n <;> simp [find?, hn, hp, ih]

theorem filter_set_of_pos (h : p name) :
    (entries.set name node).filter (fun e => p e.1) = Entries.set name node (entries.filter fun e => p e.1) := by
  induction entries with
  | nil => simp [set, h]
  | cons entry rest ih =>
    obtain ⟨n, old⟩ := entry
    by_cases hn : n = name
    · subst hn
      simp [set, h]
    · by_cases hp : p n <;> simp [set, hn, hp, ih]

theorem filter_set_of_neg (h : p name = false) :
    (entries.set name node).filter (fun e => p e.1) = entries.filter fun e => p e.1 := by
  induction entries with
  | nil => simp [set, h]
  | cons entry rest ih =>
    obtain ⟨n, old⟩ := entry
    by_cases hn : n = name
    · subst hn
      simp [set, h]
    · by_cases hp : p n <;> simp [set, hn, hp, ih]

theorem filter_erase :
    (entries.erase name).filter (fun e => p e.1) = Entries.erase name (entries.filter fun e => p e.1) :=
  List.filter_comm _ _ _

theorem filter_erase_of_neg (h : p name = false) :
    (entries.erase name).filter (fun e => p e.1) = entries.filter fun e => p e.1 := by
  unfold erase
  rw [List.filter_filter]
  refine List.filter_congr fun e _ => ?_
  by_cases he : e.1 = name <;> simp [he, h]

end Filter

end Entries

namespace Folder

variable {folder folder' : Folder} {entries : Entries} {name : String}

/-! ## Entries of a folder -/

/-- The names of the entries. -/
def names : Folder → List String
  | .present entries => entries.map (·.1)
  | _ => []

/-- What stands under a name. -/
def node? (folder : Folder) (name : String) : Option Node :=
  match folder with
  | .present entries => entries.find? name
  | _ => none

/-- The entries of the folder once it is made. -/
def opened? : Folder → Option Entries
  | .missing => some []
  | .blocked _ => none
  | .present entries => some entries

theorem node?_of_opened? (h : folder.opened? = some entries) (name : String) :
    folder.node? name = entries.find? name := by
  cases folder with
  | missing =>
    obtain rfl := Option.some.inj h
    rfl
  | blocked fault => cases h
  | present es =>
    obtain rfl := Option.some.inj h
    rfl

theorem answer_make_of_opened? (h : folder.opened? = some entries) :
    answer .make folder = (.ok (), .present entries) := by
  cases folder with
  | missing =>
    obtain rfl := Option.some.inj h
    rfl
  | blocked fault => cases h
  | present es =>
    obtain rfl := Option.some.inj h
    rfl

theorem eq_present_of_target (h : folder.target name = .ok ()) : ∃ entries, folder = .present entries := by
  cases folder with
  | present entries => exact ⟨entries, rfl⟩
  | missing => cases h
  | blocked fault => cases h

theorem content?_eq_none_of_node? (h : folder.node? name = none) : folder.content? name = none := by
  cases folder with
  | missing => rfl
  | blocked fault => rfl
  | present entries =>
    have hfind : entries.find? name = none := h
    simp only [content?, slot, Entries.slot, hfind]
    split_ifs <;> rfl

theorem mem_of_content? {content : ByteArray} (h : (present entries).content? name = some content) :
    name ∈ entries.map (·.1) := by
  by_contra hnot
  have hnode : (present entries).node? name = none := Entries.find?_eq_none_of_not_mem hnot
  rw [content?_eq_none_of_node? hnode] at h
  cases h

/-- The bytes under a name are told by its entry. -/
theorem content?_congr (h : folder'.node? name = folder.node? name) :
    folder'.content? name = folder.content? name := by
  cases hnode : folder.node? name with
  | none => rw [content?_eq_none_of_node? (h.trans hnode), content?_eq_none_of_node? hnode]
  | some node =>
    cases folder with
    | missing => cases hnode
    | blocked fault => cases hnode
    | present entries =>
      cases folder' with
      | missing => cases h.trans hnode
      | blocked fault => cases h.trans hnode
      | present entries' =>
        have hslot : entries'.slot name = entries.slot name := Entries.slot_congr h
        simp only [content?, slot, hslot]

/-- A file takes the place of its name, and its name is no longer than names may be. -/
theorem slot_of_content? {content : ByteArray} (h : folder.content? name = some content) :
    folder.slot name = .ok (.file content) := by
  unfold content? at h
  split at h
  · next content' hslot =>
    obtain rfl := Option.some.inj h
    exact hslot
  · cases h

theorem target_of_content? {content : ByteArray} (h : folder.content? name = some content) :
    folder.target name = .ok () := by
  unfold target
  rw [slot_of_content? h]

/-- Names that are too long have no slot. -/
theorem size_of_slot {s : Slot} (h : folder.slot name = .ok s) : name.utf8ByteSize ≤ nameLimit := by
  obtain ⟨entries, -, hslot⟩ := exists_present_of_slot h
  unfold Entries.slot at hslot
  split_ifs at hslot with hspecial hlong
  · simp only [Bool.or_eq_true, decide_eq_true_eq] at hspecial
    rcases hspecial with (rfl | rfl) | rfl <;> decide
  · exact not_lt.mp hlong

/-! ## Writing and moving -/

theorem exists_slot_of_target (h : folder.target name = .ok ()) : ∃ s, folder.slot name = .ok s ∧ s ≠ .folder := by
  unfold target at h
  split at h
  · cases h
  · cases h
  · next s hnot hslot => exact ⟨s, hslot, fun hs => hnot (by rw [← hs])⟩

/-- A file that may stand under a name does so once it is put there. -/
theorem slot_set_of_target (h : (present entries).target name = .ok ()) (content : ByteArray) :
    (present (entries.set name (.file content))).slot name = .ok (.file content) := by
  obtain ⟨s, hslot, hs⟩ := exists_slot_of_target h
  exact Entries.slot_set_self hslot hs content

theorem target_set_of_ne {other : String} (h : name ≠ other) (node : Node) :
    (present (entries.set other node)).target name = (present entries).target name := by
  have hslot : (entries.set other node).slot name = entries.slot name := Entries.slot_congr (Entries.find?_set_of_ne h)
  simp only [target, slot, hslot]

theorem answer_write_eq (folder : Folder) (name : String) (content : ByteArray) :
    answer (.write name content) folder =
      match folder.target name with
      | .ok () => (.ok (), folder.mapEntries (·.set name (.file content)))
      | .error fault => (.error fault, folder) := by
  unfold target
  cases hs : folder.slot name with
  | error fault => simp only [answer, hs]
  | ok s => cases s <;> simp only [answer, hs]

theorem answer_rename_eq {source : String} {content : ByteArray} (h : folder.slot source = .ok (.file content))
    (name : String) :
    answer (.rename source name) folder =
      match folder.target name with
      | .ok () => (.ok (), folder.mapEntries fun entries => (entries.erase source).set name (.file content))
      | .error fault => (.error fault, folder) := by
  cases ht : folder.target name <;> simp only [answer, h, ht]

theorem answer_remove_eq (folder : Folder) (name : String) :
    (∃ fault, answer (.remove name) folder = (.error fault, folder)) ∨
    ∃ entries, folder = .present entries ∧ answer (.remove name) folder = (.ok (), .present (entries.erase name)) := by
  cases hs : folder.slot name with
  | error fault =>
    left
    refine ⟨fault, ?_⟩
    simp only [answer, hs]
  | ok s =>
    cases s with
    | file content =>
      obtain ⟨entries, rfl, -⟩ := exists_present_of_slot hs
      right
      refine ⟨entries, rfl, ?_⟩
      simp only [answer, hs, mapEntries]
    | empty =>
      left
      refine ⟨.notFound, ?_⟩
      simp only [answer, hs]
    | folder =>
      left
      refine ⟨.isDirectory, ?_⟩
      simp only [answer, hs]

/-! ## Where no file is -/

/-- A name that is missing from a folder is an empty slot of it, no fault. -/
theorem slot_ne_notFound (entries : Entries) (name : String) : entries.slot name ≠ .error .notFound := by
  intro h
  unfold Entries.slot at h
  split_ifs at h
  · cases h
  · split at h <;> cases h

/-- Where nothing was found by probing, a file can be put, if a folder is there at all. -/
theorem slot_of_probe (h : (answer (.probe name) (.present entries)).1 = .ok false) :
    (present entries).slot name = .ok .empty := by
  cases hs : (present entries).slot name with
  | error fault =>
    cases fault with
    | notFound => exact absurd hs (slot_ne_notFound entries name)
    | _ => simp [answer, hs] at h
  | ok s =>
    cases s with
    | empty => rfl
    | _ => simp [answer, hs] at h

theorem target_of_probe (h : (answer (.probe name) (.present entries)).1 = .ok false) :
    (present entries).target name = .ok () := by
  unfold target
  rw [slot_of_probe h]

theorem node?_of_probe (h : (answer (.probe name) folder).1 = .ok false) : folder.node? name = none := by
  cases folder with
  | missing => rfl
  | blocked fault => rfl
  | present entries =>
    have hslot : entries.slot name = .ok .empty := slot_of_probe h
    unfold Entries.slot at hslot
    split_ifs at hslot
    · cases hslot
    · split at hslot
      · assumption
      · cases hslot
      · cases hslot

end Folder

end Dashboards.Files
