import Dashboards.Proofs.Store.Backend
import Dashboards.Proofs.Store.Holding
import Mathlib

/-!
# Both kinds of stores answer alike

* `forgetId`, `forgetIds` : records and replies without identifiers;
* `Similar` : stores in memory that differ in identifiers only; `Similar.answer` : they stay so, and
  their replies differ in identifiers only;
* `exchanges`, `afterRequests` : requests with their replies, one after the other;
* `inOrder` : the uuids of stored records in the order in which they came; `map_uuid_answer`;
* `Request.Fits` : a request that a folder can serve;
* `Holds.exchanges_renumbered` : requests to a folder that holds records, as long as there are
  identifiers left;
* `Alike` : a store in memory and a folder that hold the same records (`Alike.answer`);
* `stores_agree` : whatever is asked of both.
-/

namespace Dashboards.Store

open Files (Folder)

/-! ## Without identifiers -/

def forgetId (r : Record) : Record := { r with id := 0 }

/-- A reply without the identifiers in it. -/
def forgetIds : (q : Request) → Reply q → Reply q
  | .fetchAll, reply => reply.map (·.map forgetId)
  | .fetchOne _, reply => reply.map (·.map forgetId)
  | .insert _, reply => reply.map fun _ => 0
  | .update _, reply => reply
  | .delete _, reply => reply
  | .setLocked _ _, reply => reply

/-- Stores that hold the same records in the same order, identifiers apart. -/
def Similar (m m' : Memory) : Prop := m.records.map forgetId = m'.records.map forgetId

section Similar

variable {m m' : Memory}

theorem find?_map_forgetId (uuid : String) (records : List Record) :
    (records.map forgetId).find? (·.uuid = uuid) = (records.find? (·.uuid = uuid)).map forgetId :=
  List.find?_map

theorem Similar.find? (h : Similar m m') (uuid : String) :
    (m.find? uuid).map forgetId = (m'.find? uuid).map forgetId := by
  rw [Memory.find?, Memory.find?, ← find?_map_forgetId, ← find?_map_forgetId, h]

theorem Similar.isSome_find? (h : Similar m m') (uuid : String) :
    (m.find? uuid).isSome = (m'.find? uuid).isSome := by
  have := congrArg Option.isSome (h.find? uuid)
  rwa [Option.isSome_map, Option.isSome_map] at this

theorem map_modifyFirst_forgetId {change : Record → Record}
    (hchange : ∀ r, forgetId (change r) = change (forgetId r)) (uuid : String) (records : List Record) :
    (Memory.modifyFirst uuid change records).map forgetId =
      Memory.modifyFirst uuid change (records.map forgetId) := by
  induction records with
  | nil => rfl
  | cons r rest ih =>
    have huuid : (forgetId r).uuid = r.uuid := rfl
    rw [Memory.modifyFirst, List.map_cons, Memory.modifyFirst, huuid]
    split_ifs
    · rw [List.map_cons, hchange]
    · rw [List.map_cons, ih]

theorem Similar.modify (h : Similar m m') (change : Record → Record)
    (hchange : ∀ r, forgetId (change r) = change (forgetId r)) (uuid : String) :
    (m.modify uuid change).1 = (m'.modify uuid change).1 ∧
      Similar (m.modify uuid change).2 (m'.modify uuid change).2 := by
  rw [Memory.modify, Memory.modify, ← h.isSome_find? uuid]
  split_ifs
  · refine ⟨rfl, ?_⟩
    rw [Similar, map_modifyFirst_forgetId hchange, map_modifyFirst_forgetId hchange, h]
  · exact ⟨rfl, h⟩

theorem Similar.append (h : Similar m m') (r : Record) : Similar (m.append r) (m'.append r) := by
  rw [Similar, Memory.append, Memory.append, List.map_append, List.map_append, h]
  rfl

theorem Similar.without (h : Similar m m') (uuid : String) : Similar (m.without uuid) (m'.without uuid) := by
  have hfilter : ∀ records : List Record, (records.filter (·.uuid ≠ uuid)).map forgetId =
      (records.map forgetId).filter (·.uuid ≠ uuid) := fun records => by
    rw [List.filter_map]
    rfl
  rw [Similar, Memory.without, Memory.without, hfilter, hfilter, h]

/-- Similar stores reply alike and stay similar. -/
theorem Similar.answer (h : Similar m m') (q : Request) :
    forgetIds q (m.answer q).1 = forgetIds q (m'.answer q).1 ∧ Similar (m.answer q).2 (m'.answer q).2 := by
  cases q with
  | fetchAll => exact ⟨congrArg Except.ok h, h⟩
  | fetchOne uuid => exact ⟨congrArg Except.ok (h.find? uuid), h⟩
  | insert record =>
    rw [Memory.answer, Memory.answer, ← h.isSome_find? record.uuid]
    split_ifs
    · exact ⟨rfl, h⟩
    · exact ⟨rfl, h.append record⟩
  | update record =>
    obtain ⟨hfound, hsimilar⟩ := h.modify (·.withChange record) (fun _ => rfl) record.uuid
    exact ⟨congrArg Except.ok hfound, hsimilar⟩
  | delete uuid => exact ⟨congrArg Except.ok (h.isSome_find? uuid), h.without uuid⟩
  | setLocked uuid locked =>
    obtain ⟨hfound, hsimilar⟩ := h.modify (·.withLock locked) (fun _ => rfl) uuid
    exact ⟨congrArg Except.ok hfound, hsimilar⟩

end Similar

/-! ## The order of insertion -/

/-- The uuids after a request: a new one goes behind all others. -/
def inOrder (uuids : List String) : Request → List String
  | .insert record => if record.uuid ∈ uuids then uuids else uuids ++ [record.uuid]
  | .delete uuid => uuids.filter (· ≠ uuid)
  | _ => uuids

theorem isSome_find?_iff (m : Memory) (uuid : String) :
    (m.find? uuid).isSome ↔ uuid ∈ m.records.map (·.uuid) := by
  rw [Memory.find?, List.find?_isSome, List.mem_map]
  simp

theorem map_uuid_modify (m : Memory) (uuid : String) {change : Record → Record}
    (hchange : ∀ r, (change r).uuid = r.uuid) :
    (m.modify uuid change).2.records.map (·.uuid) = m.records.map (·.uuid) := by
  rw [Memory.modify]
  split_ifs
  · exact Memory.map_modifyFirst hchange uuid m.records
  · rfl

theorem map_uuid_answer (m : Memory) (q : Request) :
    (m.answer q).2.records.map (·.uuid) = inOrder (m.records.map (·.uuid)) q := by
  cases q with
  | fetchAll => rfl
  | fetchOne uuid => rfl
  | insert record =>
    rw [Memory.answer, inOrder]
    by_cases hfound : (m.find? record.uuid).isSome
    · rw [if_pos hfound, if_pos ((isSome_find?_iff m record.uuid).mp hfound)]
    · rw [if_neg hfound, if_neg fun h => hfound ((isSome_find?_iff m record.uuid).mpr h)]
      exact List.map_append
  | update record => exact map_uuid_modify m record.uuid fun _ => rfl
  | delete uuid =>
    rw [inOrder, List.filter_map]
    rfl
  | setLocked uuid locked => exact map_uuid_modify m uuid fun _ => rfl

/-! ## Runs -/

/-- The exchange without the identifiers in the reply. -/
def Exchange.forgetIds (e : Exchange) : Exchange := ⟨e.request, Store.forgetIds e.request e.reply⟩

/-- Requests with their replies, one after the other. -/
def exchanges : List Request → Backend → List Exchange
  | [], _ => []
  | q :: requests, b => ⟨q, (b.answer q).1⟩ :: exchanges requests (b.answer q).2

def afterRequests : List Request → Backend → Backend
  | [], b => b
  | q :: requests, b => afterRequests requests (b.answer q).2

/-- A request that a folder can serve: times of the calendar, and a uuid that files can be named
after. -/
structure Request.Fits (q : Request) : Prop where
  timely : q.Timely
  key : ∀ uuid ∈ q.uuid?, Directory.isKey uuid ∧ Directory.Short uuid

instance (q : Request) : Decidable q.Fits :=
  decidable_of_iff (q.Timely ∧ ∀ uuid ∈ q.uuid?, Directory.isKey uuid ∧ Directory.Short uuid)
    ⟨fun ⟨htimely, hkey⟩ => ⟨htimely, hkey⟩, fun ⟨htimely, hkey⟩ => ⟨htimely, hkey⟩⟩

/-! ## Runs in a folder -/

namespace Directory

variable {stored : List Record} {folder : Folder} {n : Nat}

theorem greatestId_le (h : ∀ r ∈ stored, r.id ≤ n) : greatestId stored ≤ n := by
  unfold greatestId
  cases hlast : stored.getLast? with
  | none => exact n.cast_nonneg
  | some r => exact h r (List.mem_of_getLast? hlast)

/-- A request gives no identifier beyond the next one. -/
theorem id_answer_le (h : ∀ r ∈ stored, r.id ≤ n) (q : Request) :
    ∀ r ∈ ((memoryOf stored).answer q).2.records, r.id ≤ (n + 1 : Nat) := by
  have hnext : ∀ r ∈ stored, r.id ≤ (n + 1 : Nat) := fun r hr => (h r hr).trans (by simp)
  have hmodify : ∀ (uuid : String) {change : Record → Record}, (∀ r, (change r).id = r.id) →
      ∀ r ∈ ((memoryOf stored).modify uuid change).2.records, r.id ≤ (n + 1 : Nat) := by
    intro uuid change hid
    rw [Memory.modify]
    split_ifs
    · exact Memory.forall_modifyFirst (fun r hr => by rwa [hid]) hnext
    · exact hnext
  cases q with
  | fetchAll => exact hnext
  | fetchOne uuid => exact hnext
  | insert record =>
    rw [Memory.answer]
    split_ifs
    · exact hnext
    · refine List.forall_mem_append.mpr ⟨hnext, List.forall_mem_singleton.mpr ?_⟩
      have hgreatest := greatestId_le h
      change greatestId stored + 1 ≤ _
      push_cast
      omega
  | update record => exact hmodify record.uuid fun _ => rfl
  | delete uuid => exact fun r hr => hnext r (List.mem_of_mem_filter hr)
  | setLocked uuid locked => exact hmodify uuid fun _ => rfl

/-- Requests to a folder that holds these records: each reply is that of a store in memory that goes
on numbering behind the last record that is left. -/
def renumbered : List Request → List Record → List Exchange
  | [], _ => []
  | q :: requests, stored =>
    ⟨q, ((memoryOf stored).answer q).1⟩ :: renumbered requests ((memoryOf stored).answer q).2.records

/-- As long as there are identifiers left for all of the requests, every reply can be read back. -/
theorem Holds.exchanges_renumbered (root : String) {requests : List Request} (hfits : ∀ q ∈ requests, q.Fits)
    (h : Holds stored folder) (hids : ∀ r ∈ stored, r.id ≤ n) (hroom : n + requests.length ≤ greatestReadable) :
    Store.exchanges requests (.directory root folder) = renumbered requests stored ∧
      ∀ e ∈ Store.exchanges requests (.directory root folder), ReadableReply e.request e.reply := by
  induction requests generalizing stored folder n with
  | nil => exact ⟨rfl, fun _ he => absurd he List.not_mem_nil⟩
  | cons q requests ih =>
    rw [List.length_cons] at hroom
    push_cast at hroom
    have hq := hfits q List.mem_cons_self
    have hgreatest := greatestId_le hids
    have hreadable := h.readableReply root hq.key (by omega)
    obtain ⟨hreply, hnext⟩ := h.answers root hq.timely hq.key hreadable
    obtain ⟨hrest, hreadables⟩ := ih (fun q' hq' => hfits q' (List.mem_cons_of_mem q hq')) hnext
      (id_answer_le hids q) (by push_cast; omega)
    refine ⟨?_, List.forall_mem_cons.mpr ⟨hreadable, hreadables⟩⟩
    exact congrArg₂ List.cons (congrArg (Exchange.mk q) hreply) hrest

end Directory

/-! ## Both of them -/

/-- A store in memory and a folder that hold the same records in the same order. -/
def Alike (m : Memory) (folder : Folder) : Prop :=
  ∃ stored, Directory.Holds stored folder ∧ Similar m (Directory.memoryOf stored)

theorem Alike.empty {folder : Folder} (h : folder = .missing ∨ folder = .present []) : Alike .empty folder := by
  rcases h with rfl | rfl
  · exact ⟨[], .missing, rfl⟩
  · exact ⟨[], .empty, rfl⟩

/-- They reply alike and stay alike. -/
theorem Alike.answer {m : Memory} {folder : Folder} (h : Alike m folder) (root : String) {q : Request} (hq : q.Fits)
    (hreadable : Directory.ReadableReply q (Directory.handle root q folder).1) :
    forgetIds q (m.answer q).1 = forgetIds q (Directory.handle root q folder).1 ∧
      Alike (m.answer q).2 (Directory.handle root q folder).2 := by
  obtain ⟨stored, hholds, hsimilar⟩ := h
  obtain ⟨hreply, hholds'⟩ := hholds.answers root hq.timely hq.key hreadable
  obtain ⟨hsame, hsimilar'⟩ := hsimilar.answer q
  rw [hreply]
  exact ⟨hsame, _, hholds', hsimilar'⟩

/-- What all of the records are, in memory and in the folder. -/
theorem Alike.fetchAll {m : Memory} {folder : Folder} (h : Alike m folder) (root : String) :
    ∃ records, (Directory.handle root .fetchAll folder).1 = .ok records ∧
      records.map (·.uuid) = m.records.map (·.uuid) := by
  obtain ⟨stored, hholds, hsimilar⟩ := h
  refine ⟨stored, congrArg Prod.fst (hholds.readAll root), ?_⟩
  have huuids := congrArg (List.map (·.uuid)) hsimilar
  rw [List.map_map, List.map_map] at huuids
  exact huuids.symm

theorem exchanges_agree (root : String) {requests : List Request} (hfits : ∀ q ∈ requests, q.Fits) :
    ∀ {m : Memory} {folder : Folder}, Alike m folder →
      (∀ e ∈ exchanges requests (.directory root folder), Directory.ReadableReply e.request e.reply) →
      (exchanges requests (.memory m)).map (·.forgetIds) =
          (exchanges requests (.directory root folder)).map (·.forgetIds) ∧
        ∃ m' folder', afterRequests requests (.memory m) = .memory m' ∧
          afterRequests requests (.directory root folder) = .directory root folder' ∧ Alike m' folder' ∧
          m'.records.map (·.uuid) = requests.foldl inOrder (m.records.map (·.uuid)) := by
  induction requests with
  | nil => exact fun {m folder} h _ => ⟨rfl, m, folder, rfl, rfl, h, rfl⟩
  | cons q requests ih =>
    intro m folder h hreadable
    obtain ⟨hreply, hnext⟩ := h.answer root (hfits q List.mem_cons_self) (hreadable _ List.mem_cons_self)
    obtain ⟨hrest, m', folder', hm', hfolder', halike, huuids⟩ :=
      ih (fun q' hq' => hfits q' (List.mem_cons_of_mem q hq')) hnext
        fun e he => hreadable e (List.mem_cons_of_mem _ he)
    refine ⟨?_, m', folder', hm', hfolder', halike, ?_⟩
    · have hfirst : Exchange.forgetIds ⟨q, (m.answer q).1⟩ =
          Exchange.forgetIds ⟨q, (Directory.handle root q folder).1⟩ := congrArg (Exchange.mk q) hreply
      exact congrArg₂ List.cons hfirst hrest
    · rw [huuids, map_uuid_answer]
      rfl

/-- Whatever is asked of an empty store in memory and of an empty folder, the replies are the same up
to identifiers, and all records come in the order in which they were inserted. -/
theorem stores_agree (root : String) {folder : Folder} (hempty : folder = .missing ∨ folder = .present [])
    {requests : List Request} (hfits : ∀ q ∈ requests, q.Fits)
    (hreadable : ∀ e ∈ exchanges requests (.directory root folder), Directory.ReadableReply e.request e.reply) :
    (exchanges requests (.memory .empty)).map (·.forgetIds) =
        (exchanges requests (.directory root folder)).map (·.forgetIds) ∧
      (∃ records, ((afterRequests requests (.memory .empty)).answer .fetchAll).1 = .ok records ∧
        records.map (·.uuid) = requests.foldl inOrder []) ∧
      ∃ records, ((afterRequests requests (.directory root folder)).answer .fetchAll).1 = .ok records ∧
        records.map (·.uuid) = requests.foldl inOrder [] := by
  obtain ⟨hexchanges, m', folder', hm', hfolder', halike, huuids⟩ :=
    exchanges_agree root hfits (.empty hempty) hreadable
  obtain ⟨records, hrecords, hsame⟩ := halike.fetchAll root
  refine ⟨hexchanges, ?_, ?_⟩
  · rw [hm']
    exact ⟨m'.records, rfl, huuids⟩
  · rw [hfolder']
    exact ⟨records, hrecords, hsame.trans huuids⟩

def someRecord : Record := Record.fresh "u" "t" none .newYear

/-- Two records are inserted, the first one is changed, locked and shown; the second one is deleted and
another one inserted. -/
def someRequests : List Request :=
  [.insert someRecord, .insert { someRecord with uuid := "v" }, .update { someRecord with data := "d" },
    .setLocked "u" true, .fetchOne "u", .delete "v", .insert { someRecord with uuid := "w" }, .fetchAll]

theorem someRequests_fit : ∀ q ∈ someRequests, q.Fits := by decide

/-- Both kinds of stores agree on them. -/
theorem someRequests_agree :
    (∀ q ∈ someRequests, q.Fits) ∧
    (∀ e ∈ exchanges someRequests (.directory "r" .missing), Directory.ReadableReply e.request e.reply) ∧
    (exchanges someRequests (.memory .empty)).map (·.forgetIds) =
        (exchanges someRequests (.directory "r" .missing)).map (·.forgetIds) ∧
    ∃ records, ((afterRequests someRequests (.directory "r" .missing)).answer .fetchAll).1 = .ok records ∧
      records.map (·.uuid) = ["u", "w"] := by
  have hreadable := (Directory.Holds.missing.exchanges_renumbered "r" someRequests_fit
    (n := 0) (fun _ h => absurd h List.not_mem_nil) (by decide)).2
  obtain ⟨hexchanges, -, hinOrder⟩ := stores_agree "r" (.inl rfl) someRequests_fit hreadable
  exact ⟨someRequests_fit, hreadable, hexchanges, hinOrder⟩

end Dashboards.Store
