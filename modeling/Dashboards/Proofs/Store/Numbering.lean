import Dashboards.Proofs.Store.Containment
import Dashboards.Proofs.Store.Sound
import Mathlib

/-!
# Identifiers that are given

A store in memory counts the records that it was given. A store in a folder gives a record the
identifier behind the greatest one that it holds, so an identifier comes again once the record that
had it is gone.

* `given`, `kept` : the identifiers that requests have given, and the records that were inserted and
  not deleted since;
* `Stored` : the uuids and identifiers of the records that are there; `Effect.stored` : a request
  changes them as it changes what is kept;
* `Memory.given_above` : in memory each identifier is above all that were given before;
* `Keyed` : files of records are named after keys; `Keyed.handle` : requests keep it so;
* `insert_next` : a folder gives the identifier behind the greatest that is stored;
* `NewestKept` : no record is inserted after the newest one was deleted;
* `given_ascending_iff` : identifiers ascend in any run in memory, and in a folder exactly if this
  holds (`deleted_id_comes_again`).
-/

namespace Dashboards.Store

/-! ## What requests have given -/

/-- The identifier that an exchange gives. -/
def Exchange.given? : Exchange → Option Int
  | ⟨.insert _, .ok id⟩ => some id
  | _ => none

/-- The identifiers that were given, one after the other. -/
def given (es : List Exchange) : List Int := es.filterMap Exchange.given?

/-- What an exchange does to the uuids and identifiers of the records that are kept. -/
def Exchange.amend (e : Exchange) (records : List (String × Int)) : List (String × Int) :=
  match e with
  | ⟨.insert record, .ok id⟩ => records ++ [(record.uuid, id)]
  | ⟨.delete uuid, .ok true⟩ => records.filter (·.1 ≠ uuid)
  | _ => records

/-- The uuids and identifiers of the records that were inserted and not deleted since. -/
def kept (es : List Exchange) : List (String × Int) := es.foldl (fun records e => e.amend records) []

/-- Only a successful insertion gives an identifier. -/
theorem Exchange.reply_of_given? {q : Request} {reply : Reply q} {id : Int} (h : Exchange.given? ⟨q, reply⟩ = some id) :
    ∃ record, ∃ hq : q = .insert record, hq ▸ reply = .ok id := by
  cases q with
  | insert record =>
    cases reply with
    | error failure => cases h
    | ok _ => exact ⟨record, rfl, congrArg Except.ok (Option.some.inj h)⟩
  | _ => cases h

theorem given_cons (e : Exchange) (es : List Exchange) : given (e :: es) = e.given?.toList ++ given es := by
  rw [given, List.filterMap_cons]
  cases e.given? <;> rfl

theorem given_concat (es : List Exchange) (e : Exchange) : given (es ++ [e]) = given es ++ e.given?.toList := by
  rw [given, given, List.filterMap_append]
  cases h : e.given? <;> simp [h]

theorem kept_concat (es : List Exchange) (e : Exchange) : kept (es ++ [e]) = e.amend (kept es) :=
  List.foldl_concat ..

theorem exchanges_concat (requests : List Request) (q : Request) (b : Backend) :
    exchanges (requests ++ [q]) b =
      exchanges requests b ++ [⟨q, ((afterRequests requests b).answer q).1⟩] := by
  induction requests generalizing b with
  | nil => rfl
  | cons q' requests ih => exact congrArg (List.cons _) (ih _)

theorem afterRequests_concat (requests : List Request) (q : Request) (b : Backend) :
    afterRequests (requests ++ [q]) b = ((afterRequests requests b).answer q).2 := by
  induction requests generalizing b with
  | nil => rfl
  | cons q' requests ih => exact ih _

/-- What is kept was given. -/
theorem mem_given_of_kept {es : List Exchange} {record : String × Int} (h : record ∈ kept es) :
    record.2 ∈ given es := by
  induction es using List.reverseRecOn with
  | nil => cases h
  | append_singleton es e ih =>
    rw [given_concat, List.mem_append]
    rw [kept_concat] at h
    unfold Exchange.amend at h
    split at h
    · rcases List.mem_append.mp h with h | h
      · exact .inl (ih h)
      · obtain rfl := List.mem_singleton.mp h
        exact .inr (List.mem_singleton_self _)
    · exact .inl (ih (List.mem_filter.mp h).1)
    · exact .inl (ih h)

/-! ## What is stored -/

section Stored

variable {v v' : View} {records : List (String × Int)}

/-- These are the uuids and identifiers of the records that are there. -/
def Stored (v : View) (records : List (String × Int)) : Prop :=
  ∀ uuid id, (uuid, id) ∈ records ↔ ∃ record, v uuid = some record ∧ record.id = id

theorem Stored.modified {uuid : String} {change : Record → Record} {reply : Except StoreFailure Bool}
    (h : Stored v records) (hmodified : Modified uuid change reply v v') (hid : ∀ r, (change r).id = r.id) :
    Stored v' records := by
  rcases hmodified.eq_or with rfl | ⟨stored, -, hstored, rfl⟩
  · exact h
  · intro other id
    rw [h other id]
    by_cases hother : other = uuid
    · subst hother
      rw [Function.update_self, hstored]
      constructor
      · rintro ⟨record, hrecord, rfl⟩
        obtain rfl := Option.some.inj hrecord
        exact ⟨_, rfl, hid stored⟩
      · rintro ⟨record, hrecord, rfl⟩
        obtain rfl := Option.some.inj hrecord
        exact ⟨stored, rfl, (hid stored).symm⟩
    · rw [Function.update_of_ne hother]

theorem Stored.deleted (h : Stored v records) (uuid : String) :
    Stored (Function.update v uuid none) (records.filter (·.1 ≠ uuid)) := by
  intro other id
  rw [List.mem_filter, h other id]
  by_cases hother : other = uuid
  · subst hother
    simp
  · rw [Function.update_of_ne hother]
    simp [hother]

theorem Stored.inserted (h : Stored v records) {record : Record} (hfree : v record.uuid = none) (id : Int) :
    Stored (Function.update v record.uuid (some { record with id })) (records ++ [(record.uuid, id)]) := by
  intro other id'
  rw [List.mem_append, List.mem_singleton, h other id', Prod.mk.injEq]
  by_cases hother : other = record.uuid
  · subst hother
    rw [Function.update_self, hfree]
    simp [eq_comm]
  · rw [Function.update_of_ne hother]
    simp [hother]

/-- A request changes the records that are there as it changes those that are kept. -/
theorem Effect.stored {q : Request} {reply : Reply q} (heffect : Effect q reply v v')
    (hreadable : Directory.ReadableReply q reply) (h : Stored v records) :
    Stored v' (Exchange.amend ⟨q, reply⟩ records) := by
  cases q with
  | fetchAll =>
    obtain rfl := heffect
    exact h
  | fetchOne uuid =>
    obtain rfl := heffect.1
    exact h
  | insert record =>
    cases reply with
    | error failure =>
      obtain rfl := heffect
      exact h
    | ok id =>
      obtain ⟨hfree, rfl | ⟨hlarge, -⟩⟩ := heffect
      · exact h.inserted hfree id
      · exact absurd hreadable (not_le.mpr hlarge)
  | update record =>
    have hmodified : Modified record.uuid (·.withChange record) reply v v' := heffect
    exact h.modified hmodified fun _ => rfl
  | delete uuid =>
    rcases reply with failure | _ | _
    · obtain rfl := heffect
      exact h
    · obtain ⟨-, rfl⟩ := heffect
      exact h
    · obtain rfl := heffect
      exact h.deleted uuid
  | setLocked uuid locked =>
    have hmodified : Modified uuid (·.withLock locked) reply v v' := heffect
    exact h.modified hmodified fun _ => rfl

end Stored

/-! ## In memory -/

/-- Only an insertion moves the counter, to the identifier that it gives. -/
theorem Memory.lastId_answer (m : Memory) (q : Request) :
    (m.answer q).2.lastId = m.lastId ∧ Exchange.given? ⟨q, (m.answer q).1⟩ = none ∨
      (m.answer q).2.lastId = m.lastId + 1 ∧ Exchange.given? ⟨q, (m.answer q).1⟩ = some (m.lastId + 1) := by
  have hmodify : ∀ uuid change, (m.modify uuid change).2.lastId = m.lastId := by
    intro uuid change
    unfold Memory.modify
    split_ifs <;> rfl
  cases q with
  | insert record =>
    rw [Memory.answer]
    split_ifs
    · exact .inl ⟨rfl, rfl⟩
    · exact .inr ⟨rfl, rfl⟩
  | update record => exact .inl ⟨hmodify _ _, rfl⟩
  | setLocked uuid locked => exact .inl ⟨hmodify _ _, rfl⟩
  | fetchAll | fetchOne _ | delete _ => exact .inl ⟨rfl, rfl⟩

/-- In memory each identifier is above all that were given before. -/
theorem Memory.given_above (requests : List Request) (m : Memory) :
    (∀ id ∈ given (exchanges requests (.memory m)), m.lastId < id) ∧
      (given (exchanges requests (.memory m))).Pairwise (· < ·) := by
  induction requests generalizing m with
  | nil => exact ⟨fun _ h => absurd h List.not_mem_nil, .nil⟩
  | cons q requests ih =>
    obtain ⟨habove, hascending⟩ := ih (m.answer q).2
    have hsplit : given (exchanges (q :: requests) (.memory m)) =
        (Exchange.given? ⟨q, (m.answer q).1⟩).toList ++ given (exchanges requests (.memory (m.answer q).2)) :=
      given_cons _ _
    rw [hsplit]
    rcases m.lastId_answer q with ⟨hlast, hgiven⟩ | ⟨hlast, hgiven⟩
    · rw [hgiven, ← hlast]
      exact ⟨habove, hascending⟩
    · rw [hlast] at habove
      rw [hgiven, Option.toList_some, List.singleton_append, List.forall_mem_cons, List.pairwise_cons]
      refine ⟨⟨by omega, fun id hid => ?_⟩, habove, hascending⟩
      have := habove id hid
      omega

/-! ## In a folder -/

namespace Directory

open Files (Folder)

variable {folder : Folder}

/-- The files that may be those of records are named after keys. -/
def Keyed (folder : Folder) : Prop := ∀ name ∈ namesIn folder, ∃ uuid, isKey uuid ∧ name = recordName uuid

/-- The only names that requests bring into a folder are those of records and drafts of keys. -/
theorem Keyed.handle (h : Keyed folder) (root : String) (q : Request) : Keyed (Directory.handle root q folder).2 := by
  intro name hname
  by_cases hown : OwnName name
  · cases hown with
    | record hkey => exact ⟨_, hkey, rfl⟩
    | @draft uuid _ =>
      have hjson := (mem_namesIn_iff.mp hname).1
      rw [hasExtension_draftName] at hjson
      cases hjson
  · have hcontained : Contained [] (answer root q) := answer_contained q
    have hframe : (Directory.handle root q folder).2.node? name = folder.node? name := hcontained.frame hown
    rw [mem_namesIn_iff, hframe] at hname
    exact h name (mem_namesIn_iff.mpr hname)

/-- A folder gives the identifier behind the greatest one that is stored. -/
theorem insert_next (hsound : Sound folder) (hkeyed : Keyed folder) {root : String} {record : Record} {id : Int}
    (h : (handle root (.insert record) folder).1 = .ok id) :
    (∀ uuid r, view folder uuid = some r → r.id < id) ∧
      (id = 1 ∨ ∃ uuid r, view folder uuid = some r ∧ id = r.id + 1) := by
  rcases insert_cases root record folder with ⟨-, hfailed⟩ | ⟨records, hrecords, -, hrun⟩
  · exact absurd h (hfailed id)
  · rw [readAll_legible hsound.opened hsound.legible] at hrecords
    obtain rfl := Except.ok.inj hrecords
    have hid : id = greatestId (sortById (recordsIn folder)) + 1 := by
      rw [handle, answer, hrun] at h
      cases hwrite : ((writeRecord root { record with id := greatestId (sortById (recordsIn folder)) + 1 }).run
          Folder.answer folder).1 with
      | error failure =>
        rw [hwrite] at h
        cases h
      | ok _ =>
        rw [hwrite] at h
        exact (Except.ok.inj h).symm
    subst hid
    constructor
    · intro uuid r hr
      have hkey := isKey_of_view hr
      rw [view_of_isKey hkey] at hr
      obtain ⟨bytes, hbytes, -⟩ := Option.bind_eq_some_iff.mp hr
      have hmem : r ∈ recordsIn folder := List.mem_filterMap.mpr ⟨_, mem_namesIn hkey hbytes, hr⟩
      exact lt_greatestId_of_sorted (sortById_sorted _) r ((sortById_perm _).symm.subset hmem)
    · unfold greatestId
      cases hlast : (sortById (recordsIn folder)).getLast? with
      | none => exact .inl rfl
      | some r =>
        right
        have hmem := (sortById_perm _).subset (List.mem_of_getLast? hlast)
        obtain ⟨name, hname, hr⟩ := List.mem_filterMap.mp hmem
        obtain ⟨uuid, hkey, rfl⟩ := hkeyed name hname
        exact ⟨uuid, r, by rw [view_of_isKey hkey, hr], rfl⟩

end Directory

/-! ## Either kind of store -/

/-- Whenever a record was inserted, the one that was inserted last before it was still kept. -/
def NewestKept (es : List Exchange) : Prop :=
  ∀ before after e, es = before ++ e :: after → e.given?.isSome →
    ∀ newest ∈ (given before).getLast?, newest ∈ (kept before).map (·.2)

theorem newestKept_nil : NewestKept [] := fun before after e heq => by simp at heq

theorem newestKept_concat (es : List Exchange) (e : Exchange) :
    NewestKept (es ++ [e]) ↔ NewestKept es ∧
      (e.given?.isSome → ∀ newest ∈ (given es).getLast?, newest ∈ (kept es).map (·.2)) := by
  constructor
  · intro h
    refine ⟨fun before after e' heq => h before (after ++ [e]) e' ?_, h es [] e rfl⟩
    rw [heq, List.append_assoc, List.cons_append]
  · rintro ⟨hes, hlast⟩ before after e' heq
    rcases List.eq_nil_or_concat' after with rfl | ⟨after, last, rfl⟩
    · obtain ⟨rfl, hsame⟩ := List.append_inj' heq rfl
      obtain rfl := List.singleton_inj.mp hsame
      exact hlast
    · rw [← List.cons_append, ← List.append_assoc] at heq
      exact hes before after e' (List.append_inj' heq rfl).1

/-- An identifier behind the greatest that is kept is above all that were given exactly if the newest
of these is kept. -/
theorem above_all_iff {ids present : List Int} {id : Int} (hascending : ids.Pairwise (· < ·)) (hpositive : ∀ i ∈ ids, 1 ≤ i)
    (hgiven : ∀ i ∈ present, i ∈ ids) (habove : ∀ i ∈ present, i < id) (hnext : id = 1 ∨ ∃ i ∈ present, id = i + 1) :
    (∀ i ∈ ids, i < id) ↔ ∀ newest ∈ ids.getLast?, newest ∈ present := by
  rcases List.eq_nil_or_concat' ids with rfl | ⟨init, newest, rfl⟩
  · simp
  · obtain ⟨-, -, hnewest⟩ := List.pairwise_append.mp hascending
    have hle : ∀ i ∈ init ++ [newest], i ≤ newest := by
      intro i hi
      rcases List.mem_append.mp hi with hi | hi
      · exact (hnewest i hi newest (List.mem_singleton_self _)).le
      · exact (List.mem_singleton.mp hi).le
    rw [List.getLast?_concat]
    constructor
    · intro h newest' hnewest'
      obtain rfl := Option.some.inj hnewest'
      have hlt := h newest (by simp)
      have hpos := hpositive newest (by simp)
      rcases hnext with rfl | ⟨i, hi, rfl⟩
      · omega
      · have hile := hle i (hgiven i hi)
        rwa [show newest = i by omega]
    · intro h i hi
      exact lt_of_le_of_lt (hle i hi) (habove newest (h newest rfl))

/-- What holds of a folder after these exchanges with it. -/
structure Numbered (es : List Exchange) (folder : Files.Folder) : Prop where
  sound : Directory.Sound folder
  keyed : Directory.Keyed folder
  stored : Stored (Directory.view folder) (kept es)
  positive : ∀ id ∈ given es, 1 ≤ id

namespace Numbered

variable {es : List Exchange} {folder : Files.Folder} {root : String}

theorem fresh (hempty : folder = .missing ∨ folder = .present []) : Numbered [] folder := by
  have hnone : ∀ name, name ∉ Directory.namesIn folder := by
    rcases hempty with rfl | rfl <;> exact fun name h => by cases h
  have hview : Directory.view folder = fun _ => none := by
    rcases hempty with rfl | rfl
    · exact (Backend.Fresh.missing "").view_eq
    · exact (Backend.Fresh.present "").view_eq
  refine ⟨⟨?_, ?_, fun name h => absurd h (hnone name), fun name h => absurd h (hnone name), ?_⟩,
    fun name h => absurd h (hnone name), fun uuid id => ?_, fun _ h => by cases h⟩
  · rcases hempty with rfl | rfl <;> rfl
  · rcases hempty with rfl | rfl <;> exact .nil
  · rcases hempty with rfl | rfl <;> exact .nil
  · rw [hview]
    simp [kept]

/-- A new identifier is above all that were given exactly if the newest of these is kept. -/
theorem insert_above (h : Numbered es folder) (hascending : (given es).Pairwise (· < ·)) {record : Record} {id : Int}
    (hreply : (Directory.handle root (.insert record) folder).1 = .ok id) :
    (∀ earlier ∈ given es, earlier < id) ↔ ∀ newest ∈ (given es).getLast?, newest ∈ (kept es).map (·.2) := by
  obtain ⟨habove, hnext⟩ := Directory.insert_next h.sound h.keyed hreply
  refine above_all_iff hascending h.positive ?_ ?_ ?_
  · intro i hi
    obtain ⟨p, hp, rfl⟩ := List.mem_map.mp hi
    exact mem_given_of_kept hp
  · intro i hi
    obtain ⟨⟨uuid, i⟩, hp, rfl⟩ := List.mem_map.mp hi
    obtain ⟨r, hr, rfl⟩ := (h.stored uuid i).mp hp
    exact habove uuid r hr
  · refine hnext.imp_right ?_
    rintro ⟨uuid, r, hr, rfl⟩
    exact ⟨r.id, List.mem_map.mpr ⟨(uuid, r.id), (h.stored uuid r.id).mpr ⟨r, hr, rfl⟩, rfl⟩, rfl⟩

theorem handle (h : Numbered es folder) (root : String) {q : Request} (hq : q.Timely)
    (hreadable : Directory.ReadableReply q (Directory.handle root q folder).1) :
    Numbered (es ++ [⟨q, (Directory.handle root q folder).1⟩]) (Directory.handle root q folder).2 := by
  have hnamed : (Directory.view folder).Named := fun uuid r hr => h.sound.uuid_of_view hr
  refine ⟨h.sound.handle root hq hreadable, h.keyed.handle root q, ?_, ?_⟩
  · rw [kept_concat]
    exact (Directory.answer_effect root hq hnamed).stored hreadable h.stored
  · intro id hid
    rw [given_concat, List.mem_append] at hid
    rcases hid with hid | hid
    · exact h.positive id hid
    · obtain ⟨record, rfl, hreply⟩ := Exchange.reply_of_given? (Option.mem_toList.mp hid)
      rcases (Directory.insert_next h.sound h.keyed hreply).2 with rfl | ⟨uuid, r, hr, rfl⟩
      · exact le_refl 1
      · have hkept : (uuid, r.id) ∈ kept es := (h.stored uuid r.id).mpr ⟨r, hr, rfl⟩
        have hpositive := h.positive r.id (mem_given_of_kept hkept)
        omega

/-- Requests that follow each other ascend as long as the newest record is kept. -/
theorem run (h : Numbered [] folder) (root : String) {requests : List Request} (htimely : ∀ q ∈ requests, q.Timely)
    (hreadable : ∀ e ∈ exchanges requests (.directory root folder), Directory.ReadableReply e.request e.reply) :
    (∃ folder', afterRequests requests (.directory root folder) = .directory root folder' ∧
      Numbered (exchanges requests (.directory root folder)) folder') ∧
    ((given (exchanges requests (.directory root folder))).Pairwise (· < ·) ↔
      NewestKept (exchanges requests (.directory root folder))) := by
  induction requests using List.reverseRecOn with
  | nil => exact ⟨⟨folder, rfl, h⟩, iff_of_true .nil newestKept_nil⟩
  | append_singleton requests q ih =>
    rw [exchanges_concat] at hreadable
    obtain ⟨⟨folder', hafter, hnumbered⟩, hiff⟩ := ih (fun q' hq' => htimely q' (List.mem_append_left _ hq'))
      fun e he => hreadable e (List.mem_append_left _ he)
    have hlast := hreadable _ (List.mem_append_right _ (List.mem_singleton_self _))
    rw [hafter] at hlast
    rw [afterRequests_concat, exchanges_concat, hafter]
    refine ⟨⟨_, rfl, hnumbered.handle root (htimely q (by simp)) hlast⟩, ?_⟩
    rw [newestKept_concat, given_concat, List.pairwise_append, ← hiff]
    refine and_congr_right fun hascending => ?_
    constructor
    · rintro ⟨-, habove⟩ hgiven
      obtain ⟨id, hid⟩ := Option.isSome_iff_exists.mp hgiven
      obtain ⟨record, rfl, hreply⟩ := Exchange.reply_of_given? hid
      exact (hnumbered.insert_above hascending hreply).mp fun earlier he =>
        habove earlier he id (Option.mem_toList.mpr hid)
    · intro hkept
      refine ⟨?_, fun earlier he id hid => ?_⟩
      · cases Exchange.given? ⟨q, ((Backend.directory root folder').answer q).1⟩ <;> simp
      · have hid := Option.mem_toList.mp hid
        obtain ⟨record, rfl, hreply⟩ := Exchange.reply_of_given? hid
        exact (hnumbered.insert_above hascending hreply).mpr (hkept (Option.isSome_of_mem hid)) earlier he

end Numbered

/-- Whatever is asked of a store that starts empty, the identifiers that it gives ascend if it is one in
memory; in a folder they do exactly if no record was inserted after the newest one was deleted. -/
theorem given_ascending_iff {b : Backend} (hb : b.Fresh) {requests : List Request} (htimely : ∀ q ∈ requests, q.Timely)
    (hreadable : ∀ e ∈ exchanges requests b, Directory.ReadableReply e.request e.reply) :
    (given (exchanges requests b)).Pairwise (· < ·) ↔ b = .memory .empty ∨ NewestKept (exchanges requests b) := by
  cases hb with
  | memory => exact iff_of_true (Memory.given_above requests .empty).2 (.inl rfl)
  | missing root =>
    rw [((Numbered.fresh (.inl rfl)).run root htimely hreadable).2]
    exact (or_iff_right (by simp)).symm
  | present root =>
    rw [((Numbered.fresh (.inr rfl)).run root htimely hreadable).2]
    exact (or_iff_right (by simp)).symm

/-- A record is inserted and deleted, and then another one is inserted. -/
def renewing : List Request := [.insert someRecord, .delete "u", .insert { someRecord with uuid := "v" }]

theorem renewing_timely : ∀ q ∈ renewing, q.Timely := by decide

/-- Two records are inserted, the first of them is deleted, and then another one is inserted. -/
def keepingNewest : List Request :=
  [.insert someRecord, .insert { someRecord with uuid := "v" }, .delete "u", .insert { someRecord with uuid := "w" }]

theorem keepingNewest_fit : ∀ q ∈ keepingNewest, q.Fits := by decide

/-- In memory a record that is inserted after the newest one was deleted gets an identifier of its own,
and so does one in a folder that holds the newest one still. -/
theorem renewing_ascends :
    (Backend.Fresh (.memory .empty) ∧ (∀ q ∈ renewing, q.Timely) ∧
      given (exchanges renewing (.memory .empty)) = [1, 2] ∧
      (given (exchanges renewing (.memory .empty))).Pairwise (· < ·)) ∧
    Backend.Fresh (.directory "r" .missing) ∧ (∀ q ∈ keepingNewest, q.Timely) ∧
      NewestKept (exchanges keepingNewest (.directory "r" .missing)) ∧
      given (exchanges keepingNewest (.directory "r" .missing)) = [1, 2, 3] ∧
      (given (exchanges keepingNewest (.directory "r" .missing))).Pairwise (· < ·) := by
  constructor
  · have hreplies : exchanges renewing (.memory .empty) = [⟨.insert someRecord, .ok 1⟩, ⟨.delete "u", .ok true⟩,
        ⟨.insert { someRecord with uuid := "v" }, .ok 2⟩] := by rfl
    refine ⟨.memory, renewing_timely, by rw [hreplies]; rfl,
      (given_ascending_iff .memory renewing_timely ?_).mpr (.inl rfl)⟩
    rw [hreplies]
    simp only [List.forall_mem_cons, Directory.ReadableReply]
    exact ⟨by decide, trivial, by decide, fun _ h => absurd h List.not_mem_nil⟩
  · obtain ⟨hreplies, hreadable⟩ := Directory.Holds.missing.exchanges_renumbered "r" keepingNewest_fit
      (n := 0) (fun _ h => absurd h List.not_mem_nil) (by decide)
    have htimely : ∀ q ∈ keepingNewest, q.Timely := fun q hq => (keepingNewest_fit q hq).timely
    have hkept : NewestKept (exchanges keepingNewest (.directory "r" .missing)) := by
      rw [hreplies]
      change NewestKept ([] ++ [_] ++ [_] ++ [_] ++ [_])
      simp only [newestKept_concat]
      exact ⟨⟨⟨⟨newestKept_nil, by decide⟩, by decide⟩, by decide⟩, by decide⟩
    have hgiven : given (exchanges keepingNewest (.directory "r" .missing)) = [1, 2, 3] := by
      rw [hreplies]
      rfl
    exact ⟨.missing "r", htimely, hkept, hgiven,
      (given_ascending_iff (.missing "r") htimely hreadable).mpr (.inr hkept)⟩

/-- In a folder that has lost the newest record, the next one gets its identifier again. -/
theorem deleted_id_comes_again : Backend.Fresh (.directory "r" .missing) ∧ (∀ q ∈ renewing, q.Timely) ∧
    given (exchanges renewing (.directory "r" .missing)) = [1, 1] ∧
    ¬(given (exchanges renewing (.directory "r" .missing))).Pairwise (· < ·) := by
  have hgiven : given (exchanges renewing (.directory "r" .missing)) = [1, 1] := by rfl
  refine ⟨.missing "r", renewing_timely, hgiven, ?_⟩
  rw [hgiven]
  decide

end Dashboards.Store
