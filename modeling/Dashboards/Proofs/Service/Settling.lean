import Dashboards.Proofs.Files.Tree
import Dashboards.Proofs.Service.Failing
import Dashboards.Proofs.Store.Interruption
import Mathlib

/-!
# Failing on any system

What a failing call leaves behind is told by its steps alone, whoever answers them: a folder, a tree of
folders, or a system that may refuse any step for reasons of its own.

* `Spared` : no file of a record is among some names;
* `Settles` : a program changes files of records with its last step only, and then ends well
  (`writeRecord_settles`, `answer_settles`);
* `Settles.run` : so it has changed none of them, or has ended well;
* `run_of_error` : a program that concludes and fails on a store in a folder has changed none.
-/

namespace Dashboards.Store.Directory

open Files (Fault)

/-! ## Requests settle -/

/-- No file of a record has one of these names. -/
def Spared (names : List String) : Prop := ∀ name ∈ names, Files.hasExtension "json" name = false

theorem spared_nil : Spared [] := fun _ h => absurd h List.not_mem_nil

theorem spared_singleton {name : String} (h : Files.hasExtension "json" name = false) : Spared [name] :=
  List.forall_mem_singleton.mpr h

theorem Quiet.spared {q : Files.Request} (h : Quiet q) (reply : Files.Reply q) : Spared (q.changed reply) := by
  cases q with
  | write name content => exact spared_singleton h
  | rename source target => exact h.elim
  | remove name => exact h.elim
  | _ => exact spared_nil

variable {α β : Type} {root path uuid : String}

/-- A step changes no file of a record, or it is the last one and the program ends well. -/
def Settles (good : α → Prop) : Program Files.Reply α → Prop
  | .done _ => True
  | .ask q next => ∀ reply,
      Spared (q.changed reply) ∧ Settles good (next reply) ∨ ∃ a, next reply = .done a ∧ good a

theorem Settles.mono {good good' : α → Prop} {p : Program Files.Reply α} (h : Settles good p)
    (hgood : ∀ a, good a → good' a) : Settles good' p := by
  induction p with
  | done a => trivial
  | ask q next ih =>
    intro reply
    rcases h reply with ⟨hspared, hnext⟩ | ⟨a, ha, hdone⟩
    · exact .inl ⟨hspared, ih reply hnext⟩
    · exact .inr ⟨a, ha, hgood a hdone⟩

section Combinators

variable {good : Except StoreFailure α → Prop} {good' : Except StoreFailure β → Prop}

theorem Reads.settles {good : α → Prop} {p : Program Files.Reply α} (h : Reads p) : Settles good p := by
  induction p with
  | done a => trivial
  | ask q next ih => exact fun reply => .inl ⟨h.1.spared reply, ih reply (h.2 reply)⟩

theorem Reads.bind_settles {p : Steps α} {f : Except StoreFailure α → Steps β} (hp : Reads p)
    (hf : ∀ a, Settles good' (f a)) : Settles good' (p.bind f) := by
  induction p with
  | done a => exact hf a
  | ask q next ih => exact fun reply => .inl ⟨hp.1.spared reply, ih reply (hp.2 reply)⟩

/-- A result may be made of a good one. -/
theorem Settles.map {p : Steps α} (hp : Settles good p) {f : Except StoreFailure α → Except StoreFailure β}
    (hf : ∀ a, good a → good' (f a)) : Settles good' (p.bind fun a => .done (f a)) := by
  induction p with
  | done a => trivial
  | ask q next ih =>
    intro reply
    rcases hp reply with ⟨hspared, hnext⟩ | ⟨a, ha, hgood⟩
    · exact .inl ⟨hspared, ih reply hnext⟩
    · refine .inr ⟨f a, ?_, hf a hgood⟩
      beta_reduce
      rw [ha]
      rfl

theorem settles_step {q : Files.Request} (hq : Quiet q) (reply : Files.Reply q → Except Fault α) {next : α → Steps β}
    (hnext : ∀ a, Settles good' (next a)) : Settles good' (step path q reply next) := by
  refine fun r => .inl ⟨hq.spared r, ?_⟩
  beta_reduce
  cases reply r with
  | ok a => exact hnext a
  | error fault => trivial

theorem settles_withKey {next : Steps β} (h : Settles good' next) : Settles good' (withKey uuid next) := by
  unfold withKey
  split_ifs
  · exact h
  · trivial

end Combinators

variable (root)

/-- The draft takes its place as the last step, or nothing does. -/
theorem writeRecord_settles (record : Record) : Settles (· = .ok ()) (writeRecord root record) := by
  have hdraft : Quiet (.write (draftName record.uuid) record.encode.toUTF8) := hasExtension_draftName record.uuid
  refine settles_withKey (settles_step (by trivial) _ fun _ => settles_step hdraft _ fun _ => fun reply => ?_)
  cases reply with
  | ok done => exact .inr ⟨.ok (), rfl, rfl⟩
  | error fault => exact .inl ⟨spared_nil, trivial⟩

theorem modify_settles (uuid : String) (change : Record → Record) :
    Settles (· = .ok true) (modify root uuid change) := by
  refine (reads_withKey (readRecord_reads root (recordName uuid))).bind_settles fun found => ?_
  rcases found with failure | _ | record
  · trivial
  · trivial
  · exact (writeRecord_settles root (change record)).map fun outcome hgood => by subst hgood; rfl

theorem insert_settles (record : Record) : Settles (∃ id, · = .ok id) (insert root record) := by
  refine settles_withKey (settles_step (by trivial) _ fun taken => ?_)
  split_ifs
  · trivial
  · refine (readAll_reads root).bind_settles fun records => ?_
    cases records with
    | error failure => trivial
    | ok records => exact (writeRecord_settles root _).map fun outcome hgood => by subst hgood; exact ⟨_, rfl⟩

theorem delete_settles (uuid : String) : Settles (· = .ok true) (delete root uuid) := by
  refine settles_withKey fun reply => ?_
  cases reply with
  | ok done => exact .inr ⟨.ok true, rfl, rfl⟩
  | error fault => exact .inl ⟨spared_nil, by cases fault <;> trivial⟩

/-- A request that changes a file of a record with its last step is done. -/
theorem answer_settles (q : Request) : Settles (Done q) (answer root q) := by
  cases q with
  | fetchAll => exact (readAll_reads root).settles
  | fetchOne uuid => exact (reads_withKey (readRecord_reads root (recordName uuid))).settles
  | insert record => exact (insert_settles root record).mono fun _ ⟨id, hid⟩ => hid ▸ trivial
  | update record => exact (modify_settles root record.uuid _).mono fun _ hdone => hdone ▸ rfl
  | delete uuid => exact (delete_settles root uuid).mono fun _ hdone => hdone ▸ rfl
  | setLocked uuid locked => exact (modify_settles root uuid _).mono fun _ hdone => hdone ▸ rfl

end Dashboards.Store.Directory

/-! ## Whoever answers -/

namespace Dashboards

open Store

section Answered

variable {σ : Type} {R : σ → σ → Prop} (hrefl : ∀ s, R s s) (htrans : ∀ {s t u}, R s t → R t u → R s u)
  {answer : (q : Files.Request) → σ → Files.Reply q × σ}
  (hspared : ∀ q s, Directory.Spared (q.changed (answer q s).1) → R s (answer q s).2)

include hrefl htrans hspared

/-- The files of records are kept, or the program has ended well. -/
theorem Store.Directory.Settles.run {α : Type} {good : α → Prop} {p : Program Files.Reply α} (h : Directory.Settles good p)
    (s : σ) : R s (p.run answer s).2 ∨ good (p.run answer s).1 := by
  induction p generalizing s with
  | done a => exact .inl (hrefl s)
  | ask q next ih =>
    rw [Program.run_ask]
    rcases h (answer q s).1 with ⟨hkept, hnext⟩ | ⟨a, ha, hgood⟩
    · exact (ih _ hnext _).imp_left (htrans (hspared q s hkept))
    · rw [ha]
      exact .inr hgood

/-- A program that fails has kept them: once a request is done, nothing fails any more. -/
theorem Service.run_of_error {α : Type} {about : Option String} {p : Service.Task α} (root : String)
    (hp : Service.Concludes about p) {s : σ} {failure : Failure}
    (h : (p.run (fun q => (Directory.answer root q).run answer) s).1 = .error failure) :
    R s (p.run (fun q => (Directory.answer root q).run answer) s).2 := by
  induction p generalizing s with
  | done outcome => exact hrefl s
  | ask q next ih =>
    obtain ⟨hdone, -, hrest⟩ := hp ((Directory.answer root q).run answer s).1
    rw [Program.run_ask] at h ⊢
    rcases (Directory.answer_settles root q).run hrefl htrans hspared s with hkept | hsettled
    · exact htrans hkept (ih _ hrest h)
    · obtain ⟨result, hresult⟩ := hdone hsettled
      rw [hresult] at h
      cases h

end Answered

end Dashboards
