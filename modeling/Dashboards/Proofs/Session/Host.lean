import Dashboards.Proofs.Files.Path
import Dashboards.Proofs.Service.Settling
import Dashboards.Proofs.Session.Outcome
import Dashboards.Proofs.Text.Digits
import Dashboards.Session
import Dashboards.Session.World
import Mathlib

/-!
# Hosts of runs

A run asks its host, which may refuse steps for reasons of its own: a full disk, missing rights. What
is asked of it here is only that it changes no files but those that a step is about, and none of those
if it refuses to move or to remove them.

* `Request.changed` : the names of the files that a step may have changed;
* `Host` : what answers a run; `World.host` : the world of the model is one;
* `Host.Kept` : the files of records are as they were, in all folders;
* `Host.Spares` : programs that keep them; `Host.Keeps`, `Host.Safe` : tasks that keep them, always or
  where they fail.
-/

namespace Dashboards.Session

open Files (Fault)
open Store.Directory (Spared)

/-! ## Hosts -/

/-- The names of the files that a step may have changed. -/
def Request.changed : (q : Request) → Reply q → List String
  | .files _ q, reply => q.changed reply
  | .move _ name destination, outcome => Files.Tree.moved name destination outcome
  | _, _ => []

/-- What answers a run: its state, in which files are found by the way to their folder and their name. -/
structure Host (σ : Type) where
  answer : (q : Request) → σ → Reply q × σ
  file? : σ → List String → String → Option ByteArray
  /-- Other files than those that a step is about are not changed. -/
  frame : ∀ q s way, ∀ name ∉ q.changed (answer q s).1, file? (answer q s).2 way name = file? s way name
  /-- A file that is soon moved to its place is not taken for one of a record. -/
  freshName_spared : ∀ s, Files.hasExtension "json" (answer .freshName s).1 = false

/-- A name that a file bears before it is moved to its place ends in a digit. -/
theorem hasExtension_temporaryName (n : Nat) : Files.hasExtension "json" (World.temporaryName n) = false := by
  apply Files.hasExtension_json_of_getLast?
  have hname : (World.temporaryName n).toList = ".tmp".toList ++ Text.digits n := by
    rw [World.temporaryName, String.toList_append]
    exact congrArg _ Nat.toList_repr
  rw [hname, List.getLast?_append_of_ne_nil _ (Text.digits_ne_nil n)]
  intro hlast
  have hdigit : Char.isDigit 'n' := Text.isDigit_of_mem_digits (List.mem_of_getLast? hlast)
  cases hdigit

/-- The world of the model. -/
def World.host : Host World where
  answer := World.answer
  file? w way name := w.files.top.file? name way
  frame q w way name hname := by
    cases q with
    | files folder q => exact w.files.frame_answer folder q way name hname
    | move folder source destination => exact w.files.frame_move folder source destination way name hname
    | _ => rfl
  freshName_spared w := hasExtension_temporaryName w.made

namespace Host

variable {σ : Type} (host : Host σ) {α β : Type}

/-- The files of records are as they were, in whatever folder they are. -/
def Kept (s s' : σ) : Prop := ∀ way name, Files.hasExtension "json" name → host.file? s' way name = host.file? s way name

variable {host}

theorem Kept.refl (s : σ) : host.Kept s s := fun _ _ _ => rfl

theorem Kept.trans {s s' s'' : σ} (h : host.Kept s s') (h' : host.Kept s' s'') : host.Kept s s'' :=
  fun way name hname => (h' way name hname).trans (h way name hname)

theorem kept_answer {q : Request} {s : σ} (h : Spared (q.changed (host.answer q s).1)) :
    host.Kept s (host.answer q s).2 := by
  intro way name hname
  refine host.frame q s way name fun hmem => ?_
  rw [h name hmem] at hname
  cases hname

/-! ## Programs -/

variable (host)

/-- The program keeps the files of records. -/
def Spares (p : Program Reply α) : Prop := ∀ s, host.Kept s (p.run host.answer s).2

variable {host}

theorem spares_request {q : Request} (h : ∀ reply, Spared (q.changed reply)) : host.Spares (request q) :=
  fun s => kept_answer (h (host.answer q s).1)

theorem Spares.bind {p : Program Reply α} {f : α → Program Reply β} (h : host.Spares p)
    (hf : ∀ a, host.Spares (f a)) : host.Spares (p >>= f) := by
  intro s
  rw [Program.run_bind]
  exact (h s).trans (hf _ _)

theorem spares_pure (a : α) : host.Spares (pure a) := fun s => .refl s

/-! ## Tasks -/

variable (host)

/-- The task keeps the files of records. -/
def Keeps (task : Task α) : Prop := ∀ s, host.Kept s (answered host.answer task s).2

/-- The task keeps the files of records if it fails. -/
def Safe (task : Task α) : Prop := ∀ s d s', answered host.answer task s = (.error d, s') → host.Kept s s'

variable {host}

section Tasks

variable {task : Task α} {next : α → Task β}

theorem Keeps.safe (h : host.Keeps task) : host.Safe task := by
  intro s d s' hd
  have hkept := h s
  rwa [hd] at hkept

theorem Keeps.bind (h : host.Keeps task) (hnext : ∀ a, host.Keeps (next a)) : host.Keeps (task >>= next) := by
  intro s
  have hkept := h s
  rw [answered_bind]
  split
  · next a s' heq =>
    rw [heq] at hkept
    exact hkept.trans (hnext a s')
  · next d s' heq =>
    rwa [heq] at hkept

theorem Keeps.bind_safe (h : host.Keeps task) (hnext : ∀ a, host.Safe (next a)) : host.Safe (task >>= next) := by
  intro s d s'' hd
  rcases answered_bind_error hd with hd | ⟨a, s', hok, hd⟩
  · exact h.safe s d s'' hd
  · have hkept := h s
    rw [hok] at hkept
    exact hkept.trans (hnext a s' d s'' hd)

/-- What cannot fail may follow. -/
theorem Safe.bind_ok (h : host.Safe task) (hnext : ∀ a s, ∃ b s', answered host.answer (next a) s = (.ok b, s')) :
    host.Safe (task >>= next) := by
  intro s d s'' hd
  rcases answered_bind_error hd with hd | ⟨a, s', -, hd⟩
  · exact h s d s'' hd
  · obtain ⟨b, s₁, hok⟩ := hnext a s'
    rw [hok] at hd
    cases hd

theorem keeps_pure (a : α) : host.Keeps (pure a : Task α) := fun s => .refl s

theorem keeps_fail (d : Diagnostic) : host.Keeps (fail d : Task α) := fun s => .refl s

end Tasks

end Host

end Dashboards.Session
