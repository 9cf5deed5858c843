import Dashboards.Session
import Dashboards.Session.World
import Mathlib

/-!
# What tasks come to

* `answered` : what a task comes to where its requests are answered in some way (`answered_lift`,
  `answered_ask_bind`, `answered_askFile`); `answered_bind`, `answered_bind_error`, `answered_tryCatch` : one task after another,
  or in the place of one that fails;
* `outcome` : what a task comes to in a world, and the world after it (`outcome_bind`,
  `outcome_bind_ok`, `outcome_tryCatch`);
* `outcome_readDocument`, `outcome_readDocument_error` : a document that is read from a text;
* `summarizeFile_outcome`, `analyze_outcome` : what is shown of a file depends on its text alone.
-/

namespace Dashboards.Session

open Json

variable {α β : Type}

/-! ## Whoever answers -/

section Answered

variable {σ : Type} (answer : (q : Request) → σ → Reply q × σ)

/-- What a task comes to where its requests are answered so, and the state after it. -/
def answered (task : Task α) (s : σ) : Except Diagnostic α × σ := (ExceptT.run task).run answer s

theorem answered_bind (task : Task α) (next : α → Task β) (s : σ) :
    answered answer (task >>= next) s =
      match answered answer task s with
      | (.ok a, s') => answered answer (next a) s'
      | (.error d, s') => (.error d, s') := by
  unfold answered
  rw [ExceptT.run_bind, Program.run_bind]
  obtain ⟨reply, s'⟩ := (ExceptT.run task).run answer s
  cases reply <;> rfl

/-- Either task may be the one that fails. -/
theorem answered_bind_error {answer : (q : Request) → σ → Reply q × σ} {task : Task α} {next : α → Task β}
    {s s' : σ} {d : Diagnostic} (h : answered answer (task >>= next) s = (.error d, s')) :
    answered answer task s = (.error d, s') ∨
      ∃ a s₁, answered answer task s = (.ok a, s₁) ∧ answered answer (next a) s₁ = (.error d, s') := by
  rw [answered_bind] at h
  split at h
  · next a s₁ hok => exact .inr ⟨a, s₁, hok, h⟩
  · next d' s₁ herror =>
    cases h
    exact .inl herror

theorem answered_tryCatch (task : Task α) (handler : Diagnostic → Task α) (s : σ) :
    answered answer (tryCatch task handler) s =
      match answered answer task s with
      | (.ok a, s') => (.ok a, s')
      | (.error d, s') => answered answer (handler d) s' := by
  unfold answered
  change ((ExceptT.run task) >>= _).run answer s = _
  rw [Program.run_bind]
  obtain ⟨reply, s'⟩ := (ExceptT.run task).run answer s
  cases reply <;> rfl

theorem answered_lift (p : Program Reply α) (s : σ) :
    answered answer (ExceptT.lift p) s = (.ok (p.run answer s).1, (p.run answer s).2) := by
  change (p >>= fun a => Program.done (Except.ok a)).run answer s = _
  rw [Program.run_bind]
  rfl

theorem answered_ask_bind (q : Request) (next : Reply q → Task α) (s : σ) :
    answered answer (ask q >>= next) s = answered answer (next (answer q s).1) (answer q s).2 := by
  rw [ask, answered_bind, answered_lift]
  rfl

theorem answered_askFile (circumstance folder : String) (q : Files.Request)
    (reply : Files.Reply q → Except Files.Fault α) (s : σ) :
    answered answer (askFile circumstance folder q reply) s =
      match reply (answer (.files folder q) s).1 with
      | .ok a => (.ok a, (answer (.files folder q) s).2)
      | .error fault =>
        (.error ((Diagnostic.general [fault.message]).within circumstance), (answer (.files folder q) s).2) := by
  unfold askFile
  rw [answered_ask_bind]
  cases reply (answer (.files folder q) s).1 <;> rfl

end Answered

/-! ## The world of the model -/

/-- What a task comes to, and the world after it. -/
def outcome (task : Task α) (w : World) : Except Diagnostic α × World := (ExceptT.run task).run World.answer w

theorem outcome_bind (task : Task α) (next : α → Task β) (w : World) :
    outcome (task >>= next) w =
      match outcome task w with
      | (.ok a, w') => outcome (next a) w'
      | (.error d, w') => (.error d, w') := by
  change answered World.answer (task >>= next) w = _
  rw [answered_bind, show outcome task w = answered World.answer task w from rfl]
  rcases answered World.answer task w with ⟨_ | _, _⟩ <;> rfl

theorem outcome_bind_ok {task : Task α} {a : α} {w w' : World} (h : outcome task w = (.ok a, w')) (next : α → Task β) :
    outcome (task >>= next) w = outcome (next a) w' := by
  rw [outcome_bind, h]

theorem outcome_tryCatch (task : Task α) (handler : Diagnostic → Task α) (w : World) :
    outcome (tryCatch task handler) w =
      match outcome task w with
      | (.ok a, w') => (.ok a, w')
      | (.error d, w') => outcome (handler d) w' := by
  change answered World.answer (tryCatch task handler) w = _
  rw [answered_tryCatch, show outcome task w = answered World.answer task w from rfl]
  rcases answered World.answer task w with ⟨_ | _, _⟩ <;> rfl

theorem outcome_mapM_singleton {f : α → Task β} {a : α} {b : β} {w w' : World} (h : outcome (f a) w = (.ok b, w')) :
    outcome ([a].mapM f) w = (.ok [b], w') := by
  rw [List.mapM, List.mapM.loop, outcome_bind_ok h]
  rfl

/-! ## Documents of files -/

section Documents

variable {path text : String} {document : Value} {flaw : Document.Flaw} {w w' : World}

theorem outcome_readDocument (htext : outcome (readText path) w = (.ok text, w'))
    (hparse : Document.parse text = .ok document) : outcome (readDocument path) w = (.ok document, w') := by
  unfold readDocument
  rw [outcome_bind_ok htext, hparse]
  rfl

theorem outcome_readDocument_error (htext : outcome (readText path) w = (.ok text, w'))
    (hparse : Document.parse text = .error flaw) : ∃ d, outcome (readDocument path) w = (.error d, w') := by
  unfold readDocument
  rw [outcome_bind_ok htext, hparse]
  exact ⟨_, rfl⟩

/-- A file whose text is no document has no summary, and says why. -/
theorem summarizeFile_outcome (htext : outcome (readText path) w = (.ok text, w')) :
    ∃ error, outcome (summarizeFile path) w =
      (.ok ⟨path, (Document.parse text).toOption.map (Analytics.summarize Document.detect), error⟩, w') := by
  unfold summarizeFile
  rw [outcome_tryCatch, outcome_bind]
  cases hparse : Document.parse text with
  | ok document =>
    rw [outcome_readDocument htext hparse]
    exact ⟨none, rfl⟩
  | error flaw =>
    obtain ⟨d, hread⟩ := outcome_readDocument_error htext hparse
    rw [hread]
    exact ⟨some d.message, rfl⟩

theorem analyze_outcome (htext : outcome (readText path) w = (.ok text, w')) :
    ∃ error, ∀ target, ∃ rest : Task Unit, outcome (analyze [path] target) w =
      outcome (display target (.summaries
        [⟨path, (Document.parse text).toOption.map (Analytics.summarize Document.detect), error⟩]) >>= fun _ => rest)
        w' := by
  obtain ⟨error, hshown⟩ := summarizeFile_outcome htext
  refine ⟨error, fun target => ?_⟩
  unfold analyze
  rw [outcome_bind_ok (outcome_mapM_singleton hshown)]
  exact ⟨_, rfl⟩

end Documents

end Dashboards.Session
