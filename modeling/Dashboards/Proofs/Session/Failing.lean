import Dashboards.Proofs.Service.Interleaving
import Dashboards.Proofs.Session.Host
import Dashboards.Proofs.Session.Resolution
import Mathlib

/-!
# Runs that fail

A run reads what it needs, does one operation on the store, and shows what came of it. Once the store
is changed nothing fails any more, but for the showing: results may not be printed or written, and that
they were written may not be said.

* `keeps_readDocument`, `safe_writeText`, `safe_stored` : the parts of a command;
* `operation?`, `perform_eq` : a command on the store is an operation whose result is then shown
  (`safe_operation`);
* `Withheld` : a result that does not get out (`display_failed`);
* `Undelivered` : a command that was done and whose result was withheld;
* `conclude_failed`, `begin_failed`, `failed_run_keeps_records` : a run that fails has kept the files of
  records, or its result is undelivered;
* `failed_lock_keeps_records`, `unheard_deletion_is_done` : a run of either kind.
-/

namespace Dashboards.Session

open CommandLine (Invocation)
open Files (Fault)
open Output (Format Result)
open Store.Directory (Spared Quiet spared_nil spared_singleton)
open Host

variable {σ α β : Type} {host : Host σ}

/-! ## Reading -/

theorem keeps_ask {q : Request} (h : ∀ reply, Spared (q.changed reply)) : host.Keeps (ask q) :=
  fun s => kept_answer (h (host.answer q s).1)

theorem keeps_askFile {q : Files.Request} (hq : Quiet q) (circumstance folder : String)
    (reply : Files.Reply q → Except Fault α) : host.Keeps (askFile circumstance folder q reply) := by
  intro s
  rw [answered_askFile]
  have hkept : host.Kept s (host.answer (.files folder q) s).2 := kept_answer (q := .files folder q) (hq.spared _)
  cases reply (host.answer (.files folder q) s).1 <;> exact hkept

theorem keeps_readText (path : String) : host.Keeps (readText path) := by
  unfold readText
  split
  · refine Keeps.bind (keeps_ask fun _ => spared_nil) fun bytes => ?_
    cases bytes.bind Files.textOf with
    | ok text => exact keeps_pure text
    | error fault => exact keeps_fail _
  · exact keeps_askFile (q := .read _) trivial _ _ _

theorem keeps_readDocument (path : String) : host.Keeps (readDocument path) := by
  refine (keeps_readText path).bind fun text => ?_
  cases Document.parse text with
  | ok document => exact keeps_pure document
  | error flaw => exact keeps_fail _

/-! ## Showing a result -/

/-- What is asked may decide how the task goes on. -/
theorem safe_ask_bind {q : Request} {next : Reply q → Task α}
    (h : ∀ s, host.Kept s (host.answer q s).2 ∧ host.Safe (next (host.answer q s).1) ∨
      ∃ a, next (host.answer q s).1 = pure a) : host.Safe (ask q >>= next) := by
  intro s d s' hd
  rw [answered_bind] at hd
  change answered host.answer (next (host.answer q s).1) (host.answer q s).2 = _ at hd
  rcases h s with ⟨hkept, hnext⟩ | ⟨a, ha⟩
  · exact hkept.trans (hnext _ d s' hd)
  · rw [ha] at hd
    cases hd

/-- A file that is no record is written first. Its move comes last, and if that fails it is removed. -/
theorem safe_writeText (path text : String) : host.Safe (writeText path text) := by
  refine Keeps.bind_safe (keeps_askFile (q := .make) trivial _ _ _) fun _ => ?_
  refine safe_ask_bind fun s => .inl ⟨kept_answer spared_nil, ?_⟩
  have hname := host.freshName_spared s
  generalize (host.answer .freshName s).1 = name at hname
  refine Keeps.bind_safe (keeps_askFile (q := .write name text.toUTF8) hname _ _ _) fun _ => ?_
  refine safe_ask_bind fun s => ?_
  cases hmoved : (host.answer (.move (folderOf path) name path) s).1 with
  | ok done => exact .inr ⟨(), rfl⟩
  | error fault =>
    refine .inl ⟨kept_answer (by rw [hmoved]; exact spared_nil), Keeps.safe ?_⟩
    refine Keeps.bind (keeps_ask fun reply => ?_) fun _ => keeps_fail _
    cases reply with
    | ok done => exact spared_singleton hname
    | error fault => exact spared_nil

/-! ## Commands on the store -/

variable {about : Option String}

/-- What a store in a folder replies. -/
def inFolder (answer : (q : Request) → σ → Reply q × σ) (folder : String) (q : Store.Request) : σ → Store.Reply q × σ :=
  (Store.Directory.answer folder q).run fun q => answer (.files folder q)

theorem answered_stored (answer : (q : Request) → σ → Reply q × σ) (folder : String) (circumstance : Option String)
    (task : Service.Task α) (s : σ) :
    answered answer (stored folder circumstance task) s =
      match task.run (inFolder answer folder) s with
      | (.ok a, s') => (.ok a, s')
      | (.error failure, s') =>
        (.error (circumstance.elim (.ofFailure failure) (Diagnostic.ofFailure failure).within), s') := by
  have hrun : ((task.expand (Store.Directory.answer folder)).expand fun q => request (.files folder q)).run answer s =
      task.run (inFolder answer folder) s := by
    rw [Program.run_expand, Program.run_expand]
    rfl
  unfold stored
  dsimp only
  rw [answered_bind, answered_lift, hrun]
  rcases task.run (inFolder answer folder) s with ⟨_ | _, _⟩ <;> rfl

theorem safe_stored (folder : String) (circumstance : Option String) {task : Service.Task α}
    (h : Service.Concludes about task) : host.Safe (stored folder circumstance task) := by
  intro s d s' hd
  rw [answered_stored] at hd
  have hspared : ∀ (q : Files.Request) s, Spared (q.changed (host.answer (.files folder q) s).1) →
      host.Kept s (host.answer (.files folder q) s).2 := fun q s hspared => kept_answer (q := .files folder q) hspared
  split at hd
  · cases hd
  · next failure s₁ hfailed =>
    cases hd
    have hkept := Service.run_of_error (s := s) Kept.refl Kept.trans hspared folder h (congrArg Prod.fst hfailed)
    change host.Kept s (task.run (inFolder host.answer folder) s).2 at hkept
    rwa [hfailed] at hkept

/-- The command is one on the store. -/
def OnStore : Command → Prop
  | .analyze _ | .diff _ _ => False
  | _ => True

/-- A command on the store, but for the showing of its result. -/
def operation? (settings : Settings) : Command → Option (Task Result)
  | .create file => some do
    let data ← readDocument file
    let now ← ask .now
    let uuid ← ask .freshUuid
    let dashboard ← stored settings.storeDir (some "Failed to create dashboard")
      (Service.create now uuid data settings.user)
    return .dashboard dashboard
  | .list => some do
    let records ← stored settings.storeDir none Service.list
    return .listings (records.map Output.Listing.ofRecord)
  | .get uuid => some do
    let dashboard ← stored settings.storeDir (some ("Failed to get dashboard " ++ uuid)) (Service.get uuid)
    return .dashboard dashboard
  | .update uuid file => some do
    let data ← readDocument file
    let now ← ask .now
    let dashboard ← stored settings.storeDir (some ("Failed to update dashboard " ++ uuid))
      (Service.update now uuid data settings.user)
    return .dashboard dashboard
  | .delete uuid => some do
    stored settings.storeDir (some ("Failed to delete dashboard " ++ uuid)) (Service.delete uuid settings.user)
    return .status uuid "deleted"
  | .setLocked uuid locked => some do
    stored settings.storeDir (some ("Failed to change lock on dashboard " ++ uuid)) (Service.setLocked uuid locked)
    return .status uuid (if locked then "locked" else "unlocked")
  | .report => some do
    let report ← stored settings.storeDir (some "Failed to build analytics report") (Service.report Document.detect)
    return .report report
  | .metricUsage metrics => some do
    let index ← stored settings.storeDir (some "Failed to look up metric usage") (Service.metricUsage metrics)
    return .metricUsage index
  | .analyze _ | .diff _ _ => none

variable {settings : Settings} {command : Command} {task : Task Result}

theorem perform_eq (h : operation? settings command = some task) (target : Target) :
    perform settings target command = task >>= display target := by
  cases command <;> cases h <;> simp only [perform, bind_assoc, pure_bind]

/-- The result of a call on the store is not lost any more. -/
theorem safe_call (folder : String) (circumstance : Option String) {call : Service.Task α}
    (h : Service.Concludes about call) (result : α → Result) :
    host.Safe (stored folder circumstance call >>= fun a => pure (result a)) :=
  (safe_stored folder circumstance h).bind_ok fun a s => ⟨result a, s, rfl⟩

theorem keeps_now : host.Keeps (ask .now) := keeps_ask (q := .now) fun _ => spared_nil

theorem safe_operation (h : operation? settings command = some task) : host.Safe task := by
  cases command with
  | create file =>
    cases h
    refine (keeps_readDocument file).bind_safe fun data => keeps_now.bind_safe fun now => ?_
    refine Keeps.bind_safe (keeps_ask (q := .freshUuid) fun _ => spared_nil) fun uuid => ?_
    exact safe_call _ _ (Service.create_concludes now uuid data settings.user) _
  | list =>
    cases h
    exact safe_call _ _ (Service.task_concludes .list) _
  | get uuid =>
    cases h
    exact safe_call _ _ (Service.task_concludes (.get uuid)) _
  | update uuid file =>
    cases h
    refine (keeps_readDocument file).bind_safe fun data => keeps_now.bind_safe fun now => ?_
    exact safe_call _ _ (Service.update_concludes now uuid data settings.user) _
  | delete uuid =>
    cases h
    exact safe_call _ _ (Service.delete_concludes uuid settings.user) _
  | setLocked uuid locked =>
    cases h
    exact safe_call _ _ (Service.setLocked_concludes uuid locked) _
  | report =>
    cases h
    exact safe_call _ _ (Service.task_concludes (.report Document.detect)) _
  | metricUsage metrics =>
    cases h
    exact safe_call _ _ (Service.task_concludes (.metricUsage metrics)) _
  | analyze files => cases h
  | diff old new => cases h

/-! ## Results that are not delivered -/

theorem exitCode_askFile {q : Files.Request} {circumstance folder : String} {reply : Files.Reply q → Except Fault α}
    {s s' : σ} {d : Diagnostic} (h : answered host.answer (askFile circumstance folder q reply) s = (.error d, s')) :
    d.exitCode = .general := by
  rw [answered_askFile] at h
  split at h
  · cases h
  · cases h
    rfl

/-- A file that cannot be written is none of the failures with a code of their own. -/
theorem exitCode_writeText {path text : String} {s s' : σ} {d : Diagnostic}
    (h : answered host.answer (writeText path text) s = (.error d, s')) : d.exitCode = .general := by
  rcases answered_bind_error h with h | ⟨_, s₁, -, h⟩
  · exact exitCode_askFile h
  rcases answered_bind_error h with h | ⟨name, s₂, -, h⟩
  · cases h
  rcases answered_bind_error h with h | ⟨_, s₃, -, h⟩
  · exact exitCode_askFile h
  rcases answered_bind_error h with h | ⟨moved, s₄, -, h⟩
  · cases h
  cases moved with
  | ok done => cases h
  | error fault =>
    rcases answered_bind_error h with h | ⟨_, s₅, -, h⟩
    · cases h
    · cases h
      rfl

/-- Why a result does not get out, the code of that, and the state that the files of records are left in:
it cannot be printed; or the file that was asked for cannot be written; or that was written, and it
cannot be said. -/
inductive Withheld (host : Host σ) (target : Target) (result : Result) (s : σ) : ExitCode → σ → Prop where
  | unprinted {fault : Fault} : target.file = none →
      (host.answer (.print (lineText (result.render target.format))) s).1 = .error fault →
      Withheld host target result s .panicked s
  | unwritten {path : String} {d : Diagnostic} {s' : σ} : target.file = some path →
      answered host.answer (writeText path (result.render target.format)) s = (.error d, s') →
      Withheld host target result s .general s
  | unsaid {path : String} {s' : σ} {fault : Fault} : target.file = some path →
      answered host.answer (writeText path (result.render target.format)) s = (.ok (), s') →
      (host.answer (.report (target.note path)) s').1 = .error fault →
      Withheld host target result s .panicked s'

/-- Text that a stream does not take ends the task, and nothing else is done. -/
theorem answered_heard_error {stream : String} {reply : Except Fault Unit} {s s' : σ} {d : Diagnostic}
    (h : answered host.answer (heard stream reply) s = (.error d, s')) :
    (∃ fault, reply = .error fault) ∧ d.exitCode = .panicked ∧ s' = s := by
  cases reply with
  | ok done => cases h
  | error fault =>
    cases h
    exact ⟨⟨fault, rfl⟩, rfl, rfl⟩

/-- A result is not shown only if it is withheld. -/
theorem display_failed {target : Target} {result : Result} {s s₂ : σ} {d : Diagnostic}
    (h : answered host.answer (display target result) s = (.error d, s₂)) :
    ∃ s₁, Withheld host target result s d.exitCode s₁ ∧ host.Kept s₁ s₂ := by
  unfold display at h
  dsimp only at h
  split at h
  · next hfile =>
    rw [answered_ask_bind] at h
    obtain ⟨⟨fault, hfault⟩, hcode, rfl⟩ := answered_heard_error h
    rw [hcode]
    exact ⟨s, .unprinted hfile hfault, kept_answer (q := .print _) spared_nil⟩
  · next path hfile =>
    rcases answered_bind_error h with hfailed | ⟨_, s₁, hwritten, hsay⟩
    · rw [within, answered_tryCatch] at hfailed
      split at hfailed
      · cases hfailed
      · next d' s' hwrite =>
        cases hfailed
        have hcode : d'.exitCode = .general := exitCode_writeText hwrite
        change ∃ s₁, Withheld host target result s d'.exitCode s₁ ∧ _
        rw [hcode]
        exact ⟨s, .unwritten hfile hwrite, safe_writeText path _ s d' s₂ hwrite⟩
    · rw [answered_ask_bind] at hsay
      obtain ⟨⟨fault, hfault⟩, hcode, rfl⟩ := answered_heard_error hsay
      rw [hcode]
      rw [within, answered_tryCatch] at hwritten
      split at hwritten
      · next hwrite =>
        cases hwritten
        exact ⟨s₁, .unsaid hfile hwrite hfault, kept_answer (q := .report _) spared_nil⟩
      · cases hwritten

/-! ## Runs -/

theorem spares_findVariables (folders : List String) : host.Spares (findVariables folders) := by
  induction folders with
  | nil => exact spares_pure _
  | cons folder folders ih =>
    refine (spares_request (q := .files folder (.read variablesName)) fun _ => spared_nil).bind fun reply => ?_
    cases reply with
    | ok content => exact spares_pure _
    | error fault => cases fault <;> first | exact ih | exact spares_pure _

theorem spares_loadVariables (start : Environment) : host.Spares (loadVariables start) := by
  unfold loadVariables
  split
  · exact spares_pure _
  · refine (spares_request (q := .surroundings) fun _ => spared_nil).bind fun folders => ?_
    refine (spares_findVariables folders).bind fun found => ?_
    cases found <;> exact spares_pure _

theorem spares_stop (message : String) (code : ExitCode) : host.Spares (stop message code) := by
  refine (spares_request (q := .report _) fun _ => spared_nil).bind fun reply => ?_
  cases reply <;> exact spares_pure _

theorem spares_refuse (refusal : CommandLine.Refusal) : host.Spares (refuse refusal) := by
  unfold refuse
  split
  · exact (spares_request (q := .print _) fun _ => spared_nil).bind fun _ => spares_pure _
  · exact (spares_request (q := .report _) fun _ => spared_nil).bind fun _ => spares_pure _

theorem run_conclude (answer : (q : Request) → σ → Reply q × σ) (invocation : Invocation) (settings : Settings)
    (s : σ) :
    (conclude invocation settings).run answer s =
      match answered answer (execute invocation settings) s with
      | (.ok (), s') => (.success, s')
      | (.error d, s') => (stop d.message d.exitCode).run answer s' := by
  unfold conclude answered
  rw [Program.run_bind]
  rcases ((execute invocation settings).run).run answer s with ⟨_ | _, _⟩ <;> rfl

theorem execute_eq {invocation : Invocation} {format : Format} (h : Format.ofName? invocation.output = some format) :
    execute invocation settings = perform settings ⟨format, invocation.outputFile⟩ invocation.command := by
  unfold execute
  rw [h]

theorem run_stop (answer : (q : Request) → σ → Reply q × σ) (message : String) (code : ExitCode) (s : σ) :
    (stop message code).run answer s =
      match answer (.report (message ++ "\n")) s with
      | (.ok (), s') => (code, s')
      | (.error _, s') => (.panicked, s') := by
  have hasked : (request (.report (message ++ "\n"))).run answer s = answer (.report (message ++ "\n")) s := rfl
  unfold stop
  rw [Program.run_bind, hasked]
  rcases answer (.report (message ++ "\n")) s with ⟨_ | _, s'⟩ <;> rfl

/-- A run stops with its code, unless whoever watches it could not be told why. -/
theorem stop_code (message : String) (code : ExitCode) (s : σ) :
    ((stop message code).run host.answer s).1 = code ∨
      ((stop message code).run host.answer s).1 = .panicked ∧
        ∃ fault, (host.answer (.report (message ++ "\n")) s).1 = .error fault := by
  rw [run_stop]
  split
  · exact .inl rfl
  · next fault _ hfault => exact .inr ⟨rfl, fault, congrArg Prod.fst hfault⟩

/-- A command on the store was done, but its result was withheld. The run has ended with the code of that,
unless it could not even say so, and the files of records are as the command has left them, or as
its output file has, if that was written. -/
structure Undelivered (host : Host σ) (invocation : Invocation) (settings : Settings) (s : σ) (ended : ExitCode × σ)
    (result : Result) (s₁ : σ) (code : ExitCode) (s₂ : σ) : Prop where
  done : ∃ task, operation? settings invocation.command = some task ∧ answered host.answer task s = (.ok result, s₁)
  withheld : ∃ format, Format.ofName? invocation.output = some format ∧
    Withheld host ⟨format, invocation.outputFile⟩ result s₁ code s₂
  code : ended.1 = code ∨ ended.1 = .panicked ∧ ∃ text s' fault, (host.answer (.report text) s').1 = .error fault
  kept : host.Kept s₂ ended.2

theorem operation?_of_onStore {command : Command} (h : OnStore command) (settings : Settings) :
    ∃ task, operation? settings command = some task := by
  cases command with
  | analyze files => exact h.elim
  | diff old new => exact h.elim
  | _ => exact ⟨_, rfl⟩

/-- A command on the store that fails has kept the files of records, or its result was withheld. -/
theorem conclude_failed {invocation : Invocation} (hstore : OnStore invocation.command) (settings : Settings) (s : σ)
    (hfails : ((conclude invocation settings).run host.answer s).1 ≠ .success) :
    host.Kept s ((conclude invocation settings).run host.answer s).2 ∨
      ∃ result s₁ code s₂, Undelivered host invocation settings s
        ((conclude invocation settings).run host.answer s) result s₁ code s₂ := by
  rw [run_conclude] at hfails ⊢
  split at hfails
  · exact absurd rfl hfails
  next d s₂ hexecute =>
  have hstop : host.Kept s₂ ((stop d.message d.exitCode).run host.answer s₂).2 := spares_stop _ _ s₂
  cases hformat : Format.ofName? invocation.output with
  | some format =>
    obtain ⟨task, htask⟩ := operation?_of_onStore hstore settings
    rw [execute_eq hformat, perform_eq htask] at hexecute
    rcases answered_bind_error hexecute with hfailed | ⟨result, s₁, hdone, hshown⟩
    · exact .inl ((safe_operation htask s d s₂ hfailed).trans hstop)
    · obtain ⟨s', hwithheld, hkept⟩ := display_failed hshown
      refine .inr ⟨result, s₁, d.exitCode, s', ⟨task, htask, hdone⟩, ⟨format, hformat, hwithheld⟩, ?_, hkept.trans hstop⟩
      refine (stop_code d.message d.exitCode s₂).imp_right ?_
      rintro ⟨hcode, fault, hfault⟩
      exact ⟨hcode, _, s₂, fault, hfault⟩
  | none =>
    unfold execute at hexecute
    rw [hformat] at hexecute
    cases hexecute
    exact .inl hstop

/-- The same behind the file of variables. -/
theorem begin_failed {env : Environment} {words : List String} (s : σ)
    (hfails : ((begin env words).run host.answer s).1 ≠ .success)
    (hstore : ∀ invocation, CommandLine.parse env words = .ok invocation → OnStore invocation.command) :
    host.Kept s ((begin env words).run host.answer s).2 ∨
      ∃ invocation settings result s₁ code s₂, CommandLine.parse env words = .ok invocation ∧
        settingsOf env invocation = .ok settings ∧
        Undelivered host invocation settings s ((begin env words).run host.answer s) result s₁ code s₂ := by
  unfold begin at hfails ⊢
  cases hparse : CommandLine.parse env words with
  | error refusal => exact .inl (spares_refuse refusal s)
  | ok invocation =>
    rw [hparse] at hfails
    dsimp only at hfails ⊢
    cases hsettings : settingsOf env invocation with
    | error flaw => exact .inl (spares_stop _ _ s)
    | ok settings =>
      rw [hsettings] at hfails
      refine (conclude_failed (hstore invocation hparse) settings s hfails).imp_right ?_
      rintro ⟨result, s₁, code, s₂, hundelivered⟩
      exact ⟨invocation, settings, result, s₁, code, s₂, rfl, hsettings, hundelivered⟩

/-- If a run fails, the files of records in all folders are as they were, whatever the reason, unless the
command is not one on the store. The only exception is a command that was done and whose result was
withheld; then they are as the command has left them, or as its output file has, if that was written. -/
theorem failed_run_keeps_records (host : Host σ) (start : Environment) (words : List String) (s : σ)
    (hfails : ((run start words).run host.answer s).1 ≠ .success)
    (hstore : ∀ invocation, CommandLine.parse ((loadVariables start).run host.answer s).1.1 words = .ok invocation →
      OnStore invocation.command) :
    host.Kept s ((run start words).run host.answer s).2 ∨
      ∃ invocation settings result s₁ code s₂,
        CommandLine.parse ((loadVariables start).run host.answer s).1.1 words = .ok invocation ∧
        settingsOf ((loadVariables start).run host.answer s).1.1 invocation = .ok settings ∧
        Undelivered host invocation settings ((loadVariables start).run host.answer s).2
          ((run start words).run host.answer s) result s₁ code s₂ := by
  have hloaded : host.Kept s ((loadVariables start).run host.answer s).2 := spares_loadVariables start s
  rcases hload : (loadVariables start).run host.answer s with ⟨⟨env, _ | failure⟩, s₁⟩
  · rw [hload] at hloaded hstore
    rw [run_loaded hload] at hfails ⊢
    exact (begin_failed s₁ hfails hstore).imp_left hloaded.trans
  · rw [hload] at hloaded
    rw [run_unloaded hload]
    exact .inl (hloaded.trans (spares_stop _ _ s₁))

/-! ## Two runs that fail -/

section Failures

open Files (Entries Tree)
open Service (titledRecord)

/-- Files of variables are not wanted, and the store is in the folder `s`. -/
def storeEnv : Environment := ⟨[(Dotenv.disablingVariable, .text "1"), (Settings.storeDirVariable, .text "s")], none⟩

theorem run_storeEnv {words : List String} {invocation : Invocation}
    (hparse : CommandLine.parse storeEnv words = .ok invocation)
    (hsettings : settingsOf storeEnv invocation = .ok settings) (w : World) :
    (run storeEnv words).run World.answer w = (conclude invocation settings).run World.answer w := by
  have hload : (loadVariables storeEnv).run World.answer w = ((storeEnv, none), w) := rfl
  rw [run_loaded hload, begin, hparse]
  dsimp only
  rw [hsettings]

/-- There is the file `d`, and in the folder `s` are these entries. -/
def worldOf (entries : Entries) : World :=
  ⟨⟨[("d", .file ByteArray.empty), ("s", .folder entries)], []⟩, ByteArray.empty, "", "", .newYear, fun _ => "u", 0⟩

/-- A store with one record. -/
def recordWorld : World := worldOf [("u.json", .file titledRecord.encode.toUTF8)]

section Steps

open Store Store.Directory

variable {entries : Entries}

theorem walk_relative {path : String} (t : Tree) (names : List String) (hsplit : path.splitOn "/" = names)
    (hrelative : Files.isAbsolute path = false) : t.walk path = names.foldlM t.enter t.here := by
  rw [Tree.walk, hsplit, hrelative]
  rfl

theorem walk_store (entries : Entries) : (worldOf entries).files.walk "s" = .ok ["s"] := by
  rw [walk_relative _ ["s"] (by cbv) (by decide +kernel)]
  rfl

theorem join_store (name : String) : Files.join "s" name = "s/" ++ name := by
  rw [Files.join, if_neg (by decide +kernel)]
  rfl

theorem read_missing : World.answer (.files "s" (.read "v.json")) recordWorld = (.error .notFound, recordWorld) := by
  unfold recordWorld
  generalize titledRecord.encode.toUTF8 = content
  simp only [World.answer, Tree.answer, Files.Request.paths, join_store, walk_store]
  rfl

theorem read_record : World.answer (.files "s" (.read "u.json")) recordWorld =
    (.ok titledRecord.encode.toUTF8, recordWorld) := by
  unfold recordWorld
  generalize titledRecord.encode.toUTF8 = content
  simp only [World.answer, Tree.answer, Files.Request.paths, join_store, walk_store]
  rfl

theorem remove_record : World.answer (.files "s" (.remove "u.json")) recordWorld = (.ok (), worldOf []) := by
  unfold recordWorld
  generalize titledRecord.encode.toUTF8 = content
  simp only [World.answer, Tree.answer, Files.Request.paths, join_store, walk_store]
  rfl

/-- A file is where the folder should be. -/
theorem make_blocked : World.answer (.files "d" .make) (worldOf entries) = (.error .alreadyExists, worldOf entries) := by
  have htop : (worldOf entries).files.walk "" = .ok [] := by
    rw [walk_relative _ [""] (by cbv) (by decide +kernel)]
    rfl
  have hwalk : (worldOf entries).files.walk "d" = .error .notDirectory := by
    rw [walk_relative _ ["d"] (by cbv) (by decide +kernel)]
    rfl
  have hmake : Tree.make "d" (worldOf entries).files = (.error .alreadyExists, (worldOf entries).files) := by
    unfold Tree.make
    dsimp only
    rw [show Files.Place.ofPath "d" = ⟨"", "d", false⟩ from rfl, htop]
    rfl
  have hfolder : Tree.isFolder (worldOf entries).files "d" = false := by
    unfold Tree.isFolder
    rw [hwalk]
    rfl
  have hholders : Files.holders "d" = ["d"] := by
    rw [Files.holders, show "d".splitOn "/" = ["d"] by cbv]
    rfl
  simp only [World.answer, Tree.answer, Tree.makeAll, Files.makeWithHolders, hholders, Files.makeFirst,
    Files.makeFirst.settle, StateT.run, bind, StateT.bind, hmake, hfolder, pure, StateT.pure]
  rfl

theorem fetch_decoded {text : String} {record : Record} {w : World}
    (hread : World.answer (.files "s" (.read "u.json")) w = (.ok text.toUTF8, w))
    (hdecode : Record.decode? text = some record) :
    inFolder World.answer "s" (.fetchOne "u") w = (.ok (some record), w) := by
  rw [inFolder, Store.Directory.answer, fetchOne, withKey, if_pos (by decide), readRecord, step, Program.run_ask,
    show recordName "u" = "u.json" from rfl, hread]
  simp only [textOf?, Files.textOf_toUTF8, Except.map, hdecode]
  rfl

theorem fetch_record : inFolder World.answer "s" (.fetchOne "u") recordWorld =
    (.ok (some titledRecord), recordWorld) := by
  have hstorable : titledRecord.Storable :=
    ⟨by decide, by decide, Timestamp.newYear_isValid, Timestamp.newYear_isValid⟩
  exact fetch_decoded read_record (Record.decode?_encode hstorable)

theorem delete_record : inFolder World.answer "s" (.delete "u") recordWorld = (.ok true, worldOf []) := by
  rw [inFolder, Store.Directory.answer, delete, withKey, if_pos (by decide), step, Program.run_ask,
    show recordName "u" = "u.json" from rfl, remove_record]
  rfl

theorem lock_missing : inFolder World.answer "s" (.setLocked "v" true) recordWorld = (.ok false, recordWorld) := by
  rw [inFolder, Store.Directory.answer, Directory.modify, fetchOne, withKey, if_pos (by decide), readRecord, step]
  change (Program.ask (.read "v.json") _ : Steps Bool).run _ _ = _
  rw [Program.run_ask, read_missing]
  rfl

end Steps

theorem format_default : Format.ofName? CommandLine.defaultOutput = some .table := by decide +kernel

def deletion : Invocation := ⟨some "s", none, none, CommandLine.defaultOutput, some "d/o", .delete "u"⟩

theorem parse_deletion : CommandLine.parse storeEnv ["delete", "u", "--output-file", "d/o"] = .ok deletion := by
  decide +kernel

theorem settingsOf_deletion : settingsOf storeEnv deletion = .ok ⟨"s", none, .text⟩ := by decide +kernel

/-- The record is deleted, and then there is no folder for the file that is to say so. -/
theorem run_deletion : (run storeEnv ["delete", "u", "--output-file", "d/o"]).run World.answer recordWorld =
    (.general, { worldOf [] with
      reports := "Failed to write output to d/o: Failed to create directory: d: File exists (os error 17)\n" }) := by
  have hcall : (Service.delete "u" none).run (inFolder World.answer "s") recordWorld = (.ok (), worldOf []) := by
    rw [Service.delete, Service.withRecord, Service.ask, Program.run_ask, fetch_record]
    change (Program.ask (.delete "u") _ : Service.Task Unit).run _ _ = _
    rw [Program.run_ask, delete_record]
    rfl
  have hwrite : ∀ text, answered World.answer (writeText "d/o" text) (worldOf []) =
      (.error ((Diagnostic.general [Fault.alreadyExists.message]).within "Failed to create directory: d"),
        worldOf []) := by
    intro text
    unfold writeText
    dsimp only
    rw [show folderOf "d/o" = "d" from rfl, answered_bind, answered_askFile, make_blocked]
    rfl
  have hexecute : execute deletion ⟨"s", none, .text⟩ = perform ⟨"s", none, .text⟩ ⟨.table, some "d/o"⟩ (.delete "u") :=
    execute_eq format_default
  rw [run_storeEnv parse_deletion settingsOf_deletion, run_conclude, hexecute, perform, answered_bind, answered_stored,
    hcall]
  dsimp only
  unfold display
  dsimp only
  rw [answered_bind, within, answered_tryCatch, hwrite]
  rfl

/-- The record of the store is gone, although the run has failed. -/
theorem unheard_deletion_is_done :
    CommandLine.parse storeEnv ["delete", "u", "--output-file", "d/o"] = .ok deletion ∧
    deletion.command = .delete "u" ∧ settingsOf storeEnv deletion = .ok ⟨"s", none, .text⟩ ∧
    ((run storeEnv ["delete", "u", "--output-file", "d/o"]).run World.answer recordWorld).1 ≠ .success ∧
    recordWorld.files.top.file? "u.json" ["s"] = some titledRecord.encode.toUTF8 ∧
    ((run storeEnv ["delete", "u", "--output-file", "d/o"]).run World.answer recordWorld).2.files.top.file? "u.json"
      ["s"] = none := by
  rw [run_deletion]
  exact ⟨parse_deletion, rfl, settingsOf_deletion, by decide, rfl, rfl⟩

def locking : Invocation := ⟨some "s", none, none, CommandLine.defaultOutput, none, .setLocked "v" true⟩

theorem parse_locking : CommandLine.parse storeEnv ["lock", "v"] = .ok locking := by decide +kernel

/-- There is no such record to lock. -/
theorem run_locking : (run storeEnv ["lock", "v"]).run World.answer recordWorld =
    (.notFound, { recordWorld with
      reports := "Failed to change lock on dashboard v: No dashboard found with uuid: v\n" }) := by
  have hcall : (Service.setLocked "v" true).run (inFolder World.answer "s") recordWorld =
      (.error (.notFound "v"), recordWorld) := by
    rw [Service.setLocked, Service.ask, Program.run_ask, lock_missing]
    rfl
  have hsettings : settingsOf storeEnv locking = .ok ⟨"s", none, .text⟩ := by decide +kernel
  have hexecute : execute locking ⟨"s", none, .text⟩ = perform ⟨"s", none, .text⟩ ⟨.table, none⟩ (.setLocked "v" true) :=
    execute_eq format_default
  rw [run_storeEnv parse_locking hsettings, run_conclude, hexecute, perform, answered_bind, answered_stored, hcall]
  rfl

/-- A failed lock, whose result was not to be written to a file. -/
theorem failed_lock_keeps_records :
    ((run storeEnv ["lock", "v"]).run World.answer recordWorld).1 ≠ .success ∧
    CommandLine.parse storeEnv ["lock", "v"] = .ok locking ∧ OnStore locking.command ∧
    World.host.Kept recordWorld ((run storeEnv ["lock", "v"]).run World.answer recordWorld).2 := by
  have hfails : ((run storeEnv ["lock", "v"]).run World.answer recordWorld).1 ≠ .success := by
    rw [run_locking]
    decide
  have hstore : ∀ invocation, CommandLine.parse storeEnv ["lock", "v"] = .ok invocation →
      OnStore invocation.command := by
    intro invocation hparse
    rw [parse_locking] at hparse
    cases hparse
    trivial
  refine ⟨hfails, parse_locking, trivial, ?_⟩
  refine (failed_run_keeps_records World.host storeEnv ["lock", "v"] recordWorld hfails hstore).resolve_right ?_
  rintro ⟨invocation, settings, result, w₁, code, w₂, hparse, -, hundelivered⟩
  obtain ⟨format, -, hwithheld⟩ := hundelivered.withheld
  rw [Except.ok.inj (hparse.symm.trans parse_locking)] at hwithheld
  cases hwithheld with
  | unprinted _ hfault => cases hfault
  | unwritten hfile _ => cases hfile
  | unsaid hfile _ _ => cases hfile

end Failures

end Dashboards.Session
