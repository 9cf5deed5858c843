import Dashboards.Proofs.Settings
import Dashboards.Session
import Dashboards.Session.World
import Mathlib

/-!
# Which settings a run works under

* `begin`, `conclude` : a run from its environment on, and from its settings on; `run_loaded` : a run
  begins as soon as the file of variables is read (`run_unloaded` : or it stops);
* `StopsEarly` : a run that ends before its command;
* `begin_refused`, `begin_taken`, `begin_cases` : how a command line begins that gives none of the
  options that variables may set;
* `variables_decide` : it runs under the settings of the environment, or stops early because there are
  none, if the variables are tidy, and only then (`tidy_user_acts`);
* `untidy_user_diverges` : a blank user and a padded one.
-/

namespace Dashboards.Session

open CommandLine (Invocation Refusal bare draftTaken parse_plain)
open Settings

/-! ## Runs in two parts -/

/-- A run behind its settings. -/
def conclude (invocation : Invocation) (settings : Settings) : Program Reply ExitCode := do
  match ← (execute invocation settings).run with
  | .ok () => return .success
  | .error d => stop d.message d.exitCode

/-- A run behind its file of variables. -/
def begin (env : Environment) (words : List String) : Program Reply ExitCode :=
  match CommandLine.parse env words with
  | .error refusal => refuse refusal
  | .ok invocation =>
    match settingsOf env invocation with
    | .error flaw => stop ("Failed to build configuration: " ++ flaw.message) .general
    | .ok settings => conclude invocation settings

variable {start env : Environment} {words : List String} {invocation : Invocation} {w w' : World}

section Loading

variable {σ : Type} {answer : (q : Request) → σ → Reply q × σ} {s s' : σ}

theorem run_loaded (hload : (loadVariables start).run answer s = ((env, none), s')) (words : List String) :
    (run start words).run answer s = (begin env words).run answer s' := by
  unfold run
  rw [Program.run_bind, hload]
  rfl

theorem run_unloaded {failure : Dotenv.Failure} (hload : (loadVariables start).run answer s = ((env, some failure), s'))
    (words : List String) :
    (run start words).run answer s =
      (stop ("Failed to load environment: " ++ failure.message) .general).run answer s' := by
  unfold run
  rw [Program.run_bind, hload]

end Loading

/-- A run has ended with a code of failure, and nothing has changed in the world since but that it says
why. -/
def StopsEarly (ended : ExitCode × World) (w : World) : Prop :=
  ∃ code message, code ≠ .success ∧ ended = (code, { w with reports := w.reports ++ message })

theorem stopsEarly_stop (message : String) (w : World) : StopsEarly ((stop message .general).run World.answer w) w :=
  ⟨.general, message ++ "\n", by decide, rfl⟩

theorem stopsEarly_refuse {refusal : Refusal} (h : refusal.isAnswer = false) (w : World) :
    StopsEarly ((refuse refusal).run World.answer w) w := by
  refine ⟨.usage, refusal.text, by decide, ?_⟩
  unfold refuse Refusal.exitCode
  rw [h]
  rfl

/-! ## Command lines without options -/

section Plain

variable (hvalid : CommandLine.parse bare words = .ok invocation) (hplain : invocation.Plain)

include hvalid hplain

theorem begin_refused {refusal : Refusal} (h : draftTaken env = .error refusal) : begin env words = refuse refusal := by
  unfold begin
  rw [parse_plain hvalid hplain, h]
  rfl

theorem begin_taken {taken : Draft} (h : draftTaken env = .ok taken) :
    begin env words =
      match merged env taken with
      | .error flaw => stop ("Failed to build configuration: " ++ flaw.message) .general
      | .ok settings => conclude invocation settings := by
  unfold begin
  rw [parse_plain hvalid hplain, h]
  rfl

/-- Either the run stops early, or it goes on under what the variables come to. -/
theorem begin_cases (env : Environment) (w : World) :
    StopsEarly ((begin env words).run World.answer w) w ∨
      ∃ taken settings, draftTaken env = .ok taken ∧ merged env taken = .ok settings ∧
        begin env words = conclude invocation settings := by
  cases htaken : draftTaken env with
  | error refusal =>
    rw [begin_refused hvalid hplain htaken]
    exact .inl (stopsEarly_refuse (CommandLine.draftTaken_refusal htaken) w)
  | ok taken =>
    have hbegin := begin_taken hvalid hplain htaken
    cases hmerged : merged env taken with
    | error flaw =>
      rw [hmerged] at hbegin
      rw [hbegin]
      exact .inl (stopsEarly_stop _ w)
    | ok settings =>
      rw [hmerged] at hbegin
      exact .inr ⟨taken, settings, rfl, hmerged, hbegin⟩

/-- Without any of its options, a run stops early where the environment has no settings. Where it has some
the run goes on under these if all variables are tidy, and otherwise it stops early or goes on under
others. -/
theorem variables_decide (hload : (loadVariables start).run World.answer w = ((env, none), w')) :
    (∀ flaw, ofVariables env = .error flaw → StopsEarly ((run start words).run World.answer w) w') ∧
    (∀ settings, ofVariables env = .ok settings → TidyVariables env →
      (run start words).run World.answer w = (conclude invocation settings).run World.answer w') ∧
    (∀ settings, ofVariables env = .ok settings → ¬TidyVariables env →
      StopsEarly ((run start words).run World.answer w) w' ∨
        ∃ other ≠ settings, (run start words).run World.answer w = (conclude invocation other).run World.answer w') := by
  rw [run_loaded hload]
  refine ⟨fun flaw hflaw => ?_, fun settings hsettings htidy => ?_, fun settings hsettings huntidy => ?_⟩
  · rcases begin_cases hvalid hplain env w' with hstop | ⟨taken, settings, -, hmerged, -⟩
    · exact hstop
    · obtain ⟨flaw', hflaw'⟩ := merged_flawed hflaw taken
      rw [hflaw'] at hmerged
      cases hmerged
  · obtain ⟨taken, htaken, hmerged⟩ := merged_of_tidy htidy hsettings
    rw [begin_taken hvalid hplain htaken, hmerged]
  · rcases begin_cases hvalid hplain env w' with hstop | ⟨taken, other, htaken, hmerged, hbegin⟩
    · exact .inl hstop
    · refine .inr ⟨other, ?_, by rw [hbegin]⟩
      rintro rfl
      exact huntidy (tidy_of_merged hsettings htaken hmerged)

end Plain

/-! ## Users of the environment -/

/-- No file of variables is wanted, and a user is given. -/
def userEnv (user : String) : Environment := ⟨[(Dotenv.disablingVariable, .text "1"), (userVariable, .text user)], none⟩

/-- A world without files. -/
def emptyWorld : World := ⟨⟨[], []⟩, ByteArray.empty, "", "", default, fun _ => "", 0⟩

theorem loadVariables_userEnv (user : String) (w : World) :
    (loadVariables (userEnv user)).run World.answer w = ((userEnv user, none), w) := rfl

def listInvocation : Invocation := ⟨none, none, none, CommandLine.defaultOutput, none, .list⟩

theorem parse_list : CommandLine.parse bare ["list"] = .ok listInvocation := by decide +kernel

theorem plain_list : listInvocation.Plain := ⟨rfl, rfl, rfl⟩

theorem tidy_bob : TidyVariables (userEnv "bob") := ⟨trivial, ⟨by decide, by decide⟩, trivial⟩

theorem ofVariables_bob : ofVariables (userEnv "bob") = .ok ⟨"./dashboards", some "bob", .text⟩ := by decide +kernel

/-- A list of the empty store, on behalf of the user of the environment. -/
theorem tidy_user_acts :
    CommandLine.parse bare ["list"] = .ok listInvocation ∧ listInvocation.Plain ∧ TidyVariables (userEnv "bob") ∧
    ofVariables (userEnv "bob") = .ok ⟨"./dashboards", some "bob", .text⟩ ∧
    (run (userEnv "bob") ["list"]).run World.answer emptyWorld =
      (conclude listInvocation ⟨"./dashboards", some "bob", .text⟩).run World.answer emptyWorld := by
  refine ⟨parse_list, plain_list, tidy_bob, ofVariables_bob, ?_⟩
  exact (variables_decide parse_list plain_list (loadVariables_userEnv "bob" emptyWorld)).2.1 _ ofVariables_bob tidy_bob

/-- The environment takes a blank user for none, and a run is stopped by it; of another it takes what is
between white space, and a run takes the white space as well. -/
theorem untidy_user_diverges :
    CommandLine.parse bare ["list"] = .ok listInvocation ∧ listInvocation.Plain ∧
    ofVariables (userEnv " ") = .ok ⟨"./dashboards", none, .text⟩ ∧
    (run (userEnv " ") ["list"]).run World.answer emptyWorld =
      (.general, { emptyWorld with
        reports := "Failed to build configuration: Invalid value for user: must not be blank\n" }) ∧
    ofVariables (userEnv " bob ") = .ok ⟨"./dashboards", some "bob", .text⟩ ∧
    run (userEnv " bob ") ["list"] = conclude listInvocation ⟨"./dashboards", some " bob ", .text⟩ := by
  refine ⟨parse_list, plain_list, by decide +kernel, ?_, by decide +kernel, ?_⟩
  · have htaken : draftTaken (userEnv " ") = .ok ⟨none, some " ", none⟩ := by decide +kernel
    rw [run_loaded (loadVariables_userEnv " " emptyWorld), begin_taken parse_list plain_list htaken]
    rfl
  · have htaken : draftTaken (userEnv " bob ") = .ok ⟨none, some " bob ", none⟩ := by decide +kernel
    change begin (userEnv " bob ") ["list"] = _
    rw [begin_taken parse_list plain_list htaken]
    rfl

end Dashboards.Session
