import Dashboards.CommandLine
import Dashboards.Proofs.Except
import Mathlib

/-!
# Variables on a command line

* `taken`, `draftTaken` : what a command line takes of one variable, and of all its variables;
  `taken_cases` : where it takes something; `draftTaken_refusal` : where it refuses them, that is no answer;
* `Options.Plain`, `Options.withVariables_plain` : options of which variables may set any;
* `Unset`, `withVariables_unset` : no variable of an option is set, and options stay as they are;
* `parse_plain` : a command line without such options asks for the same under all variables, apart from
  what they choose.
-/

namespace Dashboards

theorem LogFormat.ofName?_eq_none {name : String} :
    LogFormat.ofName? name = none ↔ name.toLower ≠ "text" ∧ name.toLower ≠ "json" := by
  unfold LogFormat.ofName?
  split <;> simp_all

end Dashboards

namespace Dashboards.CommandLine

open Settings

/-! ## What variables choose -/

section Taken

variable {α : Type} {check : String → Except Refusal α}

/-- The value of a variable as it stands, if the check of its option passes. -/
def taken (check : String → Except Refusal α) : Option Variable → Except Refusal (Option α)
  | none => .ok none
  | some (.text value) => (check value).map some
  | some (.undecodable _) => .error .undecodableValue

theorem taken_text_ok {value : String} {choice : Option α} :
    taken check (some (.text value)) = .ok choice ↔ ∃ a, check value = .ok a ∧ choice = some a := by
  unfold taken
  dsimp only
  cases check value with
  | ok a => simp [Except.map, eq_comm]
  | error refusal => simp [Except.map]

/-- What is taken is nothing of a variable that is missing, or what the check makes of its text. -/
theorem taken_cases {found : Option Variable} {choice : Option α} (h : taken check found = .ok choice) :
    (found = none ∧ choice = none) ∨
      ∃ value a, found = some (.text value) ∧ check value = .ok a ∧ choice = some a := by
  match found with
  | none => exact .inl ⟨rfl, (Except.ok.inj h).symm⟩
  | some (.undecodable _) => cases h
  | some (.text value) =>
    obtain ⟨a, hcheck, hchoice⟩ := taken_text_ok.mp h
    exact .inr ⟨value, a, rfl, hcheck, hchoice⟩

theorem taken_refusal (hcheck : ∀ value refusal, check value = .error refusal → refusal.isAnswer = false)
    {found : Option Variable} {refusal : Refusal} (h : taken check found = .error refusal) :
    refusal.isAnswer = false := by
  match found with
  | none => cases h
  | some (.undecodable _) =>
    cases h
    rfl
  | some (.text value) =>
    cases hvalue : check value with
    | ok a => simp [taken, hvalue, Except.map] at h
    | error r =>
      simp only [taken, hvalue, Except.map, Except.error.injEq] at h
      exact h ▸ hcheck value r hvalue

end Taken

def checkLogFormat (value : String) : Except Refusal LogFormat :=
  match LogFormat.ofName? value with
  | some format => .ok format
  | none => .error .invalidValue

theorem checkLogFormat_ok {value : String} {format : LogFormat} :
    checkLogFormat value = .ok format ↔ LogFormat.ofName? value = some format := by
  unfold checkLogFormat
  cases LogFormat.ofName? value <;> simp

/-- What a command line takes of its variables. -/
def draftTaken (env : Environment) : Except Refusal Draft := do
  let storeDir ← taken Options.path (env.get? storeDirVariable)
  let user ← taken .ok (env.get? userVariable)
  let logFormat ← taken checkLogFormat (env.get? logFormatVariable)
  return ⟨storeDir, user, logFormat⟩

theorem path_refusal {value : String} {refusal : Refusal} (h : Options.path value = .error refusal) :
    refusal.isAnswer = false := by
  unfold Options.path at h
  split_ifs at h
  cases h
  rfl

theorem checkLogFormat_refusal {value : String} {refusal : Refusal} (h : checkLogFormat value = .error refusal) :
    refusal.isAnswer = false := by
  unfold checkLogFormat at h
  split at h
  · cases h
  · cases h
    rfl

/-- Variables that are refused ask for no help. -/
theorem draftTaken_refusal {env : Environment} {refusal : Refusal} (h : draftTaken env = .error refusal) :
    refusal.isAnswer = false := by
  rcases bind_eq_error h with hstore | ⟨_, -, h⟩
  · exact taken_refusal (fun _ _ => path_refusal) hstore
  rcases bind_eq_error h with huser | ⟨_, -, h⟩
  · exact taken_refusal (fun _ _ h => by cases h) huser
  rcases bind_eq_error h with hformat | ⟨_, -, h⟩
  · exact taken_refusal (fun _ _ => checkLogFormat_refusal) hformat
  · cases h

/-! ## Options that are not given -/

namespace Options

/-- No option is given that a variable may set. -/
structure Plain (o : Options) : Prop where
  storeDir : o.storeDir = none
  user : o.user = none
  logFormat : o.logFormat = none

/-- The options with what variables choose. -/
def choose (o : Options) (draft : Draft) : Options :=
  { o with storeDir := draft.storeDir, user := draft.user, logFormat := draft.logFormat }

theorem withVariable_missing {α : Type} (check : String → Except Refusal α) (set : Option α → Options) {o : Options}
    {key : Key} (hmissing : o.has key = false) (hnone : set none = o)
    (hput : ∀ value, o.put key value = (check value).map fun a => set (some a)) (env : Environment) (name : String) :
    withVariable env o (key, name) = (taken check (env.get? name)).map set := by
  unfold withVariable
  dsimp only
  rw [if_neg (Bool.eq_false_iff.mp hmissing)]
  match env.get? name with
  | none => exact congrArg Except.ok hnone.symm
  | some (.undecodable _) => rfl
  | some (.text value) =>
    change o.put key value = ((check value).map some).map set
    rw [hput]
    cases check value <;> rfl

theorem put_logFormat (o : Options) (value : String) :
    o.put .logFormat value = (checkLogFormat value).map fun format => { o with logFormat := some format } := by
  unfold put checkLogFormat
  dsimp only
  cases LogFormat.ofName? value <;> rfl

theorem withVariables_plain {o : Options} (ho : o.Plain) (env : Environment) :
    o.withVariables env = (draftTaken env).map o.choose := by
  obtain ⟨_, _, _, output, outputFile⟩ := o
  obtain ⟨rfl, rfl, rfl⟩ := ho
  unfold withVariables draftTaken Key.ofVariables
  simp only [List.foldlM_cons, List.foldlM_nil, bind_pure]
  rw [withVariable_missing path (fun s => ⟨s, none, none, output, outputFile⟩) rfl rfl fun _ => rfl]
  cases taken path (env.get? storeDirVariable) with
  | error refusal => rfl
  | ok s =>
    change (withVariable env ⟨s, none, none, output, outputFile⟩ (.user, _) >>= _) = Except.map _ (_ >>= _)
    rw [withVariable_missing .ok (fun u => ⟨s, u, none, output, outputFile⟩) rfl rfl fun _ => rfl]
    cases taken .ok (env.get? userVariable) with
    | error refusal => rfl
    | ok u =>
      change withVariable env ⟨s, u, none, output, outputFile⟩ (.logFormat, _) = Except.map _ (_ >>= _)
      rw [withVariable_missing checkLogFormat (fun f => ⟨s, u, f, output, outputFile⟩) rfl rfl (put_logFormat _)]
      cases taken checkLogFormat (env.get? logFormatVariable) <;> rfl

end Options

/-! ## Command lines without them -/

/-- An environment without variables. -/
def bare : Environment := ⟨[], none⟩

theorem get?_bare {name : String} (h : '=' ∉ name.toList) : bare.get? name = none := by
  rw [Environment.get?_eq_binding? _ h]
  rfl

/-- No variable of an option is set. -/
def Unset (env : Environment) : Prop := ∀ entry ∈ Key.ofVariables, env.get? entry.2 = none

theorem unset_bare : Unset bare := by
  have hnames : ∀ entry ∈ Key.ofVariables, '=' ∉ entry.2.toList := by decide
  exact fun entry hentry => get?_bare (hnames entry hentry)

theorem withVariables_unset {env : Environment} (h : Unset env) (o : Options) : o.withVariables env = .ok o := by
  have hentry : ∀ entry ∈ Key.ofVariables, o.withVariable env entry = .ok o := by
    rintro ⟨key, name⟩ hmem
    unfold Options.withVariable
    dsimp only
    rw [h _ hmem]
    split_ifs <;> rfl
  unfold Options.withVariables
  generalize Key.ofVariables = entries at hentry
  induction entries with
  | nil => rfl
  | cons entry entries ih =>
    rw [List.foldlM_cons, bind_ok (hentry entry List.mem_cons_self)]
    exact ih fun other hother => hentry other (List.mem_cons_of_mem entry hother)

theorem finish_unset {env : Environment} (h : Unset env) {s t : Scan} (hs : s.settle = .ok t) :
    finish env s = .ok (t, t.options) := by
  unfold finish
  rw [bind_ok hs, bind_ok (withVariables_unset h t.options)]
  rfl

theorem finish_bare {s t : Scan} {options : Options} (h : finish bare s = .ok (t, options)) :
    s.settle = .ok t ∧ options = t.options := by
  obtain ⟨t', hsettle, h⟩ := bind_eq_ok h
  rw [bind_ok (withVariables_unset unset_bare _)] at h
  cases h
  exact ⟨hsettle, rfl⟩

theorem finish_plain {s t : Scan} (hsettle : s.settle = .ok t) (hplain : t.options.Plain) (env : Environment) :
    finish env s = (draftTaken env).map fun draft => (t, t.options.choose draft) := by
  unfold finish
  rw [bind_ok hsettle, Options.withVariables_plain hplain]
  cases draftTaken env <;> rfl

/-- What a command line asks for that gives none of its options that variables may set. -/
structure Invocation.Plain (invocation : Invocation) : Prop where
  storeDir : invocation.storeDir = none
  user : invocation.user = none
  logFormat : invocation.logFormat = none

/-- The same, with what variables choose. -/
def Invocation.choose (invocation : Invocation) (draft : Draft) : Invocation :=
  { invocation with storeDir := draft.storeDir, user := draft.user, logFormat := draft.logFormat }

theorem Invocation.Plain.options {o p : Options} {command : Command}
    (h : (Invocation.ofOptions (o.orElse p) command).Plain) : o.Plain ∧ p.Plain := by
  obtain ⟨hstore, huser, hformat⟩ := h
  simp only [Invocation.ofOptions, Options.orElse, Option.or_eq_none_iff] at hstore huser hformat
  exact ⟨⟨hstore.1, huser.1, hformat.1⟩, ⟨hstore.2, huser.2, hformat.2⟩⟩

theorem ofOptions_choose {o : Options} (ho : o.Plain) (p : Options) (draft : Draft) (command : Command) :
    Invocation.ofOptions (o.orElse (p.choose draft)) command = (Invocation.ofOptions (o.orElse p) command).choose draft := by
  simp only [Invocation.ofOptions, Options.orElse, Options.choose, Invocation.choose, ho.storeDir, ho.user, ho.logFormat,
    Option.none_or]

/-- All the variables of its options do to such a command line is to choose what it leaves open, or to
have it refused. -/
theorem parse_plain {words : List String} {invocation : Invocation} (hvalid : parse bare words = .ok invocation)
    (hplain : invocation.Plain) (env : Environment) :
    parse env words = (draftTaken env).map invocation.choose := by
  unfold parse at hvalid ⊢
  obtain ⟨⟨outer, found⟩, houtside, hvalid⟩ := bind_eq_ok hvalid
  rw [bind_ok houtside]
  match found with
  | none =>
    obtain ⟨_, -, hvalid⟩ := bind_eq_ok hvalid
    cases hvalid
  | some (verb, rest) =>
    dsimp only at hvalid ⊢
    obtain ⟨scan, hinside, hvalid⟩ := bind_eq_ok hvalid
    obtain ⟨⟨inner, _⟩, hinner, hvalid⟩ := bind_eq_ok hvalid
    rw [bind_ok hinside]
    dsimp only at hvalid ⊢
    cases hcommand : verb.command? inner.arguments with
    | none =>
      rw [hcommand] at hvalid
      cases hvalid
    | some command =>
      rw [hcommand] at hvalid
      obtain ⟨⟨outer', _⟩, houter, hvalid⟩ := bind_eq_ok hvalid
      cases hvalid
      obtain ⟨hsettle, rfl⟩ := finish_bare hinner
      obtain ⟨hsettle', rfl⟩ := finish_bare houter
      obtain ⟨hin, hout⟩ := hplain.options
      rw [finish_plain hsettle hin, finish_plain hsettle' hout]
      cases draftTaken env with
      | error refusal => rfl
      | ok draft =>
        have hmap : ∀ {α : Type} (f : Draft → α), (Except.ok draft : Except Refusal Draft).map f = .ok (f draft) :=
          fun _ => rfl
        rw [bind_ok (hmap _)]
        dsimp only
        rw [hcommand]
        exact congrArg Except.ok (ofOptions_choose hin _ draft command)

end Dashboards.CommandLine
