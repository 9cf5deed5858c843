import Dashboards.Proofs.Settings
import Mathlib

/-!
# Layers of settings

Settings are laid one over the other: the environment, as often as it is read, and explicit choices, in
any order.

* `Layer`, `Draft.layered`, `ofLayers` : one layer, layers on a draft, and the settings they make;
* `Layer.storeDir?`, `Layer.user?`, `Layer.logFormat?` : what a layer sets; `last` : what is set last;
* `Misnames` : the environment names a log format that there is not;
* `Layer.apply_lawful`, `layered_lawful` : a layer replaces what it sets, and layers leave what is set
  last; `layered_misnamed` : where they stop;
* `ofLayers_unknownLogFormat_iff`, `ofLayers_blankUser_iff`, `ofLayers_ok_iff` : each outcome;
* `last_layer_decides` : the settings of any layers, and where there are none.
-/

namespace Dashboards.Settings

/-! ## Layers -/

/-- One reading of the environment, or one explicit choice. -/
inductive Layer where
  | environment
  | storeDir (folder : String)
  | user (name : String)
  | logFormat (format : LogFormat)
  deriving DecidableEq, Repr

def Layer.apply (env : Environment) : Layer → Draft → Except Flaw Draft
  | .environment, draft => draft.withVariables env
  | .storeDir folder, draft => .ok (draft.withStoreDir folder)
  | .user name, draft => .ok (draft.withUser name)
  | .logFormat format, draft => .ok (draft.withLogFormat format)

/-- A draft with layers over it, the last one on top. -/
def Draft.layered (env : Environment) (draft : Draft) (layers : List Layer) : Except Flaw Draft :=
  layers.foldlM (fun draft layer => layer.apply env draft) draft

/-- The settings that layers make. -/
def ofLayers (env : Environment) (layers : List Layer) : Except Flaw Settings := do
  (← Draft.empty.layered env layers).settings env

/-! ## What layers set -/

namespace Layer

def storeDir? (env : Environment) : Layer → Option String
  | .environment => trimmed (env.get? storeDirVariable)
  | .storeDir folder => some folder
  | _ => none

def user? (env : Environment) : Layer → Option String
  | .environment => trimmed (env.get? userVariable)
  | .user name => some name
  | _ => none

def logFormat? (env : Environment) : Layer → Option LogFormat
  | .environment => (trimmed (env.get? logFormatVariable)).bind LogFormat.ofName?
  | .logFormat format => some format
  | _ => none

end Layer

/-- What the last layer chooses that chooses anything. -/
def last {α : Type} (choice : Layer → Option α) (layers : List Layer) : Option α := (layers.filterMap choice).getLast?

/-- The environment names a log format that is neither of the two, with small or capital letters. -/
def Misnames (env : Environment) (name : String) : Prop :=
  trimmed (env.get? logFormatVariable) = some name ∧ name.toLower ≠ "text" ∧ name.toLower ≠ "json"

/-- What a flaw finds fault with. -/
def Flaw.subject : Flaw → String
  | .unknownLogFormat _ => logFormatVariable
  | .blankUser => "user"

theorem message_eq (flaw : Flaw) : ∃ reason, flaw.message = "Invalid value for " ++ flaw.subject ++ ": " ++ reason := by
  cases flaw with
  | unknownLogFormat name => exact ⟨LogFormat.unknownMessage name, rfl⟩
  | blankUser => exact ⟨"must not be blank", rfl⟩

theorem last_cons {α : Type} (choice : Layer → Option α) (layer : Layer) (layers : List Layer) :
    last choice (layer :: layers) = (last choice layers).or (choice layer) := by
  unfold last
  cases h : choice layer with
  | none => rw [List.filterMap_cons_none h, Option.or_none]
  | some a =>
    rw [List.filterMap_cons_some h, List.getLast?_cons]
    cases (layers.filterMap choice).getLast? <;> rfl

/-! ## One layer -/

section Layered

variable {env : Environment}

/-- The draft under a layer that chooses what it chooses. -/
def Layer.cover (env : Environment) (layer : Layer) (draft : Draft) : Draft :=
  ⟨(layer.storeDir? env).or draft.storeDir, (layer.user? env).or draft.user, (layer.logFormat? env).or draft.logFormat⟩

/-- The layer is no reading of an environment that names a log format that there is not. -/
def Lawful (env : Environment) (layer : Layer) : Prop := layer = .environment → ∀ name, ¬Misnames env name

theorem logFormatOf_lawful (h : ∀ name, ¬Misnames env name) :
    Draft.logFormatOf env = .ok (Layer.environment.logFormat? env) := by
  unfold Draft.logFormatOf Layer.logFormat?
  rw [setting?_eq]
  cases htext : trimmed (env.get? logFormatVariable) with
  | none => rfl
  | some name =>
    cases hname : LogFormat.ofName? name with
    | none => exact absurd ⟨htext, LogFormat.ofName?_eq_none.mp hname⟩ (h name)
    | some format => simp [hname]

theorem logFormatOf_misnamed {name : String} (h : Misnames env name) :
    Draft.logFormatOf env = .error (.unknownLogFormat name) := by
  unfold Draft.logFormatOf
  rw [setting?_eq, h.1]
  dsimp only
  rw [LogFormat.ofName?_eq_none.mpr h.2]

/-- A layer replaces what it sets, and nothing else. -/
theorem Layer.apply_lawful {layer : Layer} (h : Lawful env layer) (draft : Draft) :
    layer.apply env draft = .ok (layer.cover env draft) := by
  cases layer with
  | environment =>
    change draft.withVariables env = _
    unfold Draft.withVariables
    rw [bind_ok (logFormatOf_lawful (h rfl)), setting?_eq, setting?_eq]
    rfl
  | storeDir folder => rfl
  | user name => rfl
  | logFormat format => rfl

theorem Layer.apply_misnamed {name : String} (h : Misnames env name) (draft : Draft) :
    Layer.environment.apply env draft = .error (.unknownLogFormat name) := by
  change draft.withVariables env = _
  unfold Draft.withVariables
  rw [logFormatOf_misnamed h]
  rfl

/-! ## Layers over layers -/

/-- Of all that layers set, what is set last is left. -/
theorem layered_lawful {layers : List Layer} (h : ∀ layer ∈ layers, Lawful env layer) (draft : Draft) :
    draft.layered env layers =
      .ok ⟨(last (·.storeDir? env) layers).or draft.storeDir, (last (·.user? env) layers).or draft.user,
        (last (·.logFormat? env) layers).or draft.logFormat⟩ := by
  induction layers generalizing draft with
  | nil => rfl
  | cons layer layers ih =>
    have hlayer : Lawful env layer := h layer List.mem_cons_self
    have hlayers : ∀ layer ∈ layers, Lawful env layer := fun l hl => h l (List.mem_cons_of_mem layer hl)
    unfold Draft.layered at ih ⊢
    rw [List.foldlM_cons, bind_ok (layer.apply_lawful hlayer draft), ih hlayers]
    simp only [last_cons, Option.or_assoc, Layer.cover]

/-- The first reading of an environment that misnames a log format is where layers stop. -/
theorem layered_misnamed {name : String} (h : Misnames env name) {layers : List Layer} (hmem : .environment ∈ layers)
    (draft : Draft) : draft.layered env layers = .error (.unknownLogFormat name) := by
  obtain ⟨before, after, rfl, hbefore⟩ := List.eq_append_cons_of_mem hmem
  have hlawful : ∀ layer ∈ before, Lawful env layer := by
    rintro layer hlayer rfl
    exact absurd hlayer hbefore
  have hfirst := layered_lawful hlawful draft
  unfold Draft.layered at hfirst ⊢
  rw [List.foldlM_append, bind_ok hfirst, List.foldlM_cons, Layer.apply_misnamed h]
  rfl

theorem lawful_of_not_misnamed {layers : List Layer} (h : ¬(.environment ∈ layers ∧ ∃ name, Misnames env name)) :
    ∀ layer ∈ layers, Lawful env layer := by
  rintro layer hlayer rfl name hname
  exact h ⟨hlayer, name, hname⟩

theorem ofLayers_misnamed {name : String} (h : Misnames env name) {layers : List Layer} (hmem : .environment ∈ layers) :
    ofLayers env layers = .error (.unknownLogFormat name) := by
  unfold ofLayers
  rw [layered_misnamed h hmem]
  rfl

theorem ofLayers_lawful {layers : List Layer} (h : ∀ layer ∈ layers, Lawful env layer) :
    ofLayers env layers =
      if (last (·.user? env) layers).any Text.isBlank then .error .blankUser
      else .ok ⟨(last (·.storeDir? env) layers).getD (defaultStoreDir env), last (·.user? env) layers,
        (last (·.logFormat? env) layers).getD .text⟩ := by
  unfold ofLayers
  rw [bind_ok (layered_lawful h Draft.empty)]
  unfold Draft.settings Draft.empty
  simp only [Option.or_none]

/-- Layers fail over the environment exactly if it is read and misnames a log format. -/
theorem ofLayers_unknownLogFormat_iff {layers : List Layer} {name : String} :
    ofLayers env layers = .error (.unknownLogFormat name) ↔ .environment ∈ layers ∧ Misnames env name := by
  constructor
  · intro h
    by_cases hmisnamed : .environment ∈ layers ∧ ∃ name, Misnames env name
    · obtain ⟨hmem, name', hname⟩ := hmisnamed
      rw [ofLayers_misnamed hname hmem] at h
      cases h
      exact ⟨hmem, hname⟩
    · rw [ofLayers_lawful (lawful_of_not_misnamed hmisnamed)] at h
      split_ifs at h
      cases h
  · rintro ⟨hmem, hname⟩
    exact ofLayers_misnamed hname hmem

theorem ofLayers_blankUser_iff {layers : List Layer} :
    ofLayers env layers = .error .blankUser ↔
      ¬(.environment ∈ layers ∧ ∃ name, Misnames env name) ∧
        ∃ user, last (·.user? env) layers = some user ∧ Text.isBlank user := by
  by_cases hmisnamed : .environment ∈ layers ∧ ∃ name, Misnames env name
  · obtain ⟨hmem, name, hname⟩ := id hmisnamed
    rw [ofLayers_misnamed hname hmem]
    simp [hmisnamed]
  · rw [ofLayers_lawful (lawful_of_not_misnamed hmisnamed), ← Option.any_eq_true]
    split_ifs with huser <;> simp [hmisnamed, huser]

theorem ofLayers_ok_iff {layers : List Layer} {settings : Settings} :
    ofLayers env layers = .ok settings ↔
      ¬(.environment ∈ layers ∧ ∃ name, Misnames env name) ∧
        (¬∃ user, last (·.user? env) layers = some user ∧ Text.isBlank user) ∧
        settings = ⟨(last (·.storeDir? env) layers).getD (defaultStoreDir env), last (·.user? env) layers,
          (last (·.logFormat? env) layers).getD .text⟩ := by
  by_cases hmisnamed : .environment ∈ layers ∧ ∃ name, Misnames env name
  · obtain ⟨hmem, name, hname⟩ := id hmisnamed
    rw [ofLayers_misnamed hname hmem]
    simp [hmisnamed]
  · rw [ofLayers_lawful (lawful_of_not_misnamed hmisnamed), ← Option.any_eq_true]
    split_ifs with huser <;> simp [hmisnamed, huser, eq_comm]

/-- The layers before the first reading of the environment make a draft, and that reading finds the name. -/
theorem first_reading_misnamed (env : Environment) (layers : List Layer) :
    ∃ draft, Draft.empty.layered env (layers.takeWhile (· ≠ .environment)) = .ok draft ∧
      ∀ name, Misnames env name → Layer.environment.apply env draft = .error (.unknownLogFormat name) := by
  have hbefore : ∀ layer ∈ layers.takeWhile (· ≠ .environment), Lawful env layer := by
    rintro layer hlayer rfl
    simpa using List.mem_takeWhile_imp hlayer
  exact ⟨_, layered_lawful hbefore Draft.empty, fun _ h => Layer.apply_misnamed h _⟩

end Layered

/-! ## Settings -/

/-- Each setting is what the last layer says that says anything about it, or else the default. There
are no settings if the environment is read and names a log format that there is not, which the first
reading of it finds, or else if the user set last is blank. -/
theorem last_layer_decides (env : Environment) (layers : List Layer) :
    (∀ name, ofLayers env layers = .error (.unknownLogFormat name) ↔ .environment ∈ layers ∧ Misnames env name) ∧
    (∃ draft, Draft.empty.layered env (layers.takeWhile (· ≠ .environment)) = .ok draft ∧
      ∀ name, Misnames env name → Layer.environment.apply env draft = .error (.unknownLogFormat name)) ∧
    (ofLayers env layers = .error .blankUser ↔
      ¬(.environment ∈ layers ∧ ∃ name, Misnames env name) ∧
        ∃ user, last (·.user? env) layers = some user ∧ Text.isBlank user) ∧
    (∀ settings, ofLayers env layers = .ok settings ↔
      ¬(.environment ∈ layers ∧ ∃ name, Misnames env name) ∧
        (¬∃ user, last (·.user? env) layers = some user ∧ Text.isBlank user) ∧
        settings = ⟨(last (·.storeDir? env) layers).getD (defaultStoreDir env), last (·.user? env) layers,
          (last (·.logFormat? env) layers).getD .text⟩) ∧
    ∀ flaw, ofLayers env layers = .error flaw →
      ∃ reason, flaw.message = "Invalid value for " ++ flaw.subject ++ ": " ++ reason :=
  ⟨fun _ => ofLayers_unknownLogFormat_iff, first_reading_misnamed env layers, ofLayers_blankUser_iff,
    fun _ => ofLayers_ok_iff, fun flaw _ => message_eq flaw⟩

end Dashboards.Settings
