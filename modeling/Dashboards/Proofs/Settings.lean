import Dashboards.Proofs.CommandLine.Variables
import Dashboards.Proofs.Files.Path
import Dashboards.Proofs.Text.Blank
import Mathlib

/-!
# Settings of the environment, and of a command line

* `ofVariables` : the settings of the environment alone; `trimmed`, `withVariables_empty`,
  `settings_withVariables` : what its variables make of them;
* `Tidy`, `TidyVariables` : variables without white space around them, and not empty;
* `draftTaken_of_tidy` : a command line takes of tidy variables what the environment sets by them;
  `tidy_of_storeDir`, `tidy_of_user`, `tidy_of_logFormat` : of others it takes something else, or
  nothing;
* `merged` : the settings of a command line that took something of the variables; `merged_of_tidy`,
  `tidy_of_merged`, `merged_flawed` : where these are the settings of the environment.
-/

namespace Dashboards.Settings

open CommandLine

variable {env : Environment} {draft : Draft} {settings : Settings}

/-! ## Settings of the environment -/

/-- The settings that the environment decides alone. -/
def ofVariables (env : Environment) : Except Flaw Settings := do
  (← Draft.empty.withVariables env).settings env

/-- The text that the environment sets by a variable. -/
def trimmed : Option Variable → Option String
  | some (.text value) => if Text.isBlank value then none else some (Text.trim value)
  | _ => none

theorem trimmed_text (value : String) :
    trimmed (some (.text value)) = if Text.isBlank value then none else some (Text.trim value) := rfl

theorem setting?_eq (env : Environment) (name : String) : env.setting? name = trimmed (env.get? name) := by
  unfold Environment.setting? Environment.text?
  match env.get? name with
  | none => rfl
  | some (.undecodable _) => rfl
  | some (.text value) => rfl

theorem isBlank_trimmed {found : Option Variable} {value : String} (h : trimmed found = some value) :
    Text.isBlank value = false := by
  unfold trimmed at h
  split at h
  · split_ifs at h with hblank
    cases h
    rw [Text.isBlank_trim]
    exact Bool.eq_false_iff.mpr hblank
  · cases h

theorem withVariables_empty (env : Environment) : Draft.empty.withVariables env =
    (Draft.logFormatOf env).map fun logFormat =>
      ⟨trimmed (env.get? storeDirVariable), trimmed (env.get? userVariable), logFormat⟩ := by
  unfold Draft.withVariables
  simp only [setting?_eq, Draft.empty, Option.or_none]
  rfl

theorem withVariables_empty_ok (h : Draft.empty.withVariables env = .ok draft) :
    ∃ logFormat, Draft.logFormatOf env = .ok logFormat ∧
      draft = ⟨trimmed (env.get? storeDirVariable), trimmed (env.get? userVariable), logFormat⟩ := by
  rw [withVariables_empty] at h
  cases hformat : Draft.logFormatOf env with
  | error flaw =>
    rw [hformat] at h
    cases h
  | ok logFormat =>
    rw [hformat] at h
    exact ⟨logFormat, rfl, (Except.ok.inj h).symm⟩

/-- No user of the environment is blank. -/
theorem settings_withVariables (h : Draft.empty.withVariables env = .ok draft) :
    draft.settings env = .ok ⟨draft.storeDir.getD (defaultStoreDir env), draft.user, draft.logFormat.getD .text⟩ := by
  obtain ⟨logFormat, -, rfl⟩ := withVariables_empty_ok h
  apply if_neg
  simp only [Option.any_eq_true, not_exists, not_and, Bool.not_eq_true]
  intro user huser
  exact isBlank_trimmed huser

theorem ofVariables_eq_ok : ofVariables env = .ok settings ↔
    ∃ draft, Draft.empty.withVariables env = .ok draft ∧
      settings = ⟨draft.storeDir.getD (defaultStoreDir env), draft.user, draft.logFormat.getD .text⟩ := by
  unfold ofVariables
  constructor
  · intro h
    obtain ⟨draft, hdraft, h⟩ := bind_eq_ok h
    rw [settings_withVariables hdraft] at h
    exact ⟨draft, hdraft, (Except.ok.inj h).symm⟩
  · rintro ⟨draft, hdraft, rfl⟩
    rw [bind_ok hdraft, settings_withVariables hdraft]

/-! ## Tidy variables -/

/-- A variable that is missing, or a text without white space around it, and not empty. -/
def Tidy : Option Variable → Prop
  | none => True
  | some (.text value) => value ≠ "" ∧ Text.trim value = value
  | some (.undecodable _) => False

/-- The variables that settings are made of are tidy. -/
structure TidyVariables (env : Environment) : Prop where
  storeDir : Tidy (env.get? storeDirVariable)
  user : Tidy (env.get? userVariable)
  logFormat : Tidy (env.get? logFormatVariable)

theorem Tidy.trimmed_text {value : String} (h : Tidy (some (.text value))) : trimmed (some (.text value)) = some value := by
  obtain ⟨hne, htrim⟩ := h
  rw [Settings.trimmed_text, Text.isBlank_of_trim_eq htrim hne, if_neg Bool.false_ne_true, htrim]

theorem Tidy.taken_path {found : Option Variable} (h : Tidy found) : taken Options.path found = .ok (trimmed found) := by
  match found with
  | none => rfl
  | some (.text value) =>
    rw [h.trimmed_text]
    exact taken_text_ok.mpr ⟨value, if_neg h.1, rfl⟩

theorem Tidy.taken_user {found : Option Variable} (h : Tidy found) : taken .ok found = .ok (trimmed found) := by
  match found with
  | none => rfl
  | some (.text value) =>
    rw [h.trimmed_text]
    rfl

theorem Tidy.taken_logFormat (h : Tidy (env.get? logFormatVariable)) {logFormat : Option LogFormat}
    (hload : Draft.logFormatOf env = .ok logFormat) :
    taken checkLogFormat (env.get? logFormatVariable) = .ok logFormat := by
  unfold Draft.logFormatOf at hload
  rw [setting?_eq] at hload
  match hfound : env.get? logFormatVariable, h with
  | none, _ =>
    rw [hfound] at hload
    cases hload
    rfl
  | some (.text value), h =>
    rw [hfound, h.trimmed_text] at hload
    dsimp only at hload
    split at hload
    · next format hname =>
      cases hload
      exact taken_text_ok.mpr ⟨format, checkLogFormat_ok.mpr hname, rfl⟩
    · cases hload

theorem draftTaken_of_tidy (h : TidyVariables env) (hdraft : Draft.empty.withVariables env = .ok draft) :
    draftTaken env = .ok draft := by
  obtain ⟨logFormat, hformat, rfl⟩ := withVariables_empty_ok hdraft
  unfold draftTaken
  rw [bind_ok h.storeDir.taken_path, bind_ok h.user.taken_user, bind_ok (h.logFormat.taken_logFormat hformat)]
  rfl

/-! ## Untidy variables -/

theorem isBlank_join {name : String} (h : Text.isBlank name = false) (folder : String) :
    Text.isBlank (Files.join folder name) = false := by
  rw [Files.join_eq, Text.isBlank_append, h, Bool.and_false]

theorem isBlank_defaultStoreDir (env : Environment) : Text.isBlank (defaultStoreDir env) = false := by
  unfold defaultStoreDir
  split
  · exact isBlank_join (by decide) _
  · decide

section Untidy

variable {found : Option Variable}

/-- A folder of blank text is no default. -/
theorem tidy_of_storeDir {storeDir : Option String} (h : taken Options.path found = .ok storeDir) {fallback : String}
    (hfallback : Text.isBlank fallback = false)
    (hagree : (storeDir.or (trimmed found)).getD fallback = (trimmed found).getD fallback) : Tidy found := by
  obtain ⟨rfl, -⟩ | ⟨value, path, rfl, hpath, rfl⟩ := taken_cases h
  · trivial
  · unfold Options.path at hpath
    split_ifs at hpath with hne
    obtain rfl : value = path := Except.ok.inj hpath
    refine ⟨hne, ?_⟩
    rw [trimmed_text] at hagree
    split_ifs at hagree with hblank
    · change value = fallback at hagree
      rw [← hagree] at hfallback
      exact absurd hblank (Bool.eq_false_iff.mp hfallback)
    · exact hagree.symm

theorem tidy_of_user {user : Option String} (h : taken .ok found = .ok user)
    (hagree : user.or (trimmed found) = trimmed found) : Tidy found := by
  obtain ⟨rfl, -⟩ | ⟨value, taken, rfl, htaken, rfl⟩ := taken_cases h
  · trivial
  · obtain rfl : value = taken := Except.ok.inj htaken
    rw [trimmed_text] at hagree
    split_ifs at hagree with hblank
    · cases hagree
    · have htrim : value = Text.trim value := Option.some.inj hagree
      refine ⟨?_, htrim.symm⟩
      rintro rfl
      exact hblank rfl

theorem trim_of_ofName? {name : String} {format : LogFormat} (h : LogFormat.ofName? name = some format) :
    name ≠ "" ∧ Text.trim name = name := by
  constructor
  · rintro rfl
    have hempty : LogFormat.ofName? "" = none := by decide +kernel
    rw [hempty] at h
    cases h
  · refine Text.trim_eq_self_of_toLower ?_
    unfold LogFormat.ofName? at h
    split at h
    · next hlower =>
      rw [hlower]
      decide
    · next hlower =>
      rw [hlower]
      decide
    · cases h

/-- No name of a log format has white space in it. -/
theorem tidy_of_logFormat {logFormat : Option LogFormat} (h : taken checkLogFormat found = .ok logFormat) :
    Tidy found := by
  obtain ⟨rfl, -⟩ | ⟨value, format, rfl, hformat, -⟩ := taken_cases h
  · trivial
  · exact trim_of_ofName? (checkLogFormat_ok.mp hformat)

end Untidy

/-! ## Settings of a command line -/

/-- The settings of the environment, where what a command line takes of it counts first. -/
def merged (env : Environment) (taken : Draft) : Except Flaw Settings := do
  let draft ← Draft.empty.withVariables env
  Draft.settings ⟨taken.storeDir.or draft.storeDir, taken.user.or draft.user, taken.logFormat.or draft.logFormat⟩ env

theorem merged_flawed {flaw : Flaw} (h : ofVariables env = .error flaw) (taken : Draft) :
    ∃ flaw', merged env taken = .error flaw' := by
  unfold ofVariables at h
  unfold merged
  cases hdraft : Draft.empty.withVariables env with
  | error flaw' => exact ⟨flaw', rfl⟩
  | ok draft =>
    rw [bind_ok hdraft, settings_withVariables hdraft] at h
    cases h

theorem merged_of_tidy (htidy : TidyVariables env) (h : ofVariables env = .ok settings) :
    ∃ taken, draftTaken env = .ok taken ∧ merged env taken = .ok settings := by
  obtain ⟨draft, hdraft, rfl⟩ := ofVariables_eq_ok.mp h
  refine ⟨draft, draftTaken_of_tidy htidy hdraft, ?_⟩
  unfold merged
  rw [bind_ok hdraft, Option.or_self, Option.or_self, Option.or_self]
  exact settings_withVariables hdraft

theorem tidy_of_merged {taken : Draft} (h : ofVariables env = .ok settings) (htaken : draftTaken env = .ok taken)
    (hmerged : merged env taken = .ok settings) : TidyVariables env := by
  obtain ⟨draft, hdraft, rfl⟩ := ofVariables_eq_ok.mp h
  obtain ⟨storeDir, hstore, htaken⟩ := bind_eq_ok htaken
  obtain ⟨user, huser, htaken⟩ := bind_eq_ok htaken
  obtain ⟨logFormat, hformat, htaken⟩ := bind_eq_ok htaken
  cases htaken
  unfold merged at hmerged
  rw [bind_ok hdraft] at hmerged
  obtain ⟨_, -, rfl⟩ := withVariables_empty_ok hdraft
  unfold Draft.settings at hmerged
  split_ifs at hmerged
  have hsame := Except.ok.inj hmerged
  simp only [Settings.mk.injEq] at hsame
  exact ⟨tidy_of_storeDir hstore (isBlank_defaultStoreDir env) hsame.1, tidy_of_user huser hsame.2.1,
    tidy_of_logFormat hformat⟩

end Dashboards.Settings
