import Dashboards.CommandLine
import Dashboards.Proofs.CommandLine.Variables
import Mathlib

/-!
# Where options stand

A command line is written from a command and options, each as one word with its value. Wherever the
options are put, it is read as that command with these options.

* `Given`, `Given.text` : an option with its value, and its word; `Given.Fits` : the option takes the value;
* `valueOf`, `asked` : the value of an option among some, and what is asked for with them (`valueOf_append`,
  `valueOf_perm`);
* `Command.verb`, `Command.arguments` : how a command is written; `IsArgument` : what may be an argument;
* `Item`, `words` : the words behind the verb, and all words of a command line;
* `Scan.Holds` : what a scan has read; `option_holds`, `argument_holds` : one more word;
* `outside_read`, `inside_holds`, `parse_words` : the words before the verb, those behind it, and all;
* `placement_is_free` : the place of an option does not matter, and of two values the one behind counts.
-/

namespace Dashboards.CommandLine

/-! ## Options -/

def Key.name : Key → String
  | .storeDir => "store-dir"
  | .user => "user"
  | .logFormat => "log-format"
  | .output => "output"
  | .outputFile => "output-file"

/-- An option with its value. -/
structure Given where
  key : Key
  value : String
  deriving DecidableEq, Repr

/-- An option and its value as one word. -/
def Given.text (g : Given) : String := "--" ++ g.key.name ++ "=" ++ g.value

/-- Paths must not be empty, and a log format is one of two, with small or capital letters. -/
def Given.Fits (g : Given) : Prop :=
  match g.key with
  | .storeDir | .outputFile => g.value ≠ ""
  | .logFormat => g.value.toLower = "text" ∨ g.value.toLower = "json"
  | .user | .output => True

instance (g : Given) : Decidable g.Fits :=
  match g with
  | ⟨.storeDir, value⟩ => inferInstanceAs (Decidable (value ≠ ""))
  | ⟨.outputFile, value⟩ => inferInstanceAs (Decidable (value ≠ ""))
  | ⟨.logFormat, value⟩ => inferInstanceAs (Decidable (value.toLower = "text" ∨ value.toLower = "json"))
  | ⟨.user, _⟩ => inferInstanceAs (Decidable True)
  | ⟨.output, _⟩ => inferInstanceAs (Decidable True)

/-- The value of an option, the first one that is given. -/
def valueOf (given : List Given) (key : Key) : Option String := (given.find? (·.key = key)).map (·.value)

/-- What is asked for by a command with these options. -/
def asked (given : List Given) (command : Command) : Invocation :=
  ⟨valueOf given .storeDir, valueOf given .user, (valueOf given .logFormat).bind LogFormat.ofName?,
    (valueOf given .output).getD "table", valueOf given .outputFile, command⟩

def Options.ofGiven (given : List Given) : Options :=
  ⟨valueOf given .storeDir, valueOf given .user, (valueOf given .logFormat).bind LogFormat.ofName?,
    valueOf given .output, valueOf given .outputFile⟩

section Options

variable {given before behind : List Given} {g : Given} {key : Key}

theorem valueOf_append (before behind : List Given) (key : Key) :
    valueOf (before ++ behind) key = (valueOf before key).or (valueOf behind key) := by
  unfold valueOf
  rw [List.find?_append, Option.map_or]

theorem valueOf_singleton (g : Given) (key : Key) : valueOf [g] key = if g.key = key then some g.value else none := by
  unfold valueOf
  split_ifs with h <;> simp [h]

theorem valueOf_eq_none : valueOf given key = none ↔ key ∉ given.map (·.key) := by
  unfold valueOf
  rw [Option.map_eq_none_iff, List.find?_eq_none, List.mem_map]
  simp

theorem mem_of_valueOf {value : String} (h : valueOf given key = some value) : ⟨key, value⟩ ∈ given := by
  unfold valueOf at h
  obtain ⟨g, hg, rfl⟩ := Option.map_eq_some_iff.mp h
  obtain rfl : g.key = key := by simpa using List.find?_some hg
  exact List.mem_of_find?_eq_some hg

theorem valueOf_of_mem (hkeys : (given.map (·.key)).Nodup) (h : g ∈ given) : valueOf given g.key = some g.value := by
  cases hvalue : valueOf given g.key with
  | none => exact absurd (List.mem_map_of_mem h) (valueOf_eq_none.mp hvalue)
  | some value =>
    have hsame : (⟨g.key, value⟩ : Given) = g := List.inj_on_of_nodup_map hkeys (mem_of_valueOf hvalue) h rfl
    rw [← hsame]

/-- Where each option is given once, their order does not matter. -/
theorem valueOf_perm (hkeys : (before.map (·.key)).Nodup) (h : before.Perm behind) :
    valueOf before = valueOf behind := by
  funext key
  have hkeys' : (behind.map (·.key)).Nodup := (h.map _).nodup_iff.mp hkeys
  cases hvalue : valueOf before key with
  | none =>
    symm
    rw [valueOf_eq_none] at hvalue ⊢
    rwa [← (h.map _).mem_iff]
  | some value => exact (valueOf_of_mem hkeys' (h.subset (mem_of_valueOf hvalue))).symm

theorem asked_perm (hkeys : (before.map (·.key)).Nodup) (h : before.Perm behind) (command : Command) :
    asked before command = asked behind command := by
  unfold asked
  rw [valueOf_perm hkeys h]

theorem ofName?_of_fits {value : String} (h : Given.Fits ⟨.logFormat, value⟩) :
    ∃ format, LogFormat.ofName? value = some format := by
  rw [← Option.ne_none_iff_exists']
  intro hnone
  obtain ⟨htext, hjson⟩ := LogFormat.ofName?_eq_none.mp hnone
  exact h.elim htext hjson

/-- An option that was not given yet is taken. -/
theorem add_given (hfits : g.Fits) (hnew : g.key ∉ given.map (·.key)) :
    (Options.ofGiven given).add g.key g.value = .ok (.ofGiven (given ++ [g])) := by
  have hnone := valueOf_eq_none.mpr hnew
  have hhas : (Options.ofGiven given).has g.key = false := by
    unfold Options.has Options.ofGiven
    cases hkey : g.key <;> simp [← hkey, hnone]
  unfold Options.add
  rw [hhas, if_neg Bool.false_ne_true]
  obtain ⟨key, value⟩ := g
  unfold Options.put Options.ofGiven
  simp only [valueOf_append, valueOf_singleton]
  cases key with
  | storeDir =>
    have hpath : Options.path value = .ok value := if_neg hfits
    simp [hpath, Except.map, hnone]
  | user => simp [hnone]
  | logFormat =>
    obtain ⟨format, hformat⟩ := ofName?_of_fits hfits
    simp [hformat, hnone]
  | output => simp [hnone]
  | outputFile =>
    have hpath : Options.path value = .ok value := if_neg hfits
    simp [hpath, Except.map, hnone]

theorem orElse_ofGiven (hfits : ∀ g ∈ before, g.Fits) (behind : List Given) :
    (Options.ofGiven before).orElse (.ofGiven behind) = .ofGiven (before ++ behind) := by
  unfold Options.orElse Options.ofGiven
  simp only [valueOf_append]
  congr 1
  cases hvalue : valueOf before .logFormat with
  | none => rfl
  | some value =>
    obtain ⟨format, hformat⟩ := ofName?_of_fits (hfits _ (mem_of_valueOf hvalue))
    simp [hformat]

end Options

/-! ## Commands -/

end Dashboards.CommandLine

namespace Dashboards.Command

open CommandLine

/-- The verb that a command is written with. -/
def verb : Command → Verb
  | create _ => .create
  | list => .list
  | get _ => .get
  | update _ _ => .update
  | delete _ => .delete
  | setLocked _ true => .lock
  | setLocked _ false => .unlock
  | report => .report
  | metricUsage _ => .metricUsage
  | analyze _ => .analyze
  | diff _ _ => .diff

/-- The arguments that a command is written with. -/
def arguments : Command → List String
  | create file => [file]
  | list => []
  | get uuid => [uuid]
  | update uuid file => [uuid, file]
  | delete uuid => [uuid]
  | setLocked uuid _ => [uuid]
  | report => []
  | metricUsage metrics => metrics
  | analyze files => files
  | diff old new => [old, new]

/-- A command that takes any number of arguments has at least one. -/
def Complete : Command → Prop
  | metricUsage metrics => metrics ≠ []
  | analyze files => files ≠ []
  | _ => True

theorem command?_arguments {command : Command} (h : command.Complete) :
    command.verb.command? command.arguments = some command := by
  cases command with
  | metricUsage metrics =>
    obtain ⟨metric, metrics, rfl⟩ := List.exists_cons_of_ne_nil h
    rfl
  | analyze files =>
    obtain ⟨file, files, rfl⟩ := List.exists_cons_of_ne_nil h
    rfl
  | setLocked uuid locked => cases locked <;> rfl
  | _ => rfl

/-- There is a place for each argument. -/
theorem isSome_slot? {command : Command} {i : Nat} (h : i < command.arguments.length) :
    (command.verb.slot? i).isSome := by
  cases command with
  | list => cases h
  | report => cases h
  | metricUsage metrics => rfl
  | analyze files => rfl
  | setLocked uuid locked => cases locked <;> simpa [verb, Verb.slot?, Verb.repeats, Verb.slots, arguments] using h
  | _ => simpa [verb, Verb.slot?, Verb.repeats, Verb.slots, arguments] using h

end Dashboards.Command

namespace Dashboards.CommandLine

/-- What may be an argument: a dash, or a text that is not empty and does not begin with one. -/
def IsArgument (text : String) : Prop := text ≠ "" ∧ (text = "-" ∨ text.toList.head? ≠ some '-')

/-- A word behind the verb. -/
inductive Item where
  | option (given : Given)
  | argument (text : String)
  deriving DecidableEq, Repr

namespace Item

def text : Item → String
  | option g => g.text
  | argument text => text

def option? : Item → Option Given
  | option g => some g
  | argument _ => none

def argument? : Item → Option String
  | option _ => none
  | argument text => some text

end Item

/-- The words of a command line. -/
def words (before : List Given) (verb : Verb) (behind : List Item) : List String :=
  before.map Given.text ++ verb.name :: behind.map Item.text

/-! ## Words -/

theorem ofText_given (g : Given) : Word.ofText g.text = .long g.key.name (some g.value) := by
  have hequals : '=' ∉ g.key.name.toList := by
    cases g.key <;> decide
  have hname : ∀ c ∈ g.key.name.toList, decide (c ≠ '=') = true := by
    intro c hc
    rw [decide_eq_true_eq]
    rintro rfl
    exact hequals hc
  have htext : g.text.toList = '-' :: '-' :: (g.key.name.toList ++ '=' :: g.value.toList) := by
    unfold Given.text
    simp [String.toList_append]
  have hlong : Word.ofLong (g.key.name.toList ++ '=' :: g.value.toList) = .long g.key.name (some g.value) := by
    unfold Word.ofLong
    rw [List.dropWhile_append_of_pos hname, List.takeWhile_append_of_pos hname]
    simp
  obtain ⟨c, rest, hrest⟩ : ∃ c rest, g.key.name.toList ++ '=' :: g.value.toList = c :: rest :=
    List.exists_cons_of_ne_nil (by simp)
  unfold Word.ofText
  rw [htext, ← hlong, hrest]
  rfl

theorem ofText_argument {text : String} (h : IsArgument text) : Word.ofText text = .plain text := by
  unfold Word.ofText
  obtain ⟨-, rfl | hhead⟩ := h
  · rfl
  · split
    · next heq => simp [heq] at hhead
    · next heq => simp [heq] at hhead
    · next heq => simp [heq] at hhead
    · rfl

theorem ofText_verb (verb : Verb) : Word.ofText verb.name = .plain verb.name := by
  cases verb <;> rfl

/-! ## One more word -/

/-- The scan of these options and arguments, all of them checked. -/
def Scan.read (given : List Given) (arguments : List String) : Scan := ⟨.ofGiven given, arguments, none⟩

/-- The scan has read these options and arguments, and they will pass. -/
structure Scan.Holds (s : Scan) (given : List Given) (arguments : List String) : Prop where
  awaited : s.awaited? = none
  settled : s.settle = .ok (.read given arguments)
  count : s.count = arguments.length

section Words

variable {s : Scan} {given : List Given} {arguments : List String} {g : Given} {text : String} {verb : Verb}

theorem Scan.options_read (given : List Given) (arguments : List String) :
    (Scan.read given arguments).options = .ofGiven given := rfl

theorem Scan.arguments_read (given : List Given) (arguments : List String) :
    (Scan.read given arguments).arguments = arguments := rfl

theorem Scan.read_holds (given : List Given) (arguments : List String) :
    (Scan.read given arguments).Holds given arguments :=
  ⟨rfl, rfl, rfl⟩

theorem word_given (s : Scan) (behind : Bool) (key : Key) (value : String) :
    s.word behind (.long key.name (some value)) = s.option key (some value) := by
  cases key <;> rfl

theorem option_holds (hs : s.Holds given arguments) (hfits : g.Fits) (hnew : g.key ∉ given.map (·.key))
    (behind : Bool) :
    s.word behind (.long g.key.name (some g.value)) = .ok (.read (given ++ [g]) arguments) := by
  rw [word_given]
  unfold Scan.option
  rw [bind_ok hs.settled]
  dsimp only [Scan.read]
  rw [bind_ok (add_given hfits hnew)]
  rfl

theorem argument_holds (hs : s.Holds given arguments) (hslot : (verb.slot? arguments.length).isSome)
    (htext : text ≠ "") :
    ∃ s', s.argument verb text = .ok s' ∧ s'.Holds given (arguments ++ [text]) := by
  obtain ⟨slot, hslot⟩ := Option.isSome_iff_exists.mp hslot
  unfold Scan.argument
  rw [hs.count, hslot]
  dsimp only
  split
  · -- Arguments of a verb that takes any number wait until they are checked together.
    next slot' values _ hpending =>
    have hsettled := hs.settled
    unfold Scan.settle at hsettled
    rw [hpending] at hsettled
    dsimp only at hsettled
    split_ifs at hsettled with hempty
    obtain ⟨hoptions, harguments, -⟩ := Scan.mk.inj (Except.ok.inj hsettled)
    refine ⟨_, rfl, rfl, ?_, ?_⟩
    · have hempty' : ¬(decide (slot' = .path) && (values ++ [text]).contains "") = true := by
        simpa [htext.symm] using hempty
      unfold Scan.settle
      dsimp only
      rw [if_neg hempty', ← List.append_assoc, harguments, hoptions]
      rfl
    · unfold Scan.count
      dsimp only
      rw [← harguments]
      simp
  · rw [hs.settled]
    refine ⟨_, rfl, rfl, ?_, ?_⟩
    · have hempty : ¬(decide (slot = .path) && [text].contains "") = true := by
        simp [htext.symm]
      unfold Scan.settle
      dsimp only
      rw [if_neg hempty]
      rfl
    · unfold Scan.count
      simp [Scan.read]

end Words

/-! ## Both sides of the verb -/

/-- The options among some words behind the verb. -/
def optionsOf (items : List Item) : List Given := items.filterMap Item.option?

/-- The arguments among them. -/
def argumentsOf (items : List Item) : List String := items.filterMap Item.argument?

theorem keys_concat {given : List Given} {g : Given} {rest : List Given}
    (h : ((given ++ g :: rest).map (·.key)).Nodup) : g.key ∉ given.map (·.key) := by
  rw [List.map_append, List.map_cons] at h
  exact fun hmem => (List.nodup_append.mp h).2.2 _ hmem _ List.mem_cons_self rfl

/-- Before the verb all options are read. -/
theorem outside_read {given before : List Given} (hfits : ∀ g ∈ before, g.Fits)
    (hkeys : ((given ++ before).map (·.key)).Nodup) (rest : List String) :
    outside (.read given []) (before.map Given.text ++ rest) = outside (.read (given ++ before) []) rest := by
  induction before generalizing given with
  | nil => rw [List.map_nil, List.nil_append, List.append_nil]
  | cons g before ih =>
    have hread := option_holds (Scan.read_holds given []) (hfits g List.mem_cons_self) (keys_concat hkeys) false
    have hrest : outside (.read (given ++ [g]) []) (before.map Given.text ++ rest) =
        outside (.read (given ++ [g] ++ before) []) rest :=
      ih (fun g' hg' => hfits g' (List.mem_cons_of_mem g hg')) (by simpa using hkeys)
    rw [List.append_assoc, List.singleton_append] at hrest
    rw [← hrest, List.map_cons, List.cons_append]
    conv_lhs => unfold outside
    rw [(Scan.read_holds given []).awaited, ofText_given]
    dsimp only
    rw [hread]

theorem outside_verb (given : List Given) (verb : Verb) (rest : List String) :
    outside (.read given []) (verb.name :: rest) = .ok (.read given [], some (verb, rest)) := by
  have hhelp : verb.name ≠ helpName := by
    cases verb <;> decide
  unfold outside
  rw [(Scan.read_holds given []).awaited, ofText_verb]
  dsimp only
  rw [if_neg hhelp, Verb.ofName?_name]

/-- Behind the verb all options and arguments are read, the arguments in their order. -/
theorem inside_holds {verb : Verb} {items : List Item} {s : Scan} {given : List Given} {arguments : List String}
    (hs : s.Holds given arguments) (hfits : ∀ g ∈ optionsOf items, g.Fits)
    (hkeys : ((given ++ optionsOf items).map (·.key)).Nodup) (harguments : ∀ text ∈ argumentsOf items, IsArgument text)
    (hslots : ∀ i < (arguments ++ argumentsOf items).length, (verb.slot? i).isSome) :
    ∃ s', inside verb s (items.map Item.text) = .ok s' ∧
      s'.Holds (given ++ optionsOf items) (arguments ++ argumentsOf items) := by
  induction items generalizing s given arguments with
  | nil => exact ⟨s, rfl, by simpa [optionsOf, argumentsOf] using hs⟩
  | cons item items ih =>
    cases item with
    | option g =>
      have hoptions : optionsOf (.option g :: items) = [g] ++ optionsOf items := rfl
      have hsame : argumentsOf (.option g :: items) = argumentsOf items := rfl
      rw [hoptions, ← List.append_assoc] at hkeys ⊢
      rw [hoptions] at hfits
      rw [hsame] at harguments hslots ⊢
      have hread := option_holds hs (hfits g List.mem_cons_self) (keys_concat (by simpa using hkeys)) true
      obtain ⟨s', hinside, hs'⟩ := ih (Scan.read_holds (given ++ [g]) arguments)
        (fun g' hg' => hfits g' (List.mem_cons_of_mem g hg')) hkeys harguments hslots
      refine ⟨s', ?_, hs'⟩
      rw [List.map_cons, ← hinside]
      conv_lhs => unfold inside
      rw [hs.awaited, Item.text, ofText_given]
      dsimp only
      rw [hread]
    | argument text =>
      have hoptions : optionsOf (.argument text :: items) = optionsOf items := rfl
      have hmore : argumentsOf (.argument text :: items) = [text] ++ argumentsOf items := rfl
      rw [hoptions] at hfits hkeys ⊢
      rw [hmore] at harguments
      rw [hmore, ← List.append_assoc] at hslots ⊢
      have htext := harguments text List.mem_cons_self
      obtain ⟨t, hargument, ht⟩ := argument_holds hs (hslots arguments.length (by simp)) htext.1
      obtain ⟨s', hinside, hs'⟩ := ih ht hfits hkeys (fun a ha => harguments a (List.mem_cons_of_mem text ha)) hslots
      refine ⟨s', ?_, hs'⟩
      rw [List.map_cons, ← hinside]
      conv_lhs => unfold inside
      rw [hs.awaited, Item.text, ofText_argument htext]
      dsimp only
      rw [hargument]

/-! ## Command lines -/

section Parse

variable {env : Environment} {command : Command} {before : List Given} {behind : List Item}

/-- A command line is read as its command, and of each option the value behind the verb counts. -/
theorem parse_words (henv : Unset env) (hcommand : command.Complete)
    (harguments : ∀ text ∈ command.arguments, IsArgument text) (hbehind : argumentsOf behind = command.arguments)
    (hfits : ∀ g ∈ before ++ optionsOf behind, g.Fits) (hkeys : (before.map (·.key)).Nodup)
    (hkeys' : ((optionsOf behind).map (·.key)).Nodup) :
    parse env (words before command.verb behind) = .ok (asked (optionsOf behind ++ before) command) := by
  have hfits' : ∀ g ∈ optionsOf behind, g.Fits := fun g hg => hfits g (List.mem_append_right before hg)
  have houtside : outside .start (words before command.verb behind) =
      .ok (.read before [], some (command.verb, behind.map Item.text)) := by
    have hread : outside (.read ([] : List Given) []) (words before command.verb behind) =
        outside (.read before []) (command.verb.name :: behind.map Item.text) :=
      @outside_read [] before (fun g hg => hfits g (List.mem_append_left _ hg)) hkeys _
    exact hread.trans (outside_verb before _ _)
  obtain ⟨s, hinside, hs⟩ : ∃ s, inside command.verb .start (behind.map Item.text) = .ok s ∧
      s.Holds (optionsOf behind) command.arguments := by
    rw [← hbehind]
    apply inside_holds (Scan.read_holds [] []) hfits' hkeys'
    · rwa [hbehind]
    · rw [List.nil_append, hbehind]
      exact fun i => Command.isSome_slot?
  unfold parse
  rw [bind_ok houtside]
  dsimp only
  rw [bind_ok hinside, bind_ok (finish_unset henv hs.settled)]
  dsimp only
  rw [Scan.arguments_read, Command.command?_arguments hcommand]
  dsimp only
  rw [bind_ok (finish_unset henv (Scan.read_holds before []).settled), Scan.options_read, Scan.options_read,
    orElse_ofGiven hfits']
  rfl

/-- Options that are given once each, as words with their values, may stand before the verb or anywhere
behind it: the command line asks for the command with these options. If they are given on both sides,
those behind the verb count. -/
theorem placement_is_free (henv : Unset env) (hcommand : command.Complete)
    (harguments : ∀ text ∈ command.arguments, IsArgument text) (hbehind : argumentsOf behind = command.arguments)
    (hfits : ∀ g ∈ before ++ optionsOf behind, g.Fits) :
    (∀ given : List Given, (given.map (·.key)).Nodup → given.Perm (before ++ optionsOf behind) →
      parse env (words before command.verb behind) = .ok (asked given command)) ∧
    ((before.map (·.key)).Nodup → ((optionsOf behind).map (·.key)).Nodup →
      parse env (words before command.verb behind) = .ok (asked (optionsOf behind ++ before) command)) := by
  refine ⟨fun given hgiven hperm => ?_, parse_words henv hcommand harguments hbehind hfits⟩
  have hkeys : ((before ++ optionsOf behind).map (·.key)).Nodup := (hperm.map _).nodup_iff.mp hgiven
  rw [List.map_append] at hkeys
  rw [asked_perm hgiven (hperm.trans List.perm_append_comm)]
  obtain ⟨hbefore, hafter, -⟩ := List.nodup_append.mp hkeys
  exact parse_words henv hcommand harguments hbehind hfits hbefore hafter

/-- Two metrics. -/
def loadAndInput : Command := .metricUsage ["load", "-"]

/-- Options among the two metrics. -/
def scattered : List Item :=
  [.argument "load", .option ⟨.output, "--json"⟩, .argument "-", .option ⟨.logFormat, "Json"⟩]

/-- One option is given before the verb, and another one on both sides of it. -/
theorem scattered_options_are_read :
    Unset bare ∧ loadAndInput.Complete ∧ (∀ text ∈ loadAndInput.arguments, IsArgument text) ∧
      argumentsOf scattered = loadAndInput.arguments ∧
      (∀ g ∈ [⟨.user, "a=b"⟩, ⟨.output, "list"⟩] ++ optionsOf scattered, Given.Fits g) ∧
      parse bare ["--user=a=b", "metric-usage", "load", "--output=--json", "-", "--log-format=Json"] =
        .ok ⟨none, some "a=b", some .json, "--json", none, loadAndInput⟩ ∧
      parse bare ["--user=a=b", "--output=list", "metric-usage", "load", "--output=--json", "-", "--log-format=Json"] =
        .ok ⟨none, some "a=b", some .json, "--json", none, loadAndInput⟩ := by
  have hcomplete : loadAndInput.Complete := List.cons_ne_nil _ _
  have harguments : ∀ text ∈ loadAndInput.arguments, IsArgument text := by
    unfold IsArgument
    decide
  have hfits : ∀ g ∈ [⟨.user, "a=b"⟩, ⟨.output, "list"⟩] ++ optionsOf scattered, Given.Fits g := by decide +kernel
  have hfits' : ∀ g ∈ [⟨.user, "a=b"⟩] ++ optionsOf scattered, Given.Fits g := by decide +kernel
  refine ⟨unset_bare, hcomplete, harguments, rfl, hfits, ?_, ?_⟩
  · exact ((placement_is_free unset_bare hcomplete harguments rfl hfits').1
      [⟨.logFormat, "Json"⟩, ⟨.output, "--json"⟩, ⟨.user, "a=b"⟩] (by decide) (by decide)).trans (by decide +kernel)
  · exact ((placement_is_free unset_bare hcomplete harguments rfl hfits).2 (by decide) (by decide)).trans
      (by decide +kernel)

end Parse

end Dashboards.CommandLine
