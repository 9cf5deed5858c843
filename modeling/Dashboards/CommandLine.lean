import Dashboards.CommandLine.Command
import Dashboards.CommandLine.Options

/-!
# Command lines

A command line has a verb and its arguments. Options may stand before the verb, behind it and
between the arguments; of an option that stands on both sides of the verb the one behind it counts.

* `Word`, `Word.ofText` : one word of a command line, as an option or as a plain text;
* `Scan` : what has been read on one side of the verb;
* `Scan.settle` : the option or the arguments read last are checked and kept;
* `outside`, `inside` : the words before a verb, and those behind it;
* `Invocation`, `parse` : what a command line asks for.
-/

namespace Dashboards.CommandLine

/-! ## Words -/

inductive Word where
  /-- Behind it all words are arguments. -/
  | separator
  | long (name : String) (value : Option String)
  | short (letter : Char) (value : Option String)
  | plain (text : String)
  deriving DecidableEq, Repr

namespace Word

/-- The value of a long option stands behind an equals sign. -/
def ofLong (s : List Char) : Word :=
  match s.dropWhile (· ≠ '=') with
  | '=' :: value => .long (String.ofList (s.takeWhile (· ≠ '='))) (some (String.ofList value))
  | _ => .long (String.ofList s) none

/-- The value of a short option may follow its letter, with or without an equals sign. -/
def ofShort (letter : Char) : List Char → Word
  | [] => .short letter none
  | '=' :: value => .short letter (some (String.ofList value))
  | value => .short letter (some (String.ofList value))

def ofText (text : String) : Word :=
  match text.toList with
  | ['-', '-'] => .separator
  | '-' :: '-' :: s => ofLong s
  | '-' :: letter :: s => ofShort letter s
  | _ => .plain text

end Word

/-! ## One side of the verb -/

/-- What has been read but not yet checked. -/
inductive Pending where
  | option (key : Key) (value : Option String)
  | arguments (slot : Slot) (values : List String)
  deriving DecidableEq, Repr

structure Scan where
  options : Options
  arguments : List String
  pending : Option Pending
  deriving DecidableEq, Repr

namespace Scan

def start : Scan := ⟨.empty, [], none⟩

/-- An option waits for its value, which is the next plain word. -/
def awaited? (s : Scan) : Option Key :=
  match s.pending with
  | some (.option key none) => some key
  | _ => none

/-- Checks what has been read last. -/
def settle (s : Scan) : Except Refusal Scan :=
  match s.pending with
  | none => .ok s
  | some (.option _ none) => .error .missingValue
  | some (.option key (some value)) =>
    (s.options.add key value).map fun options => { s with options, pending := none }
  | some (.arguments slot values) =>
    if slot = .path && values.contains "" then .error .missingValue
    else .ok { s with arguments := s.arguments ++ values, pending := none }

/-- An option with its value, or one whose value comes next. -/
def option (s : Scan) (key : Key) (value : Option String) : Except Refusal Scan := do
  let s ← s.settle
  match value with
  | none => return { s with pending := some (.option key none) }
  | some value => return { s with options := ← s.options.add key value }

/-- A word that asks for an answer at once, if all before it is right. -/
def request (s : Scan) (answer : Refusal) : Except Refusal Scan := do
  let _ ← s.settle
  throw answer

/-- A word that is an option. Only help can be asked for behind a verb. -/
def word (s : Scan) (behind : Bool) : Word → Except Refusal Scan
  | .long "help" none => s.request .helpRequested
  | .long "help" (some _) => .error .surplusValue
  | .long "version" none =>
    if behind then .error .unknownArgument else s.request .versionRequested
  | .long "version" (some _) => .error (if behind then .unknownArgument else .surplusValue)
  | .long name value =>
    match Key.ofName? name with
    | some key => s.option key value
    | none => .error .unknownArgument
  | .short 'h' _ => s.request .helpRequested
  | .short 'V' _ => if behind then .error .unknownArgument else s.request .versionRequested
  | .short letter value =>
    match Key.ofLetter? letter with
    | some key => s.option key value
    | none => .error .unknownArgument
  | _ => .ok s

/-- The number of arguments, checked or not. -/
def count (s : Scan) : Nat :=
  match s.pending with
  | some (.arguments _ values) => s.arguments.length + values.length
  | _ => s.arguments.length

/-- One more argument. Those of a verb that takes any number are checked together. -/
def argument (s : Scan) (verb : Verb) (text : String) : Except Refusal Scan :=
  match verb.slot? s.count with
  | none => .error .unknownArgument
  | some slot =>
    match verb.repeats, s.pending with
    | true, some (.arguments slot values) =>
      .ok { s with pending := some (.arguments slot (values ++ [text])) }
    | _, _ => s.settle.map fun s => { s with pending := some (.arguments slot [text]) }

end Scan

/-! ## Both sides of the verb -/

def helpName : String := "help"

def isCommandName (name : String) : Bool := name = helpName || (Verb.ofName? name).isSome

/-- Help may be asked for on one command. -/
def helpOn : List String → Refusal
  | [] => .helpRequested
  | [name] => if isCommandName name then .helpRequested else .unknownCommand
  | _ => .unknownCommand

/-- A word behind the separator and before any verb. -/
def stray (name : String) : Refusal :=
  if isCommandName name then .unknownArgument else .unknownCommand

/-- The words up to the verb, and the verb with all words behind it. -/
def outside (s : Scan) : List String → Except Refusal (Scan × Option (Verb × List String))
  | [] => .ok (s, none)
  | text :: rest =>
    match s.awaited?, Word.ofText text with
    | some key, .plain value => outside { s with pending := some (.option key (some value)) } rest
    | none, .plain name =>
      if name = helpName then .error (helpOn rest)
      else
        match Verb.ofName? name with
        | some verb => .ok (s, some (verb, rest))
        | none => .error .unknownCommand
    | _, .separator =>
      match rest with
      | [] => .ok (s, none)
      | name :: _ => .error (stray name)
    | _, word =>
      match s.word false word with
      | .ok s => outside s rest
      | .error refusal => .error refusal

/-- The words behind the verb. -/
def inside (verb : Verb) (s : Scan) : List String → Except Refusal Scan
  | [] => .ok s
  | text :: rest =>
    match s.awaited?, Word.ofText text with
    | some key, .plain value =>
      inside verb { s with pending := some (.option key (some value)) } rest
    | none, .plain text =>
      match s.argument verb text with
      | .ok s => inside verb s rest
      | .error refusal => .error refusal
    | _, .separator => rest.foldlM (·.argument verb ·) s
    | _, word =>
      match s.word true word with
      | .ok s => inside verb s rest
      | .error refusal => .error refusal

/-! ## Command lines -/

structure Invocation where
  storeDir : Option String
  user : Option String
  logFormat : Option LogFormat
  /-- The name of an output format. -/
  output : String
  outputFile : Option String
  command : Command
  deriving DecidableEq, Repr

def defaultOutput : String := "table"

def Invocation.ofOptions (o : Options) (command : Command) : Invocation :=
  ⟨o.storeDir, o.user, o.logFormat, o.output.getD defaultOutput, o.outputFile, command⟩

/-- The options of a side of the verb that has been read, with those of variables. -/
def finish (env : Environment) (s : Scan) : Except Refusal (Scan × Options) := do
  let s ← s.settle
  return (s, ← s.options.withVariables env)

/-- The side behind the verb is checked first, its missing arguments last. -/
def parse (env : Environment) (words : List String) : Except Refusal Invocation := do
  match ← outside .start words with
  | (outer, none) =>
    let (_, options) ← finish env outer
    throw (if options = .empty then .nothingGiven else .missingCommand)
  | (outer, some (verb, rest)) =>
    let (inner, _) ← finish env (← inside verb .start rest)
    match verb.command? inner.arguments with
    | none => throw .missingArgument
    | some command =>
      let (_, options) ← finish env outer
      return .ofOptions (inner.options.orElse options) command

end Dashboards.CommandLine
