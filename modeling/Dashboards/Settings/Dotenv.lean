import Dashboards.Files.Fault
import Dashboards.Settings.Environment
import Dashboards.Text.Alphanumeric
import Dashboards.Text.Length

/-!
# Files of variables

A file may set variables for a run, one `KEY=value` a line. Variables that the environment has
already are kept, and what stands before a line that cannot be read has taken effect.

* `Mark`, `scan` : where a line of text stands between quotes, and where its comment begins;
* `Line` : lines of text joined while a quote is open;
* `assignment` : the key and the text of the value on a line;
* `Reading`, `value` : the value that such a text stands for, with quotes, escapes and other
  variables;
* `load` : the environment after a file, and `Failure`, why the rest of the file was not read;
* `isDisabled`, `loadUnlessDisabled` : such files may be unwanted.
-/

namespace Dashboards.Dotenv

open Files (Fault)
open Text (byteLength trimStart trimEnd)

inductive Failure where
  /-- A line that sets no variable, and the position where it goes wrong. -/
  | malformed (position : Nat)
  | unreadable (fault : Fault)
  deriving DecidableEq, Repr

def disablingVariable : String := "DOTENV_DISABLED"

def Failure.message : Failure → String
  | .malformed position =>
    "Failed to parse .env file at position " ++ toString position ++ ". Hint: set " ++
      disablingVariable ++ "=1 to skip .env loading"
  | .unreadable fault => "Failed to read .env file: " ++ fault.kind

def isDisabled (env : Environment) : Bool :=
  match env.text? disablingVariable with
  | some value => value = "true" || value = "1"
  | none => false

/-! ## Lines -/

/-- What the characters so far leave open. -/
inductive Mark where
  | nothing
  | escape
  | strong
  | strongEscape
  | weak
  | weakEscape
  /-- White space, behind which a comment may begin. -/
  | space
  deriving DecidableEq, Repr

/-- Outside of quotes, a character other than white space. -/
def Mark.ofChar (c : Char) : Mark :=
  match c with
  | '\\' => .escape
  | '"' => .weak
  | '\'' => .strong
  | _ => .nothing

def Mark.after (mark : Mark) (c : Char) : Mark :=
  match mark with
  | .nothing => if Text.isWhiteSpace c && c ≠ '\n' && c ≠ '\r' then .space else .ofChar c
  | .space => .ofChar c
  | .escape => .nothing
  | .weak => if c = '\\' then .weakEscape else if c = '"' then .nothing else .weak
  | .weakEscape => .weak
  | .strong => if c = '\\' then .strongEscape else if c = '\'' then .nothing else .strong
  | .strongEscape => .strong

/-- The mark behind a text, or the part of the text that stands before its comment. -/
def scan (mark : Mark) : List Char → Mark ⊕ List Char
  | [] => .inl mark
  | c :: cs =>
    if mark = .space && c = '#' then .inr []
    else (scan (mark.after c) cs).map id (c :: ·)

/-- Drops the line end, if there is one. -/
def dropLineEnd (s : List Char) : List Char :=
  match s.reverse with
  | '\n' :: '\r' :: rest => rest.reverse
  | '\n' :: rest => rest.reverse
  | _ => s

/-- Text that is a line, or that goes on with the next line of the file. -/
inductive Line where
  | whole (text : List Char)
  | started (text : List Char) (mark : Mark)
  deriving DecidableEq, Repr

/-- What has been started, and one more line of the file behind it. -/
def Line.extend (started : List Char) (mark : Mark) (text : List Char) : Line :=
  if (trimStart (started ++ text)).head? = some '#' then .whole []
  else
    match scan mark text with
    | .inr before => .whole (started ++ before)
    | .inl .nothing => .whole (dropLineEnd (started ++ text))
    | .inl mark => .started (started ++ text) mark

/-! ## Keys -/

def startsKey (c : Char) : Bool := c.isAlpha || c = '_'

def continuesKey (c : Char) : Bool := c.isAlphanum || c = '_' || c = '.'

/-- A key and what follows it; otherwise the text at which a key is missing. -/
def key (s : List Char) : Except (List Char) (String × List Char) :=
  if s.head?.any startsKey then
    .ok (String.ofList (s.takeWhile continuesKey), s.dropWhile continuesKey)
  else .error s

def equals : List Char → Except (List Char) (List Char)
  | '=' :: s => .ok s
  | s => .error s

/-- The key of a line, which may be exported, and what follows the equals sign. A line that is blank
or a comment has none; otherwise the rest at which the line goes wrong. -/
def assignment (line : List Char) : Except (List Char) (Option (String × List Char)) :=
  let s := trimStart line
  if s.isEmpty || s.head? = some '#' then .ok none
  else do
    let (name, s) ← key s
    match name, equals (trimStart s) with
    | _, .ok s => return some (name, trimStart s)
    | "export", .error s =>
      let (name, s) ← key s
      let s ← equals (trimStart s)
      return some (name, trimStart s)
    | _, .error s => throw s

/-! ## Values -/

inductive Quote where
  | none
  | weak
  | strong
  deriving DecidableEq, Repr

inductive Mode where
  | text
  | escape
  /-- Inside the name of a variable. -/
  | name (name : List Char)
  /-- Inside the name of a variable between braces. -/
  | braced (name : List Char)
  /-- Behind the value, where only a comment may follow. -/
  | ended
  | comment
  deriving DecidableEq, Repr

/-- A value that has been read so far. -/
structure Reading where
  quote : Quote
  mode : Mode
  output : List Char
  deriving DecidableEq, Repr

def variableText (env : Environment) (name : List Char) : List Char :=
  ((env.text? (String.ofList name)).getD "").toList

namespace Reading

def start : Reading := ⟨.none, .text, []⟩

def put (r : Reading) (s : List Char) : Reading := { r with mode := .text, output := r.output ++ s }

/-- Characters that a backslash may stand before. -/
def unescape? (c : Char) : Option Char :=
  if c = 'n' then some '\n' else if ['\\', '"', '\'', '$', ' '].contains c then some c else none

/-- One character, outside of names and escapes. -/
def text (r : Reading) (c : Char) : Reading :=
  match r.quote, c with
  | .strong, '\'' => { r with quote := .none }
  | .strong, c => r.put [c]
  | _, '$' => { r with mode := .name [] }
  | _, '\\' => { r with mode := .escape }
  | .weak, '"' => { r with quote := .none }
  | .weak, c => r.put [c]
  | .none, '\'' => { r with quote := .strong }
  | .none, '"' => { r with quote := .weak }
  | .none, ' ' => { r with mode := .ended }
  | .none, '\t' => { r with mode := .ended }
  | .none, c => r.put [c]

/-- One more character, if it can stand here. A name ends at the first character that is no letter
or digit, which then stands for itself. -/
def step (env : Environment) (r : Reading) (c : Char) : Option Reading :=
  match r.mode with
  | .text => some (r.text c)
  | .escape => (unescape? c).map fun c => r.put [c]
  | .name name =>
    if Text.isAlphanumeric c then some { r with mode := .name (name ++ [c]) }
    else if c = '\x7b' && name.isEmpty then some { r with mode := .braced [] }
    else
      let r := r.put (variableText env name)
      some (if c = '$' then { r with mode := .name [] } else r.put [c])
  | .braced name =>
    some (if c = '\x7d' then r.put (variableText env name)
      else { r with mode := .braced (name ++ [c]) })
  | .ended =>
    if c = ' ' || c = '\t' then some r
    else if c = '#' then some { r with mode := .comment }
    else none
  | .comment => some r

/-- The value, unless a quote or a brace is still open. -/
def finish? (env : Environment) (r : Reading) : Option (List Char) :=
  match r.quote, r.mode with
  | .none, .braced _ => none
  | .none, .name name => some (r.output ++ variableText env name)
  | .none, _ => some r.output
  | _, _ => none

/-- Goes through a text; otherwise the number of characters before the one that cannot stand. -/
def run (env : Environment) : Reading → Nat → List Char → Except Nat Reading
  | r, _, [] => .ok r
  | r, count, c :: cs =>
    match r.step env c with
    | some r => run env r (count + 1) cs
    | none => .error count

end Reading

/-- The value that a text stands for; otherwise the position where it goes wrong. -/
def value (env : Environment) (s : List Char) : Except Nat String := do
  if s.isEmpty || s.head? = some '#' then return ""
  let r ← Reading.start.run env 0 s
  match r.finish? env with
  | some output => return String.ofList output
  | none => throw (byteLength s - 1)

/-! ## Files -/

/-- The environment after one line; otherwise the position where the line goes wrong. -/
def loadLine (env : Environment) (line : List Char) : Except Nat Environment :=
  let line := trimEnd line
  match assignment line with
  | .error rest => .error (byteLength line - byteLength rest)
  | .ok none => .ok env
  | .ok (some (name, s)) => (value env s).map (env.setDefault name)

/-- The lines of a file, each with its end. -/
def splitLines : List UInt8 → List (List UInt8)
  | [] => []
  | b :: bytes =>
    if b = 10 then [b] :: splitLines bytes
    else
      match splitLines bytes with
      | [] => [[b]]
      | line :: lines => (b :: line) :: lines

/-- Goes through lines behind what has been started. -/
def loadLines (env : Environment) (started : List Char) (mark : Mark) :
    List (List UInt8) → Environment × Option Failure
  | [] => (env, if mark = .nothing then none else some (.malformed (byteLength started)))
  | bytes :: lines =>
    match Files.textOf ⟨bytes.toArray⟩ with
    | .error fault => (env, some (.unreadable fault))
    | .ok text =>
      match Line.extend started mark text.toList with
      | .started started mark => loadLines env started mark lines
      | .whole line =>
        match loadLine env line with
        | .ok env => loadLines env [] .nothing lines
        | .error position => (env, some (.malformed position))

/-- The mark of an encoding, which may stand at the beginning of a file. -/
def dropByteOrderMark : List UInt8 → List UInt8
  | 0xef :: 0xbb :: 0xbf :: bytes => bytes
  | bytes => bytes

/-- The environment after a file, and why the rest of it was not read. -/
def load (env : Environment) (content : ByteArray) : Environment × Option Failure :=
  loadLines env [] .nothing (splitLines (dropByteOrderMark content.data.toList))

/-- The environment after a file, if there is one and such files are wanted. -/
def loadUnlessDisabled (env : Environment) (content : Option ByteArray) :
    Environment × Option Failure :=
  match content with
  | some content => if isDisabled env then (env, none) else load env content
  | none => (env, none)

end Dashboards.Dotenv
