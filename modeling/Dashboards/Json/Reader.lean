import Dashboards.Json.Stop
import Dashboards.Json.Value
import Dashboards.Text.Digits

/-!
# Reading JSON

A reader takes what it reads off the front of a text. A value is read with full care, which keeps
what was written and refuses what no value can hold, or skimmed, which only passes over it: then a
surrogate may stand alone, a number may have any size, and nesting is unlimited.

* `skipSpace` : the four blanks of JSON;
* `Literal`, `literal` : a number as it is written;
* `Literal.evaluate` : its value;
* `string` : a string whose opening quote was read;
* `listItems`, `objectMembers` : the inside of an array or object whose bracket was read;
* `value` : one value, with a limit on nesting;
* `Value.parse` : a text that is one value.
-/

namespace Dashboards.Json

open Text (byteLength digitsValue)

abbrev Reader (α : Type) := List Char → Except Stop (α × List Char)

/-- Whether a value is kept or only passed over. -/
inductive Care where
  | full
  | skim
  deriving DecidableEq

def isSpace (c : Char) : Bool := c = ' ' || c = '\t' || c = '\n' || c = '\r'

def skipSpace (text : List Char) : List Char := text.dropWhile isSpace

/-! ## Numbers -/

/-- A number as it is written: its digits before the point, behind it, and in the exponent. -/
structure Literal where
  negative : Bool
  whole : List Char
  fraction : Option (List Char)
  /-- The exponent's sign and digits. -/
  exponent : Option (Bool × List Char)
  deriving DecidableEq, Repr

/-- At least one digit. -/
def digitRun : Reader (List Char)
  | [] => .error (.behind .endInValue [])
  | c :: rest =>
    if c.isDigit then
      .ok (c :: rest.takeWhile Char.isDigit, rest.dropWhile Char.isDigit)
    else .error (.before .invalidNumber (c :: rest))

/-- The digits before the point: a leading zero stands alone. -/
def wholePart : Reader (List Char)
  | '0' :: rest =>
    match rest with
    | c :: _ =>
      if c.isDigit then .error (.before .invalidNumber rest) else .ok (['0'], rest)
    | [] => .ok (['0'], [])
  | text => digitRun text

def fractionPart : Reader (Option (List Char))
  | '.' :: rest => do
    let (ds, rest) ← digitRun rest
    .ok (some ds, rest)
  | text => .ok (none, text)

/-- The digits of an exponent, behind its sign if it has one. -/
def signedDigits : Reader (Bool × List Char)
  | '-' :: rest => do
    let (ds, rest) ← digitRun rest
    .ok ((true, ds), rest)
  | '+' :: rest => do
    let (ds, rest) ← digitRun rest
    .ok ((false, ds), rest)
  | text => do
    let (ds, rest) ← digitRun text
    .ok ((false, ds), rest)

def exponentPart : Reader (Option (Bool × List Char))
  | c :: rest =>
    if c = 'e' || c = 'E' then do
      let (e, rest) ← signedDigits rest
      .ok (some e, rest)
    else .ok (none, c :: rest)
  | [] => .ok (none, [])

/-- A number whose sign was read. -/
def literal (negative : Bool) : Reader Literal := fun text => do
  let (whole, text) ← wholePart text
  let (fraction, text) ← fractionPart text
  let (exponent, text) ← exponentPart text
  .ok (⟨negative, whole, fraction, exponent⟩, text)

/-- The largest exponent that is read digit by digit. -/
def exponentLimit : Nat := 2147483647

/-- The digits behind the one with which a number exceeds the limit on exponents. -/
def excess? : Nat → List Char → Option (List Char)
  | _, [] => none
  | n, d :: ds =>
    let next := 10 * n + (d.toNat - 48)
    if exponentLimit < next then some ds else excess? next ds

namespace Literal

/-- All digits before the exponent, as one number. -/
def mantissa (l : Literal) : Nat := digitsValue (l.whole ++ l.fraction.getD [])

/-- The place of the last of these digits. -/
def place (l : Literal) : Int :=
  let e : Int := match l.exponent with
    | none => 0
    | some (true, ds) => -(digitsValue ds : Int)
    | some (false, ds) => digitsValue ds
  e - (l.fraction.getD []).length

/-- The nearest double; `rest` is the text behind the literal. -/
def toFloat (l : Literal) (rest : List Char) : Except Stop Number :=
  match Binary64.ofDecimal? l.negative l.mantissa l.place with
  | some x => .ok (.float x)
  | none => .error (.behind .numberOutOfRange rest)

/-- An integer literal of at most 64 bits is an integer, except that a negative zero is a double as
is any other number. An exponent beyond the limit makes zero, or a number out of range. -/
def evaluate (l : Literal) (rest : List Char) : Except Stop Number :=
  match l.fraction, l.exponent with
  | none, none =>
    if l.negative then
      if 0 < l.mantissa ∧ l.mantissa ≤ 9223372036854775808 then .ok (.integer (-(l.mantissa : Int)))
      else l.toFloat rest
    else if l.mantissa ≤ 18446744073709551615 then .ok (.integer l.mantissa)
    else l.toFloat rest
  | _, some (negative, ds) =>
    match excess? 0 ds with
    | some behind =>
      if l.mantissa = 0 ∨ negative then .ok (.float (.zero l.negative))
      else .error (.behind .numberOutOfRange (behind ++ rest))
    | none => l.toFloat rest
  | some _, none => l.toFloat rest

end Literal

/-- A number whose sign was read. -/
def number (care : Care) (negative : Bool) : Reader Value := fun text => do
  let (l, rest) ← literal negative text
  match care with
  | .full => do
    let n ← l.evaluate rest
    .ok (.number n, rest)
  | .skim => .ok (.null, rest)

/-! ## Strings -/

def hexValue? (c : Char) : Option Nat :=
  if c.isDigit then some (c.toNat - 48)
  else if 'a' ≤ c && c ≤ 'f' then some (c.toNat - 87)
  else if 'A' ≤ c && c ≤ 'F' then some (c.toNat - 55)
  else none

/-- Four hexadecimal digits. Four bytes are taken before they are looked at. -/
def codeUnit : Reader Nat := fun text =>
  if byteLength (text.take 4) < 4 then .error (.behind .endInString [])
  else
    match text with
    | a :: b :: c :: d :: rest =>
      match hexValue? a, hexValue? b, hexValue? c, hexValue? d with
      | some a, some b, some c, some d => .ok (((a * 16 + b) * 16 + c) * 16 + d, rest)
      | _, _, _, _ => .error ⟨.invalidEscape, text, 4⟩
    | _ => .error ⟨.invalidEscape, text, 4⟩

def isHighSurrogate (n : Nat) : Bool := 0xd800 ≤ n && n ≤ 0xdbff

def isLowSurrogate (n : Nat) : Bool := 0xdc00 ≤ n && n ≤ 0xdfff

/-- The character of a surrogate pair. -/
def joinSurrogates (high low : Nat) : Char :=
  Char.ofNat (0x10000 + (high - 0xd800) * 0x400 + (low - 0xdc00))

/-- The second half of a surrogate pair. -/
def lowSurrogate (high : Nat) : Reader Char
  | '\\' :: 'u' :: rest => do
    let (low, rest) ← codeUnit rest
    if isLowSurrogate low then .ok (joinSurrogates high low, rest)
    else .error (.behind .loneSurrogate rest)
  | '\\' :: rest =>
    if rest.isEmpty then .error (.behind .endInString [])
    else .error (.before .unfinishedSurrogate rest)
  | text =>
    if text.isEmpty then .error (.behind .endInString [])
    else .error (.before .unfinishedSurrogate text)

/-- A character given by its code, behind the letter u. -/
def unicodeEscape (care : Care) : Reader Char := fun text => do
  let (n, rest) ← codeUnit text
  if care = .full && isLowSurrogate n then .error (.behind .loneSurrogate rest)
  else if care = .full && isHighSurrogate n then lowSurrogate n rest
  else .ok (Char.ofNat n, rest)

/-- What stands for one character, behind its backslash. -/
def escapeSequence (care : Care) : Reader Char
  | '"' :: rest => .ok ('"', rest)
  | '\\' :: rest => .ok ('\\', rest)
  | '/' :: rest => .ok ('/', rest)
  | 'b' :: rest => .ok ('\x08', rest)
  | 'f' :: rest => .ok ('\x0c', rest)
  | 'n' :: rest => .ok ('\n', rest)
  | 'r' :: rest => .ok ('\r', rest)
  | 't' :: rest => .ok ('\t', rest)
  | 'u' :: rest => unicodeEscape care rest
  | [] => .error (.behind .endInString [])
  | text => .error (.before .invalidEscape text)

/-- The rest of a string, given what was read of it in reverse. Every step takes a character, so the
length of the text bounds their number. -/
def stringFrom (care : Care) : Nat → List Char → Reader String
  | 0, _, _ => .error (.behind .endInString [])
  | fuel + 1, seen, text =>
    match text with
    | [] => .error (.behind .endInString [])
    | '"' :: rest => .ok (String.ofList seen.reverse, rest)
    | '\\' :: rest => do
      let (c, rest) ← escapeSequence care rest
      stringFrom care fuel (c :: seen) rest
    | c :: rest =>
      if c.toNat < 0x20 then .error (.behind .controlCharacter rest)
      else stringFrom care fuel (c :: seen) rest

/-- A string whose opening quote was read. -/
def string (care : Care) : Reader String := fun text =>
  stringFrom care (text.length + 1) [] text

/-! ## Arrays and objects -/

/-- The items from some item on, given the ones before it in reverse. -/
def itemsFrom (item : Reader α) : Nat → List α → Reader (List α)
  | 0, _, text => .error (.before .endInList text)
  | fuel + 1, seen, text => do
    let (v, rest) ← item text
    match skipSpace rest with
    | [] => .error (.behind .endInList [])
    | ']' :: rest => .ok ((v :: seen).reverse, rest)
    | ',' :: rest =>
      match skipSpace rest with
      | [] => .error (.behind .endInValue [])
      | ']' :: rest => .error (.before .trailingComma (']' :: rest))
      | rest => itemsFrom item fuel (v :: seen) rest
    | rest => .error (.before .expectedListSeparator rest)

/-- The items of an array whose bracket was read. -/
def listItems (item : Reader α) : Reader (List α) := fun text =>
  match skipSpace text with
  | [] => .error (.behind .endInList [])
  | ']' :: rest => .ok ([], rest)
  | rest => itemsFrom item (text.length + 1) [] rest

/-- The colon between a key and its value. -/
def colon : Reader Unit := fun text =>
  match skipSpace text with
  | [] => .error (.behind .endInObject [])
  | ':' :: rest => .ok ((), rest)
  | rest => .error (.before .expectedColon rest)

/-- A key whose opening quote was read, and the value behind it. How the value is read may depend on
the key. -/
def member (care : Care) (value : String → Reader α) : Reader (String × α) := fun text => do
  let (key, text) ← string care text
  let ((), text) ← colon text
  let (v, text) ← value key text
  .ok ((key, v), text)

/-- The members from some key on, given the ones before it in reverse. -/
def membersFrom (care : Care) (value : String → Reader α) :
    Nat → List (String × α) → Reader (List (String × α))
  | 0, _, text => .error (.before .endInObject text)
  | fuel + 1, seen, text => do
    let (m, rest) ← member care value text
    match skipSpace rest with
    | [] => .error (.behind .endInObject [])
    | '\x7d' :: rest => .ok ((m :: seen).reverse, rest)
    | ',' :: rest =>
      match skipSpace rest with
      | [] => .error (.behind .endInValue [])
      | '"' :: rest => membersFrom care value fuel (m :: seen) rest
      | '\x7d' :: rest => .error (.before .trailingComma ('\x7d' :: rest))
      | rest => .error (.before .keyNotString rest)
    | rest => .error (.before .expectedObjectSeparator rest)

/-- The members of an object whose brace was read. -/
def objectMembers (care : Care) (value : String → Reader α) : Reader (List (String × α)) :=
  fun text =>
    match skipSpace text with
    | [] => .error (.behind .endInObject [])
    | '\x7d' :: rest => .ok ([], rest)
    | '"' :: rest => membersFrom care value (text.length + 1) [] rest
    | rest => .error (.before .keyNotString rest)

/-! ## Values -/

/-- The remaining letters of a word that stands for a value. -/
def word (v : Value) : List Char → Reader Value
  | [], text => .ok (v, text)
  | _ :: _, [] => .error (.behind .endInValue [])
  | letter :: letters, c :: text =>
    if c = letter then word v letters text
    else .error (.before .expectedIdentifier (c :: text))

/-- One value; `container` reads an array or object whose bracket was read. -/
def valueWith (care : Care) (container : Char → Reader Value) : Reader Value := fun text =>
  match skipSpace text with
  | [] => .error (.behind .endInValue [])
  | 'n' :: rest => word .null ['u', 'l', 'l'] rest
  | 't' :: rest => word (.bool true) ['r', 'u', 'e'] rest
  | 'f' :: rest => word (.bool false) ['a', 'l', 's', 'e'] rest
  | '-' :: rest => number care true rest
  | '"' :: rest => do
    let (s, rest) ← string care rest
    .ok (.string s, rest)
  | c :: rest =>
    if c = '[' || c = '\x7b' then container c rest
    else if c.isDigit then number care false (c :: rest)
    else .error (.before .expectedValue (c :: rest))

/-- An array or object whose bracket was read. -/
def container (care : Care) (item : Reader Value) (bracket : Char) : Reader Value := fun text =>
  if bracket = '[' then do
    let (items, text) ← listItems item text
    .ok (.array items, text)
  else do
    let (members, text) ← objectMembers care (fun _ => item) text
    .ok (.ofMembers members, text)

/-- One value with at most the given number of arrays and objects inside one another. -/
def value (care : Care) : Nat → Reader Value
  | 0 => valueWith care fun bracket text => .error (.before .tooDeep (bracket :: text))
  | depth + 1 => valueWith care (container care (value care depth))

/-- The number of arrays and objects that may be open at once. -/
def depthLimit : Nat := 127

/-- Nothing but blanks may follow. -/
def finish (text : List Char) : Except Stop Unit :=
  match skipSpace text with
  | [] => .ok ()
  | rest => .error (.before .trailingCharacters rest)

/-- A whole text that is one value. -/
def document (text : List Char) : Except Stop Value := do
  let (v, rest) ← value .full depthLimit text
  finish rest
  .ok v

/-- The value that a text stands for. -/
def Value.parse (text : String) : Except Error Value :=
  (document text.toList).mapError (Stop.locate text.toList)

end Dashboards.Json
