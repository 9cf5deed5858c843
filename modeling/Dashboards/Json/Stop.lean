import Dashboards.Text.Length

/-!
# Where and why reading stops

A reader that refuses a text says why, and names the place by the text that was still to be read.
The line and the column are counted from there: a column is a number of bytes, and a line feed
begins the next line at column 0.

* `Cause` : why a text is refused, with its wording in `Cause.message`;
* `Stop` : a cause, the text not yet read, and how many bytes of it were looked at;
* `Position.after` : the position behind the first bytes of a text;
* `Error` : a cause and its position; `Stop.locate` finds it.
-/

namespace Dashboards.Json

open Text (byteLength)

inductive Cause where
  | endInValue
  | endInList
  | endInObject
  | endInString
  | expectedColon
  | expectedListSeparator
  | expectedObjectSeparator
  | expectedIdentifier
  | expectedValue
  | invalidEscape
  | invalidNumber
  | numberOutOfRange
  | controlCharacter
  | keyNotString
  | loneSurrogate
  | unfinishedSurrogate
  | trailingComma
  | trailingCharacters
  | tooDeep
  deriving DecidableEq, Repr

def Cause.message : Cause → String
  | .endInValue => "EOF while parsing a value"
  | .endInList => "EOF while parsing a list"
  | .endInObject => "EOF while parsing an object"
  | .endInString => "EOF while parsing a string"
  | .expectedColon => "expected \x60:\x60"
  | .expectedListSeparator => "expected \x60,\x60 or \x60]\x60"
  | .expectedObjectSeparator => "expected \x60,\x60 or \x60\x7d\x60"
  | .expectedIdentifier => "expected ident"
  | .expectedValue => "expected value"
  | .invalidEscape => "invalid escape"
  | .invalidNumber => "invalid number"
  | .numberOutOfRange => "number out of range"
  | .controlCharacter => "control character (\\u0000-\\u001F) found while parsing a string"
  | .keyNotString => "key must be a string"
  | .loneSurrogate => "lone leading surrogate in hex escape"
  | .unfinishedSurrogate => "unexpected end of hex escape"
  | .trailingComma => "trailing comma"
  | .trailingCharacters => "trailing characters"
  | .tooDeep => "recursion limit exceeded"

structure Stop where
  cause : Cause
  rest : List Char
  ahead : Nat
  deriving DecidableEq, Repr

/-- The next character is at fault, or the end of the text. -/
def Stop.before (cause : Cause) (rest : List Char) : Stop :=
  ⟨cause, rest, if rest.isEmpty then 0 else 1⟩

/-- What was just read is at fault. -/
def Stop.behind (cause : Cause) (rest : List Char) : Stop := ⟨cause, rest, 0⟩

structure Position where
  line : Nat
  column : Nat
  deriving DecidableEq, Repr

namespace Position

/-- Moves over bytes of a text, at most to its end. -/
def advance : Nat → Position → List Char → Position
  | 0, p, _ => p
  | _, p, [] => p
  | n + 1, p, c :: text =>
    if c = '\n' then advance n ⟨p.line + 1, 0⟩ text
    else
      let width := min (n + 1) c.utf8Size
      advance (n + 1 - width) ⟨p.line, p.column + width⟩ text
termination_by structural _ _ text => text

def after (bytes : Nat) (text : List Char) : Position := advance bytes ⟨1, 0⟩ text

end Position

structure Error where
  cause : Cause
  position : Position
  deriving DecidableEq, Repr

/-- The position in the whole text of a place named by the text behind it. -/
def Stop.locate (text : List Char) (stop : Stop) : Error :=
  ⟨stop.cause, .after (byteLength text - byteLength stop.rest + stop.ahead) text⟩

def Error.message (e : Error) : String :=
  e.cause.message ++ " at line " ++ toString e.position.line ++ " column " ++
    toString e.position.column

end Dashboards.Json
