import Dashboards.Json.Decimal

/-!
# Writing JSON

Both writers put the text of a value in front of a text that follows it.

* `escape` : one character inside a string;
* `quote` : a string with its quotes;
* `Value.write` : compact text, without a space;
* `Value.writePretty` : one member or item a line, indented by two spaces a level;
* `Value.compact`, `Value.pretty` : the texts as strings.
-/

namespace Dashboards.Json

/-- The digit of a number below sixteen, in lower case. -/
def hexDigit (n : Nat) : Char := Nat.digitChar n

/-- Quotes, backslashes and control characters are escaped, all else is written as it is. -/
def escape (c : Char) : List Char :=
  match c with
  | '"' => ['\\', '"']
  | '\\' => ['\\', '\\']
  | '\x08' => ['\\', 'b']
  | '\x0c' => ['\\', 'f']
  | '\n' => ['\\', 'n']
  | '\r' => ['\\', 'r']
  | '\t' => ['\\', 't']
  | c =>
    if c.toNat < 0x20 then
      ['\\', 'u', '0', '0', hexDigit (c.toNat / 16), hexDigit (c.toNat % 16)]
    else [c]

/-- A string between quotes, before the text that follows. -/
def quote (s : String) (rest : List Char) : List Char :=
  '"' :: (s.toList.flatMap escape ++ '"' :: rest)

/-- Two spaces a level on a line of their own. -/
def newLine (level : Nat) (rest : List Char) : List Char :=
  '\n' :: (List.replicate (2 * level) ' ' ++ rest)

namespace Value

/-! ## Compact text -/

mutual

/-- The compact text of a value, before the text that follows. -/
def write : Value → List Char → List Char
  | .null, rest => 'n' :: 'u' :: 'l' :: 'l' :: rest
  | .bool true, rest => 't' :: 'r' :: 'u' :: 'e' :: rest
  | .bool false, rest => 'f' :: 'a' :: 'l' :: 's' :: 'e' :: rest
  | .number n, rest => n.text ++ rest
  | .string s, rest => quote s rest
  | .array [], rest => '[' :: ']' :: rest
  | .array (v :: vs), rest => '[' :: v.write (writeItems vs rest)
  | .object [], rest => '\x7b' :: '\x7d' :: rest
  | .object ((k, v) :: ms), rest => '\x7b' :: quote k (':' :: v.write (writeMembers ms rest))

/-- The items after the first one, and the end of the array. -/
def writeItems : List Value → List Char → List Char
  | [], rest => ']' :: rest
  | v :: vs, rest => ',' :: v.write (writeItems vs rest)

/-- The members after the first one, and the end of the object. -/
def writeMembers : List (String × Value) → List Char → List Char
  | [], rest => '\x7d' :: rest
  | (k, v) :: ms, rest => ',' :: quote k (':' :: v.write (writeMembers ms rest))

end

/-! ## Indented text -/

mutual

/-- The indented text of a value that begins at some level, before the text that follows. -/
def writePretty (level : Nat) : Value → List Char → List Char
  | .array (v :: vs), rest =>
    '[' :: newLine (level + 1) (v.writePretty (level + 1) (writePrettyItems level vs rest))
  | .object ((k, v) :: ms), rest =>
    '\x7b' :: newLine (level + 1) (quote k (':' :: ' ' ::
      v.writePretty (level + 1) (writePrettyMembers level ms rest)))
  | v, rest => v.write rest

def writePrettyItems (level : Nat) : List Value → List Char → List Char
  | [], rest => newLine level (']' :: rest)
  | v :: vs, rest =>
    ',' :: newLine (level + 1) (v.writePretty (level + 1) (writePrettyItems level vs rest))

def writePrettyMembers (level : Nat) : List (String × Value) → List Char → List Char
  | [], rest => newLine level ('\x7d' :: rest)
  | (k, v) :: ms, rest =>
    ',' :: newLine (level + 1) (quote k (':' :: ' ' ::
      v.writePretty (level + 1) (writePrettyMembers level ms rest)))

end

/-- The text without spaces. -/
def compact (v : Value) : String := String.ofList (v.write [])

/-- The text on indented lines. -/
def pretty (v : Value) : String := String.ofList (v.writePretty 0 [])

end Value

end Dashboards.Json
