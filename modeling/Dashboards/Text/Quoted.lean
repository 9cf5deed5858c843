import Dashboards.Text.Shown

/-!
# Quoted text

Text between double quotes, on one line and with every unprintable character visible.

* `escaped` : one character, either as itself or as an escape;
* `quoted` : the text between quotes.
-/

namespace Dashboards.Text

/-- The digits of a code point in lower-case hexadecimal, without leading zeros. -/
def hexDigits (n : Nat) : List Char := Nat.toDigits 16 n

/-- A quote or a backslash takes a backslash, the common controls have short names, and all else
that is not shown is written by its code point. -/
def escaped (c : Char) : List Char :=
  match c with
  | '\x00' => ['\\', '0']
  | '\t' => ['\\', 't']
  | '\n' => ['\\', 'n']
  | '\r' => ['\\', 'r']
  | '"' => ['\\', '"']
  | '\\' => ['\\', '\\']
  | c => if isShown c then [c] else ['\\', 'u', '\x7b'] ++ hexDigits c.toNat ++ ['\x7d']

def quoted (s : String) : String :=
  String.ofList ('"' :: s.toList.flatMap escaped ++ ['"'])

end Dashboards.Text
