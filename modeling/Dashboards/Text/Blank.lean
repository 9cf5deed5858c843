/-!
# White space and blank text

White space is the Unicode property White_Space.

* `isWhiteSpace` : the property, by ranges;
* `trimStart`, `trimEnd`, `trim` : text without the white space at its ends;
* `isBlank` : nothing is left after trimming.
-/

namespace Dashboards.Text

/-- The characters with the Unicode property White_Space. -/
def isWhiteSpace (c : Char) : Bool :=
  let n := c.toNat
  (9 ≤ n && n ≤ 13) || n == 0x20 || n == 0x85 || n == 0xa0 || n == 0x1680 ||
    (0x2000 ≤ n && n ≤ 0x200a) || n == 0x2028 || n == 0x2029 || n == 0x202f || n == 0x205f ||
    n == 0x3000

def trimStart (s : List Char) : List Char := s.dropWhile isWhiteSpace

def trimEnd (s : List Char) : List Char := (s.reverse.dropWhile isWhiteSpace).reverse

/-- The text without the white space at both of its ends. -/
def trim (s : String) : String := String.ofList (trimEnd (trimStart s.toList))

/-- Text that holds nothing, or white space only. -/
def isBlank (s : String) : Bool := s.toList.all isWhiteSpace

end Dashboards.Text
