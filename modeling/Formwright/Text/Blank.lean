import Formwright.Text.Basic

/-!
Two sets of blanks. `isWhiteSpace` is the Unicode property White_Space, 25 code
points; `isBlank` has the four information separators U+001C to U+001F besides.
-/

namespace Formwright

namespace CodePoint

/-- The Unicode property White_Space. -/
def isWhiteSpace (c : CodePoint) : Bool :=
  let n := c.value
  (9 ≤ n && n ≤ 13) || n == 0x20 || n == 0x85 || n == 0xA0 || n == 0x1680 ||
    (0x2000 ≤ n && n ≤ 0x200A) || n == 0x2028 || n == 0x2029 || n == 0x202F ||
    n == 0x205F || n == 0x3000

/-- White space and the information separators. -/
def isBlank (c : CodePoint) : Bool :=
  c.isWhiteSpace || (0x1C ≤ c.value && c.value ≤ 0x1F)

end CodePoint

namespace Text

def trimWhiteSpace (t : Text) : Text :=
  t.trimWhere CodePoint.isWhiteSpace

/-- Whether nothing but blanks is there. -/
def isBlank (t : Text) : Bool :=
  t.all CodePoint.isBlank

end Text

end Formwright
