-- White space: the characters with the Unicode property White_Space, and
-- trimming a text by them.
import Verdict.Text.Ranges

namespace Verdict.Text

/-- The code points with the Unicode property White_Space. -/
def blankRanges : Ranges :=
  [(0x9, 0xD), (0x20, 0x20), (0x85, 0x85), (0xA0, 0xA0), (0x1680, 0x1680), (0x2000, 0x200A),
   (0x2028, 0x2029), (0x202F, 0x202F), (0x205F, 0x205F), (0x3000, 0x3000)]

/-- White space in the sense of Unicode. -/
def isBlank (c : Char) : Bool := blankRanges.holds c

/-! ## Trimming -/

/-- The characters without leading white space. -/
def trimLeft (cs : List Char) : List Char := cs.dropWhile isBlank

/-- The characters without trailing white space. -/
def trimRight (cs : List Char) : List Char := (cs.reverse.dropWhile isBlank).reverse

/-- The characters without leading and trailing white space. -/
def trimChars (cs : List Char) : List Char := trimRight (trimLeft cs)

/-- The text without leading and trailing white space. -/
def trim (s : String) : String := String.ofList (trimChars s.toList)

end Verdict.Text
