/-
  Gatehouse — blanks, and trimming.

  A blank is a character with Unicode's property `White_Space`. `trim` drops the
  blanks at both ends of a text and nothing else.
-/
import Gatehouse.Text.Ranges

namespace Gatehouse.Text

/-- The blanks. -/
def blankRanges : Ranges :=
  [(0x0009, 0x000D), (0x0020, 0x0020), (0x0085, 0x0085), (0x00A0, 0x00A0), (0x1680, 0x1680),
  (0x2000, 0x200A), (0x2028, 0x2029), (0x202F, 0x202F), (0x205F, 0x205F), (0x3000, 0x3000)]

/-- A blank: a space, tab, line end or other white space. -/
def isBlank (c : Char) : Bool := blankRanges.has c

/-- Drop the blanks at both ends. -/
def trimChars (cs : List Char) : List Char :=
  ((cs.dropWhile isBlank).reverse.dropWhile isBlank).reverse

/-- The text without the blanks at its ends. -/
def trim (s : String) : String :=
  String.ofList (trimChars s.toList)

/-- Nothing but blanks. -/
def isBlankText (s : String) : Bool :=
  s.toList.all isBlank

end Gatehouse.Text
