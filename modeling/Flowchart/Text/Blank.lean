import Flowchart.Text.Ranges

/-!
# Blank characters

The characters that trimming removes from the ends of a text, in every script.
-/

set_option autoImplicit false
set_option maxRecDepth 8000

namespace Flowchart.Text

/-- The blank characters, in increasing order. -/
def blankRanges : Ranges :=
  [(0x9, 0xd), (0x1c, 0x20), (0x85, 0x85), (0xa0, 0xa0), (0x1680, 0x1680), (0x2000, 0x200a),
   (0x2028, 0x2029), (0x202f, 0x202f), (0x205f, 0x205f), (0x3000, 0x3000)]

/-- Whether trimming removes the character. -/
def isBlank (c : Char) : Bool :=
  blankRanges.contains c.toNat

end Flowchart.Text
