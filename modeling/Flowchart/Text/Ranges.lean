/-!
# Tables of code point ranges

A class of characters is given by the closed ranges of code points it consists of, in increasing
order and without overlap.
-/

set_option autoImplicit false

namespace Flowchart.Text

/-- Closed ranges of code points, in increasing order. -/
abbrev Ranges := List (Nat × Nat)

/-- Whether a code point lies in one of the ranges.  The search stops at the first range that
begins beyond it. -/
def Ranges.contains : Ranges → Nat → Bool
  | [], _ => false
  | (lo, hi) :: rest, n => if n < lo then false else n ≤ hi || Ranges.contains rest n

end Flowchart.Text
