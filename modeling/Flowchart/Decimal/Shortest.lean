import Flowchart.Decimal.Binary64

/-!
# The shortest decimal that reads back

Of the decimals that round to a given binary64 number this module finds one with the fewest digits,
and among those the nearest to the number.  The decimals that round to `m · 2 ^ q` form an interval
that reaches half way to the two neighbours of the number, its ends included exactly when `m` is
even.
-/

set_option autoImplicit false

namespace Flowchart.Decimal

/-- `coefficient · 10 ^ exponent`. -/
structure Scaled where
  coefficient : Nat
  exponent : Int
deriving Repr, DecidableEq

namespace Binary

/-- `x · 2 ^ (q - 2) / 10 ^ k` as a fraction. -/
def ratio (q : Int) (k : Int) (x : Nat) : Nat × Nat :=
  (x * Nat.pow 2 (q - 2).toNat * Nat.pow 10 (-k).toNat,
    Nat.pow 2 (2 - q).toNat * Nat.pow 10 k.toNat)

/-- Whether `d · 10 ^ k` rounds to the number.  Quarter units are used, because the lower neighbour
of a power of two is only half as far away as the upper one. -/
def readsBack (b : Binary) (k : Int) (d : Nat) : Bool :=
  let low := if b.mantissa = Nat.pow 2 52 && b.exponent > -1074 then 4 * b.mantissa - 1
    else 4 * b.mantissa - 2
  let (lowNum, den) := ratio b.exponent k low
  let (highNum, _) := ratio b.exponent k (4 * b.mantissa + 2)
  if b.mantissa % 2 = 0 then lowNum ≤ d * den && d * den ≤ highNum
  else lowNum < d * den && d * den < highNum

/-- The decimal on the grid of step `10 ^ k` that rounds to the number, if there is one: of the two
grid points beside the number the nearer one that reads back, an exact tie going to the even. -/
def onGrid? (b : Binary) (k : Int) : Option Scaled :=
  let (num, den) := ratio b.exponent k (4 * b.mantissa)
  let below := num / den
  let near := roundDiv num den
  let far := if near = below then below + 1 else below
  if b.readsBack k near then some ⟨near, k⟩
  else if b.readsBack k far then some ⟨far, k⟩
  else none

/-- Whether `10 ^ e` is at most the number. -/
def atLeastTenPow (b : Binary) (e : Int) : Bool :=
  let (num, den) := ratio b.exponent e (4 * b.mantissa)
  den ≤ num

/-- The exponent of the first decimal digit, found from the number of binary digits. -/
def leadingExponent (b : Binary) : Int :=
  let guess := ((b.mantissa.log2 : Int) + b.exponent) * 30103 / 100000
  if b.atLeastTenPow (guess + 1) then guess + 1
  else if b.atLeastTenPow guess then guess
  else guess - 1

/-- The shortest decimal of a positive number; seventeen digits always suffice. -/
def shortest (b : Binary) : Scaled :=
  let top := b.leadingExponent
  ((List.range 17).findSome? fun (n : Nat) => b.onGrid? (top - n)).getD ⟨0, 0⟩

end Binary

end Flowchart.Decimal
