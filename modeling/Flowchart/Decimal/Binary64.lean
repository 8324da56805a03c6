/-!
# Binary floating point numbers as exact fractions

A finite number of the binary64 format is `± mantissa · 2 ^ exponent`.  This module takes a `Float`
apart into these integers and, the other way round, finds the `Float` nearest to a fraction.
-/

set_option autoImplicit false

namespace Flowchart.Decimal

/-- The magnitude `mantissa · 2 ^ exponent` of a finite binary64 number. -/
structure Binary where
  mantissa : Nat
  exponent : Int
deriving Repr, DecidableEq

/-- What a binary64 number is. -/
inductive Shape where
  | nan
  | infinite (negative : Bool)
  | finite (negative : Bool) (magnitude : Binary)
deriving Repr, DecidableEq

/-- The parts of a number, from its bit pattern: one bit of sign, eleven of exponent, and the
fraction. -/
def Shape.ofBits (bits : Nat) : Shape :=
  let negative : Bool := bits / Nat.pow 2 63 % 2 == 1
  let exponent : Nat := bits / Nat.pow 2 52 % Nat.pow 2 11
  let fraction : Nat := bits % Nat.pow 2 52
  if exponent = 2047 then
    if fraction = 0 then .infinite negative else .nan
  else if exponent = 0 then
    .finite negative ⟨fraction, -1074⟩
  else
    .finite negative ⟨Nat.pow 2 52 + fraction, (exponent : Int) - 1075⟩

/-- The parts of a `Float`. -/
def Shape.of (x : Float) : Shape :=
  Shape.ofBits x.toBits.toNat

/-- The quotient rounded to the nearest integer; an exact half goes to the even neighbour. -/
def roundDiv (num den : Nat) : Nat :=
  let q := num / den
  let twice := 2 * (num % den)
  if twice < den || (twice == den && q % 2 == 0) then q else q + 1

/-- The fraction `num · 2 ^ (-e) / den` rounded to the nearest integer. -/
def scaledDiv (num den : Nat) (e : Int) : Nat :=
  if e < 0 then roundDiv (num * Nat.pow 2 (-e).toNat) den
  else roundDiv num (den * Nat.pow 2 e.toNat)

/-- The bit pattern of the nonnegative binary64 number nearest to `num / den`, for a positive
`den`.  The exponent is chosen so that the mantissa has 53 bits, or is the least one there is. -/
def nearestBits (num den : Nat) : Nat :=
  if num = 0 then 0
  else
    let guess : Int := (num.log2 : Int) - den.log2 - 52
    -- the quotient of two numbers has the difference of their bit lengths, or one bit less
    let full := if guess < 0 then num * Nat.pow 2 (-guess).toNat else num
    let unit := if guess < 0 then den else den * Nat.pow 2 guess.toNat
    let exact := if full < Nat.pow 2 52 * unit then guess - 1 else guess
    let e := max exact (-1074)
    let m := scaledDiv num den e
    let (m, e) := if m = Nat.pow 2 53 then (Nat.pow 2 52, e + 1) else (m, e)
    if m < Nat.pow 2 52 then m
    else if e > 971 then 2047 * Nat.pow 2 52
    else (e + 1075).toNat * Nat.pow 2 52 + (m - Nat.pow 2 52)

/-- The `Float` nearest to `± num / den`. -/
def nearest (negative : Bool) (num den : Nat) : Float :=
  let bits := nearestBits num den
  Float.ofBits (UInt64.ofNat (if negative then Nat.pow 2 63 + bits else bits))

/-- The `Float` nearest to `± coefficient · 10 ^ exponent`.  Beyond four hundred places on either
side of the point every number is too large or too small to be told from infinity or zero. -/
def nearestDecimal (negative : Bool) (coefficient : Nat) (exponent : Int) : Float :=
  let top : Int := exponent + (Nat.toDigits 10 coefficient).length
  if coefficient = 0 || top < -400 then nearest negative 0 1
  else if top > 400 then nearest negative (Nat.pow 10 400) 1
  else if exponent < 0 then nearest negative coefficient (Nat.pow 10 (-exponent).toNat)
  else nearest negative (coefficient * Nat.pow 10 exponent.toNat) 1

end Flowchart.Decimal
