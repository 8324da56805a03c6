import Flowchart.Decimal.Shortest
import Flowchart.Text.Numeral

/-!
# Numbers as they are written

Floating point numbers are written with the fewest digits that read back, positionally when the
point stands from three places before the first digit to sixteen places after it, and with an
exponent of at least two digits otherwise.  A whole number keeps a zero after the point, except as a
part of a complex number.
-/

set_option autoImplicit false

namespace Flowchart.Decimal

/-- The choices in which written forms of a number differ. -/
structure Style where
  /-- What follows the digits of a whole number in positional form. -/
  wholeMark : String
  /-- The least position of the point, counted from the first digit, written positionally. -/
  leastPoint : Int
  /-- The greatest position of the point written positionally. -/
  greatestPoint : Int

/-- How a number stands by itself. -/
def Style.plain : Style := ⟨".0", -3, 16⟩

/-- How a part of a complex number is written. -/
def Style.complexPart : Style := ⟨"", -3, 16⟩

/-- The digits of a number without the zeros at its end. -/
def significant (n : Nat) : List Char :=
  ((Nat.toDigits 10 n).reverse.dropWhile (· == '0')).reverse

/-- An exponent: its sign and at least two digits. -/
def exponentText (e : Int) : String :=
  let digits := String.ofList (Nat.toDigits 10 e.natAbs)
  let padded := if e.natAbs < 10 then "0" ++ digits else digits
  (if e < 0 then "e-" else "e+") ++ padded

/-- Digits with the point after the first `point` of them. -/
def place (style : Style) (digits : List Char) (point : Int) : String :=
  if style.leastPoint ≤ point && point ≤ style.greatestPoint then
    if point ≤ 0 then
      "0." ++ String.ofList (List.replicate (-point).toNat '0' ++ digits)
    else if digits.length ≤ point.toNat then
      String.ofList (digits ++ List.replicate (point.toNat - digits.length) '0') ++ style.wholeMark
    else
      String.ofList (digits.take point.toNat) ++ "." ++ String.ofList (digits.drop point.toNat)
  else
    let tail := digits.drop 1
    String.ofList (digits.take 1) ++ (if tail.isEmpty then "" else "." ++ String.ofList tail) ++
      exponentText (point - 1)

/-- The written form of a magnitude. -/
def Binary.text (style : Style) (b : Binary) : String :=
  if b.mantissa = 0 then "0" ++ style.wholeMark
  else
    let decimal := b.shortest
    let all := Nat.toDigits 10 decimal.coefficient
    place style (significant decimal.coefficient) (decimal.exponent + all.length)

/-- The written form of a floating point number. -/
def floatText (style : Style) (x : Float) : String :=
  match Shape.of x with
  | .nan => "nan"
  | .infinite negative => if negative then "-inf" else "inf"
  | .finite negative b => (if negative then "-" else "") ++ b.text style

/-- Whether a number is zero with a positive sign. -/
def isPlusZero (x : Float) : Bool :=
  x.toBits == 0

/-- The written form of a complex number.  A real part of plus zero is left out. -/
def complexText (re im : Float) : String :=
  let part := floatText Style.complexPart
  if isPlusZero re then part im ++ "j"
  else
    let imaginary := part im
    let sign := if imaginary.startsWith "-" then "" else "+"
    "(" ++ part re ++ sign ++ imaginary ++ "j)"

/-! ### Reading -/

/-- Digits with single underscores between them, as a list of digits. -/
def plainDigits? : List Char → Option (List Char)
  | [] => some []
  | [c] => if c.isDigit then some [c] else none
  | c :: d :: rest =>
    if c.isDigit then
      if d == '_' then
        match rest with
        | e :: _ => if e.isDigit then (plainDigits? rest).map (c :: ·) else none
        | [] => none
      else (plainDigits? (d :: rest)).map (c :: ·)
    else none

/-- The number a list of decimal digits stands for. -/
def natOfDigits (digits : List Char) : Nat :=
  digits.foldl (fun n c => 10 * n + (c.toNat - 48)) 0

/-- Digits, point, digits and exponent as an unsigned number; at least one digit is needed before
the exponent. -/
def readUnsigned? (negative : Bool) (text : List Char) : Option Float := do
  let isMark := fun c => c == 'e' || c == 'E'
  let mantissa := text.takeWhile (!isMark ·)
  let tail := text.dropWhile (!isMark ·)
  let whole ← plainDigits? (mantissa.takeWhile (· != '.'))
  let fraction ← plainDigits? ((mantissa.dropWhile (· != '.')).drop 1)
  let exponent : Int ←
    match tail with
    | [] => some 0
    | _ :: rest =>
      let (sign, digits) : Int × List Char :=
        match rest with
        | '-' :: r => (-1, r)
        | '+' :: r => (1, r)
        | r => (1, r)
      match digits with
      | [] => none
      | _ => (plainDigits? digits).map fun ds => sign * natOfDigits ds
  if whole.isEmpty && fraction.isEmpty then none
  else
    some (nearestDecimal negative (natOfDigits (whole ++ fraction)) (exponent - fraction.length))

/-- A floating point number from its text: blanks around it, a sign, and either the word for an
infinity or for no number, or a decimal. -/
def readFloat? (text : String) : Option Float :=
  let (negative, rest) := splitSign (trimNumeral (plainNumeral text.toList))
  let word := String.ofList (rest.map Char.toLower)
  if word == "inf" || word == "infinity" then
    some (Float.ofBits (if negative then 0xfff0000000000000 else 0x7ff0000000000000))
  else if word == "nan" then
    some (Float.ofBits (if negative then 0xfff8000000000000 else 0x7ff8000000000000))
  else readUnsigned? negative rest

end Flowchart.Decimal
