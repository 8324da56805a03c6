import Flowchart.Text.Blank
import Flowchart.Text.Word

/-!
# Whole numbers in decimal digits

Whole numbers are read and written with a limited number of digits.  What is read may have blanks
around it and digits of any script.
-/

set_option autoImplicit false

namespace Flowchart

/-- The greatest number of decimal digits in which a whole number is read or written. -/
def digitLimit : Nat := 4300

/-- The message on a whole number beyond the limit, with what is known about it. -/
def digitLimitMessage (detail : String) : String :=
  "Exceeds the limit (4300 digits) for integer string conversion" ++ detail ++
    "; use sys.set_int_max_str_digits() to increase the limit"

/-! ### Writing -/

/-- A whole number in decimal digits. -/
def intText (n : Int) : String :=
  let digits := String.ofList (Nat.toDigits 10 n.natAbs)
  if n < 0 then "-" ++ digits else digits

/-- A whole number in decimal digits, unless it has more of them than the limit. -/
def intText? (n : Int) : Option String :=
  if n.natAbs < Nat.pow 10 digitLimit then some (intText n) else none

/-! ### Reading -/

/-- A numeral in plain ASCII: digits of other scripts and blanks outside ASCII have counterparts
there.  At a character without a counterpart the numeral ends in a question mark. -/
def plainNumeral : List Char → List Char
  | [] => []
  | c :: rest =>
    if c.toNat < 127 then c :: plainNumeral rest
    else if Text.isBlank c then ' ' :: plainNumeral rest
    else
      match Text.digitValue? c with
      | some d => Char.ofNat (48 + d) :: plainNumeral rest
      | none => ['?']

/-- Whether a character of a plain numeral is a blank. -/
def isNumeralBlank (c : Char) : Bool :=
  c == ' ' || ('\t' ≤ c && c ≤ '\r')

/-- A plain numeral without blanks around it. -/
def trimNumeral (text : List Char) : List Char :=
  ((text.dropWhile isNumeralBlank).reverse.dropWhile isNumeralBlank).reverse

/-- A text as a sign and what follows it. -/
def splitSign : List Char → Bool × List Char
  | '-' :: rest => (true, rest)
  | '+' :: rest => (false, rest)
  | text => (false, text)

/-- Why a text is not read as a whole number. -/
inductive NumeralFault where
  | malformed
  | tooManyDigits (count : Nat)
deriving Repr, DecidableEq

/-- Whether digits and underscores begin with a digit, end with one, and have no two underscores
side by side. -/
def isDigitGroups : List Char → Bool
  | [] => false
  | [c] => c.isDigit
  | c :: '_' :: rest => c.isDigit && isDigitGroups rest
  | c :: rest => c.isDigit && isDigitGroups rest

/-- A whole number from its text: blanks around it, a sign, and digits with single underscores
between them.  The digits are counted before the end of the text is looked at. -/
def readInt (text : String) : Except NumeralFault Int := do
  let (negative, body) := splitSign ((plainNumeral text.toList).dropWhile isNumeralBlank)
  let isPart := fun (c : Char) => c.isDigit || c == '_'
  let run := body.takeWhile isPart
  let digits := run.filter Char.isDigit
  unless isDigitGroups run do throw .malformed
  if digitLimit < digits.length then throw (.tooManyDigits digits.length)
  unless ((body.dropWhile isPart).dropWhile isNumeralBlank).isEmpty do throw .malformed
  let value : Int := digits.foldl (fun n c => 10 * n + (c.toNat - 48)) 0
  return if negative then -value else value

end Flowchart
