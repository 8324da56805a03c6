import Flowchart.Text.CodePoint
import Flowchart.Text.Printable

/-!
# Quoted texts

How a text or byte constant is written between quotes.  The quote is a single one unless the
constant holds a single quote and no double one.  The quote itself and the backslash get a backslash
in front, tab and line ends have their letters, and whatever cannot be printed is written by its
number in two, four or eight hexadecimal digits.
-/

set_option autoImplicit false

namespace Flowchart.Text

/-- A hexadecimal digit, in lower case. -/
def hexDigit (n : Nat) : Char :=
  if n % 16 < 10 then Char.ofNat (48 + n % 16) else Char.ofNat (87 + n % 16)

/-- The last `width` hexadecimal digits of a number. -/
def hexDigits : (width : Nat) → Nat → List Char
  | 0, _ => []
  | width + 1, n => hexDigits width (n / 16) ++ [hexDigit n]

/-- The quote to write around a constant with the given units. -/
def quoteFor (units : List Nat) : Char :=
  if units.contains 39 && !units.contains 34 then '"' else '\''

/-- The escapes that text and byte constants share; `none` when the unit has no escape of its
own. -/
def escapeUnit? (quote : Char) (n : Nat) : Option (List Char) :=
  if n = quote.toNat then some ['\\', quote]
  else if n = 92 then some ['\\', '\\']
  else if n = 9 then some ['\\', 't']
  else if n = 10 then some ['\\', 'n']
  else if n = 13 then some ['\\', 'r']
  else if n < 32 || n = 127 then some ('\\' :: 'x' :: hexDigits 2 n)
  else none

/-- One code point inside a quoted text. -/
def escapeCodePoint (quote : Char) (p : CodePoint) : List Char :=
  match escapeUnit? quote p.val with
  | some written => written
  | none =>
    if isPrintable p.val then [p.toChar]
    else if p.val < 0x100 then '\\' :: 'x' :: hexDigits 2 p.val
    else if p.val < 0x10000 then '\\' :: 'u' :: hexDigits 4 p.val
    else '\\' :: 'U' :: hexDigits 8 p.val

/-- One byte inside a quoted byte constant. -/
def escapeByte (quote : Char) (b : UInt8) : List Char :=
  match escapeUnit? quote b.toNat with
  | some written => written
  | none => if b.toNat < 127 then [Char.ofNat b.toNat] else '\\' :: 'x' :: hexDigits 2 b.toNat

/-- A text constant between quotes. -/
def quoted (text : List CodePoint) : String :=
  let quote := quoteFor (text.map (·.val))
  String.ofList (quote :: (text.flatMap (escapeCodePoint quote) ++ [quote]))

/-- A byte constant between quotes, with its mark in front. -/
def quotedBytes (bytes : List UInt8) : String :=
  let quote := quoteFor (bytes.map (·.toNat))
  String.ofList ('b' :: quote :: (bytes.flatMap (escapeByte quote) ++ [quote]))

end Flowchart.Text
