import Flowchart.Decimal.Written
import Flowchart.Text.Numeral
import Flowchart.Text.Quoted

/-!
# Constants

The values that stand in a syntax tree as they are, and the text by which each is shown.
-/

set_option autoImplicit false

namespace Flowchart

/-- A number written in a program. -/
inductive Number where
  | int (value : Int)
  | float (value : Float)
  | complex (re im : Float)

/-- A constant of a syntax tree. -/
inductive Constant where
  | none
  | bool (value : Bool)
  | number (value : Number)
  | str (text : List Text.CodePoint)
  | bytes (bytes : List UInt8)
  | ellipsis

/-- The written form of a number. -/
def Number.text : Number → String
  | .int n => intText n
  | .float x => Decimal.floatText Decimal.Style.plain x
  | .complex re im => Decimal.complexText re im

/-- The written form of a number, unless it is a whole number of more digits than the limit. -/
def Number.text? : Number → Option String
  | .int n => intText? n
  | n => some n.text

namespace Constant

/-- An integer constant. -/
def int (n : Int) : Constant := .number (.int n)

/-- The text constant with the characters of a string. -/
def ofString (s : String) : Constant := .str (Text.codePoints s)

/-- The written form of a constant. -/
def text : Constant → String
  | none => "None"
  | bool b => if b then "True" else "False"
  | number n => n.text
  | str s => Text.quoted s
  | bytes b => Text.quotedBytes b
  | ellipsis => "Ellipsis"

/-- The written form of a constant, unless it is a whole number of more digits than the limit. -/
def text? : Constant → Option String
  | number n => n.text?
  | c => some c.text

/-- The name of the type of a constant. -/
def typeName : Constant → String
  | none => "NoneType"
  | bool _ => "bool"
  | number (.int _) => "int"
  | number (.float _) => "float"
  | number (.complex _ _) => "complex"
  | str _ => "str"
  | bytes _ => "bytes"
  | ellipsis => "ellipsis"

end Constant

end Flowchart
