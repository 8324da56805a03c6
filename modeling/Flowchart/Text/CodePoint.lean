/-!
# Code points

A text constant of a program is a list of code points.  Unlike a character, a code point may be a
surrogate, because an escape sequence can name one.
-/

set_option autoImplicit false

namespace Flowchart.Text

/-- A Unicode code point, surrogates included. -/
abbrev CodePoint := Fin 0x110000

/-- The code point of a character. -/
def CodePoint.ofChar (c : Char) : CodePoint :=
  ⟨c.toNat, by
    have h := c.valid
    have e : c.toNat = c.val.toNat := rfl
    simp only [UInt32.isValidChar, Nat.isValidChar] at h
    omega⟩

/-- The character of a code point; a surrogate has none and becomes the replacement character. -/
def CodePoint.toChar (p : CodePoint) : Char :=
  if p.val.isValidChar then Char.ofNat p.val else '�'

/-- The code points of a string. -/
def codePoints (s : String) : List CodePoint :=
  s.toList.map CodePoint.ofChar

/-- The string with the given code points. -/
def ofCodePoints (text : List CodePoint) : String :=
  String.ofList (text.map CodePoint.toChar)

/-- A character is known from its code point. -/
theorem CodePoint.toChar_ofChar (c : Char) : (CodePoint.ofChar c).toChar = c := by
  have h : c.toNat.isValidChar := c.valid
  simp [CodePoint.toChar, CodePoint.ofChar, h]

/-- A text is known from its code points. -/
@[simp] theorem ofCodePoints_codePoints (s : String) : ofCodePoints (codePoints s) = s := by
  have h : (CodePoint.toChar ∘ CodePoint.ofChar) = id := by
    funext c
    simp [CodePoint.toChar_ofChar]
  simp [ofCodePoints, codePoints, h]

end Flowchart.Text
