import Flowchart.Proofs.Text.Numeral
import Flowchart.Tree.Constant

/-!
# `Flowchart.Proofs.Text.Number`: the characters of a number

A number is written with digits and a few marks (`isNumeric`), whatever its value, and with at least
one character.  Only a complex number with both of its parts has parentheses around it
(`Number.exists_numeral`).  So the text of a number has no blank in it, no comma and no quote.
-/

set_option autoImplicit false

namespace Flowchart

/-- The characters of numbers other than digits. -/
def numericMarks : List Char :=
  ['.', 'e', '+', '-', 'j', 'i', 'n', 'f', 'a']

/-- Whether a character occurs in the text of a number, parentheses apart. -/
def isNumeric (c : Char) : Bool :=
  c.isDigit || numericMarks.contains c

/-- A text of such characters, at least one. -/
structure IsNumeral (word : List Char) : Prop where
  ne_nil : word ≠ []
  numeric : ∀ c ∈ word, isNumeric c = true

/-- Digits occur in numbers. -/
theorem isNumeric_of_isDigit {c : Char} (h : c.isDigit = true) : isNumeric c = true := by
  rw [isNumeric, h, Bool.true_or]

/-- All characters of a word occur in numbers if a test of each of them says so. -/
theorem isNumeric_of_all {word : List Char} (h : word.all isNumeric = true) :
    ∀ c ∈ word, isNumeric c = true :=
  List.all_eq_true.mp h

/-- More characters may follow a numeral. -/
theorem IsNumeral.append {a b : List Char} (ha : IsNumeral a) (hb : ∀ c ∈ b, isNumeric c = true) :
    IsNumeral (a ++ b) where
  ne_nil h := ha.ne_nil (List.append_eq_nil_iff.mp h).1
  numeric := List.forall_mem_append.mpr ⟨ha.numeric, hb⟩

/-- More characters may stand before a numeral. -/
theorem IsNumeral.prepend {a b : List Char} (ha : ∀ c ∈ a, isNumeric c = true) (hb : IsNumeral b) :
    IsNumeral (a ++ b) where
  ne_nil h := hb.ne_nil (List.append_eq_nil_iff.mp h).2
  numeric := List.forall_mem_append.mpr ⟨ha, hb.numeric⟩

/-- The digits of a natural number are a numeral. -/
theorem isNumeral_toDigits (n : Nat) : IsNumeral (Nat.toDigits 10 n) where
  ne_nil := Nat.toDigits_ne_nil
  numeric c hc := isNumeric_of_isDigit (isDigit_of_mem_toDigits c hc)

/-- The digits of a whole number with its sign are a numeral. -/
theorem isNumeral_intText (n : Int) : IsNumeral (intText n).toList := by
  rw [toList_intText]
  split
  · exact (isNumeral_toDigits n.natAbs).prepend (a := ['-']) (isNumeric_of_all rfl)
  · exact isNumeral_toDigits n.natAbs

namespace Decimal

/-- An exponent has a letter, a sign and at least two digits. -/
theorem isNumeral_exponentText (e : Int) : IsNumeral (exponentText e).toList := by
  have hpadded : IsNumeral (if e.natAbs < 10 then "0" ++ String.ofList (Nat.toDigits 10 e.natAbs)
      else String.ofList (Nat.toDigits 10 e.natAbs)).toList := by
    split
    · simp only [String.toList_append, String.toList_ofList]
      exact .prepend (isNumeric_of_all rfl) (isNumeral_toDigits e.natAbs)
    · rw [String.toList_ofList]
      exact isNumeral_toDigits e.natAbs
  rw [exponentText, String.toList_append]
  refine .prepend ?_ hpadded
  split <;> exact isNumeric_of_all rfl

section
variable {style : Style} (hstyle : ∀ c ∈ style.wholeMark.toList, isNumeric c = true)
include hstyle

/-- Digits with a point, or with an exponent. -/
theorem isNumeral_place {digits : List Char} (hdigits : ∀ c ∈ digits, isNumeric c = true)
    (point : Int) : IsNumeral (place style digits point).toList := by
  have hzeros : ∀ n, ∀ c ∈ List.replicate n '0', isNumeric c = true := by
    intro n c hc
    rw [List.eq_of_mem_replicate hc]
    rfl
  have htake : ∀ n, ∀ c ∈ digits.take n, isNumeric c = true :=
    fun n c hc => hdigits c (List.mem_of_mem_take hc)
  have hdrop : ∀ n, ∀ c ∈ digits.drop n, isNumeric c = true :=
    fun n c hc => hdigits c (List.mem_of_mem_drop hc)
  have hpoint : IsNumeral ['.'] := ⟨List.cons_ne_nil _ _, isNumeric_of_all rfl⟩
  -- The cases of the definition: a small fraction, a whole number, digits on both sides of the
  -- point, and an exponent.
  unfold place
  split
  · split
    · simp only [String.toList_append, String.toList_ofList]
      exact .append ⟨List.cons_ne_nil _ _, isNumeric_of_all rfl⟩
        (List.forall_mem_append.mpr ⟨hzeros _, hdigits⟩)
    · split
      · rename_i hpositive hlength
        simp only [String.toList_append, String.toList_ofList]
        refine .append ⟨fun hnil => ?_, List.forall_mem_append.mpr ⟨hdigits, hzeros _⟩⟩ hstyle
        -- There are as many characters in front of the point as it says, which is at least one.
        have hlength := congrArg List.length hnil
        simp only [List.length_append, List.length_replicate, List.length_nil] at hlength
        omega
      · simp only [String.toList_append, String.toList_ofList]
        exact (hpoint.prepend (htake _)).append (hdrop _)
  · simp only [String.toList_append, String.toList_ofList]
    refine .prepend (List.forall_mem_append.mpr ⟨htake 1, ?_⟩) (isNumeral_exponentText _)
    split
    · exact isNumeric_of_all rfl
    · simp only [String.toList_append, String.toList_ofList]
      exact (hpoint.append (hdrop 1)).numeric

/-- The text of a binary fraction is a numeral, be it zero or not. -/
theorem isNumeral_binary (b : Binary) : IsNumeral (b.text style).toList := by
  unfold Binary.text
  split
  · rw [String.toList_append]
    exact .append ⟨List.cons_ne_nil _ _, isNumeric_of_all rfl⟩ hstyle
  · refine isNumeral_place hstyle ?_ _
    intro c hc
    -- The digits without the zeros at their end are digits.
    have hmem := (List.dropWhile_suffix _).mem (List.mem_reverse.mp hc)
    exact (isNumeral_toDigits _).numeric c (List.mem_reverse.mp hmem)

/-- The text of every floating-point number is a numeral; the infinities and what is not a number
are words of such characters, too. -/
theorem isNumeral_floatText (x : Float) : IsNumeral (floatText style x).toList := by
  unfold floatText
  split
  · exact ⟨List.cons_ne_nil _ _, isNumeric_of_all rfl⟩
  · split <;> exact ⟨List.cons_ne_nil _ _, isNumeric_of_all rfl⟩
  · rw [String.toList_append]
    refine .prepend ?_ (isNumeral_binary hstyle _)
    split <;> exact isNumeric_of_all rfl

end

end Decimal

/-- A number is written as one word of digits and marks, perhaps in parentheses. -/
theorem Number.exists_numeral (n : Number) :
    ∃ word, IsNumeral word ∧ (n.text.toList = word ∨ n.text.toList = '(' :: (word ++ [')'])) := by
  cases n with
  | int n => exact ⟨_, isNumeral_intText n, .inl rfl⟩
  | float x => exact ⟨_, Decimal.isNumeral_floatText (isNumeric_of_all rfl) x, .inl rfl⟩
  | complex re im =>
      have hpart : ∀ x, IsNumeral (Decimal.floatText .complexPart x).toList :=
        Decimal.isNumeral_floatText (isNumeric_of_all rfl)
      rw [Number.text, Decimal.complexText]
      -- Without a real part there are no parentheses.
      split
      · rw [String.toList_append]
        exact ⟨_, (hpart im).append (isNumeric_of_all rfl), .inl rfl⟩
      · have hsign : ∀ b : Bool, ∀ c ∈ (if b then "" else "+").toList, isNumeric c = true := by
          rintro (_ | _) <;> exact isNumeric_of_all rfl
        dsimp only
        -- Whether a plus sign is needed between the parts makes no difference here.
        generalize (Decimal.floatText Decimal.Style.complexPart im).startsWith "-" = b
        have hword := (((hpart re).append (hsign b)).append (hpart im).numeric).append (b := ['j'])
          (isNumeric_of_all rfl)
        exact ⟨_, hword, .inr (by simp)⟩

end Flowchart
