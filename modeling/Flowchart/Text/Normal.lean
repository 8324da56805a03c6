import Flowchart.Text.CombiningMark
import Flowchart.Text.CompatibleForm
import Flowchart.Text.Composite

/-!
# The normal form of names

Two names are the same when they differ only in compatible forms of their characters.  The normal
form of a name is the same for all of these: every character is taken apart into plain characters
and combining marks, the marks behind a character are put in order, and then characters and marks
are joined again as far as there are characters for both.
-/

set_option autoImplicit false

namespace Flowchart.Text

/-! ### Korean syllables

A syllable has a first consonant, a vowel and perhaps a last consonant, and the syllables are
numbered in the order of these three. -/

/-- The number of the first syllable. -/
def syllableBase : Nat := 0xAC00

/-- The number of all syllables. -/
def syllableCount : Nat := 11172

/-- The number of the first consonant, vowel and last consonant of the first syllable.  A syllable
without a last consonant counts as having the last of these. -/
def letterBases : Nat × Nat × Nat := (0x1100, 0x1161, 0x11A7)

/-- The parts of the syllable with the given number among all syllables. -/
def syllableParts (n : Nat) : List Nat :=
  let (lead, vowel, tail) := letterBases
  [lead + n / 588, vowel + n % 588 / 28] ++ if n % 28 = 0 then [] else [tail + n % 28]

/-- The syllable of a first consonant and a vowel, or of an open syllable and a last consonant. -/
def syllable? (a b : Nat) : Option Nat :=
  let (lead, vowel, tail) := letterBases
  if lead ≤ a && a < lead + 19 && vowel ≤ b && b < vowel + 21 then
    some (syllableBase + (a - lead) * 588 + (b - vowel) * 28)
  else if syllableBase ≤ a && a < syllableBase + syllableCount && (a - syllableBase) % 28 = 0 &&
      tail < b && b < tail + 28 then
    some (a + (b - tail))
  else none

/-! ### Taking apart, ordering and joining -/

/-- The parts of a character. -/
def decompose (c : Nat) : List Nat :=
  if syllableBase ≤ c && c < syllableBase + syllableCount then syllableParts (c - syllableBase)
  else parts c

/-- Put a character in front of others in order: a mark comes behind the marks of lower classes. -/
def placeMark (c : Nat) : List Nat → List Nat
  | [] => [c]
  | d :: rest =>
    if 0 < markClass d && markClass d < markClass c then d :: placeMark c rest else c :: d :: rest

/-- The marks behind every character in the order of their classes. -/
def orderMarks (text : List Nat) : List Nat :=
  text.foldr placeMark []

/-- The character for two others together. -/
def join? (a b : Nat) : Option Nat :=
  syllable? a b <|> composite? a b

/-- Join a character with those behind it.  `kept` holds the marks passed over, the last one first;
a mark is joined with the character only across marks of lower classes. -/
def joinFrom (base : Nat) (kept : List Nat) : List Nat → List Nat
  | [] => base :: kept.reverse
  | c :: rest =>
    let reaches := match kept with
      | [] => true
      | mark :: _ => markClass mark < markClass c
    match if reaches then join? base c else none with
    | some joined => joinFrom joined kept rest
    | none =>
      if markClass c = 0 then base :: kept.reverse ++ joinFrom c [] rest
      else joinFrom base (c :: kept) rest

/-- The normal form of a text.  Plain ASCII is its own normal form. -/
def normalForm (text : List Char) : List Char :=
  if text.all fun c => c.toNat < 128 then text
  else
    match orderMarks (text.flatMap fun c => decompose c.toNat) with
    | [] => []
    | c :: rest => (joinFrom c [] rest).map Char.ofNat

end Flowchart.Text
