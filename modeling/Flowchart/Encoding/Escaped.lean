import Flowchart.Encoding.Wide

/-!
# Escape sequences and insertions

Two ways to write any character with few: as an escape sequence behind a backslash, or as a number
at the end of the text that tells where the character is inserted.
-/

set_option autoImplicit false

namespace Flowchart.Encoding

/-! ### Escape sequences -/

/-- The digit a byte stands for. -/
def hexDigit? (b : UInt8) : Option Nat :=
  let c := Char.ofNat b.toNat
  if c.isDigit then some (b.toNat - 48)
  else if 'a' ≤ c && c ≤ 'f' then some (b.toNat - 87)
  else if 'A' ≤ c && c ≤ 'F' then some (b.toNat - 55)
  else none

/-- The number of the hexadecimal digits in front, of which there are to be `count`.  If there are
fewer, how many there are. -/
def hexNumber? (count : Nat) (bytes : List UInt8) : Except Nat Nat :=
  let digits := (bytes.take count).map hexDigit?
  let present := digits.takeWhile (·.isSome)
  if present.length = count then .ok (present.foldl (fun n d => 16 * n + d.getD 0) 0)
  else .error present.length

/-- The number of the octal digits in front, of which there are at most three, and how many there
are. -/
def octalNumber (bytes : List UInt8) : Nat × Nat :=
  let digits := (bytes.take 3).takeWhile fun b => 48 ≤ b && b < 56
  (digits.foldl (fun n b => 8 * n + (b.toNat - 48)) 0, digits.length)

/-- The characters that a letter behind a backslash stands for. -/
def simpleEscapes : List (Char × List Nat) :=
  [('\n', []), ('\\', [92]), ('\'', [39]), ('"', [34]), ('b', [8]), ('f', [12]), ('t', [9]),
   ('n', [10]), ('r', [13]), ('v', [11]), ('a', [7])]

/-- The letters that introduce the number of a character, with the count of its digits. -/
def numericEscapes (all : Bool) : List (Char × Nat × String) :=
  let byNumber := [('u', 4, "truncated \\uXXXX escape"), ('U', 8, "truncated \\UXXXXXXXX escape")]
  if all then ('x', 2, "truncated \\xXX escape") :: byNumber else byNumber

/-- What an escape sequence stands for, and how many bytes it takes up behind the backslash.  A
backslash that begins no sequence stands for itself. -/
def escape (all : Bool) (position : Nat) (bytes : List UInt8) : Except Fault (List Nat × Nat) :=
  let encoding := if all then "unicodeescape" else "rawunicodeescape"
  let fault := fun (reason : String) (count : Nat) =>
    Fault.malformed encoding reason 92 position count
  match bytes with
  | [] => if all then .error (fault "\\ at end of string" 1) else .ok ([92], 0)
  | b :: rest =>
    let c := Char.ofNat b.toNat
    match (numericEscapes all).lookup c with
    | some (count, reason) =>
      match hexNumber? count rest with
      | .error present => .error (fault reason (2 + present))
      | .ok n =>
        if n < 0x110000 then .ok ([n], 1 + count)
        else .error (fault
          (if all then "illegal Unicode character" else "\\Uxxxxxxxx out of range") (2 + count))
    | none =>
      if !all then .ok ([92, b.toNat], 1)
      else
        match simpleEscapes.lookup c with
        | some numbers => .ok (numbers, 1)
        | none =>
          let (n, length) := octalNumber bytes
          if 0 < length then .ok ([n], length)
          else if c == 'N' then .error (fault "malformed \\N character escape" 2)
          else .ok ([92, b.toNat], 1)

/-- The text of bytes in Latin-1 with escape sequences.  Every step takes up a byte, so the number
of bytes bounds the steps. -/
def readEscaped (all : Bool) : (fuel position : Nat) → List UInt8 → Except Fault (List Nat)
  | 0, _, _ => .ok []
  | _ + 1, _, [] => .ok []
  | fuel + 1, position, b :: rest =>
    if b == 92 then do
      let (numbers, length) ← escape all position rest
      return numbers ++ (← readEscaped all fuel (position + 1 + length) (rest.drop length))
    else do return b.toNat :: (← readEscaped all fuel (position + 1) rest)

/-! ### Insertions -/

/-- The numbers of an insertion are written in digits of a base that changes from place to place.
`bias` tells how the bases change. -/
def placeBase (place bias : Nat) : Nat :=
  min 26 (max 1 (36 * (place + 1) - bias))

/-- Divide by 35 until a number is small, and count the divisions. -/
def reduceDelta : (fuel divisions delta : Nat) → Nat × Nat
  | 0, divisions, delta => (divisions, delta)
  | fuel + 1, divisions, delta =>
    if delta > 455 then reduceDelta fuel (divisions + 36) (delta / 35) else (divisions, delta)

/-- The bias after an insertion into a text of the given new length. -/
def nextBias (delta : Nat) (isFirst : Bool) (length : Nat) : Nat :=
  let delta := if isFirst then delta / 700 else delta / 2
  let delta := delta + delta / length
  let (divisions, delta) := reduceDelta delta 0 delta
  divisions + 36 * delta / (delta + 38)

/-- Read the number in front, and return what follows it. -/
def insertionNumber (bias : Nat) :
    (place weight sum : Nat) → List Char → Except Fault (Nat × List Char)
  | _, _, _, [] => .error (.refused "incomplete punicode string")
  | place, weight, sum, c :: rest =>
    let digit? :=
      if c.isUpper then some (c.toNat - 65) else if c.isDigit then some (c.toNat - 22) else none
    match digit? with
    | none => .error (.refused ("Invalid extended code point '" ++ String.singleton c ++ "'"))
    | some digit =>
      let base := placeBase place bias
      let sum := sum + digit * weight
      if digit < base then .ok (sum, rest)
      else insertionNumber bias (place + 1) (weight * (36 - base)) sum rest

/-- Insert the characters that the numbers tell.  Every number takes up a character, so the length
of the numbers bounds the steps. -/
def insertAll : (fuel : Nat) → (isFirst : Bool) → (bias character next : Nat) → List Nat →
    List Char → Except Fault (List Nat)
  | 0, _, _, _, _, text, _ => .ok text
  | _ + 1, _, _, _, _, text, [] => .ok text
  | fuel + 1, isFirst, bias, character, next, text, numbers => do
    let (delta, rest) ← insertionNumber bias 0 1 0 numbers
    let places := text.length + 1
    let position := next + delta
    let character := character + position / places
    if 0x110000 ≤ character then
      throw (.refused ("Invalid character U+" ++ hexText 1 character))
    let position := position % places
    let text := text.take position ++ character :: text.drop position
    insertAll fuel false (nextBias delta isFirst text.length) character (position + 1) text rest

/-- The text of bytes in ASCII, from the given position on. -/
def readAscii (position : Nat) : List UInt8 → Except Fault (List Nat)
  | [] => .ok []
  | b :: rest =>
    if b < 128 then do return b.toNat :: (← readAscii (position + 1) rest)
    else .error (.malformed "ascii" "ordinal not in range(128)" b position 1)

/-- The text of bytes with insertions, which stand behind the last hyphen. -/
def readPunycode (bytes : List UInt8) : Except Fault (List Nat) := do
  let backward := bytes.reverse
  let numbers := (backward.takeWhile (· != 45)).reverse
  let text ← readAscii 0 ((backward.dropWhile (· != 45)).drop 1).reverse
  let numbers := (← readAscii 0 numbers).map fun n => (Char.ofNat n).toUpper
  insertAll numbers.length true 72 128 0 text numbers

end Flowchart.Encoding
