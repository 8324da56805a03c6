import Flowchart.Encoding.Wide

/-!
# UTF-7

Characters outside ASCII are written in sections between a plus and a minus sign, or any other
character that cannot be part of a section.  A section holds numbers of sixteen bits, six of them to
a character.  A plus sign by itself is an empty section.
-/

set_option autoImplicit false

namespace Flowchart.Encoding

/-- The six bits a character stands for in a section. -/
def sixBits? (b : UInt8) : Option Nat :=
  let c := Char.ofNat b.toNat
  if c.isUpper then some (b.toNat - 65)
  else if c.isLower then some (b.toNat - 71)
  else if c.isDigit then some (b.toNat + 4)
  else if c == '+' then some 62
  else if c == '/' then some 63
  else none

/-- How far a section has been read. -/
structure Section where
  /-- Where its plus sign stands. -/
  start : Nat
  /-- How many bits are left over, and their value. -/
  bits : Nat := 0
  value : Nat := 0
  /-- The first half of a character whose second half is missing. -/
  high : Option Nat := none
deriving Repr, DecidableEq

namespace Section

/-- A fault of a section that goes on up to the given position. -/
def fault (s : Section) (reason : String) (stop : Nat) : Fault :=
  .malformed "utf7" reason 43 s.start (stop - s.start)

/-- Take in six more bits.  Returns the numbers that are complete. -/
def feed (s : Section) (six : Nat) : List Nat × Section :=
  let bits := s.bits + 6
  let value := 64 * s.value + six
  if bits < 16 then ([], { s with bits, value })
  else
    let n := value / Nat.pow 2 (bits - 16)
    let s := { s with bits := bits - 16, value := value % Nat.pow 2 (bits - 16) }
    match s.high with
    | some high =>
      if isLowSurrogate n then ([joinSurrogates high n], { s with high := none })
      else if isHighSurrogate n then ([high], { s with high := some n })
      else ([high, n], { s with high := none })
    | none => if isHighSurrogate n then ([], { s with high := some n }) else ([n], s)

/-- End a section at the given byte. -/
def close (s : Section) (position : Nat) (b : UInt8) : Except Fault (List Nat) :=
  if 6 ≤ s.bits then .error (s.fault "partial character in base64" (position + 1))
  else if s.value ≠ 0 then .error (s.fault "non-zero padding bits in base64" (position + 1))
  else .ok (if b < 128 then s.high.toList else [])

end Section

/-- The text of bytes in UTF-7, from the given position on.  The state is the section in which the
position lies, if it does. -/
def readUtf7 (position : Nat) (state : Option Section) : List UInt8 → Except Fault (List Nat)
  | [] =>
    match state with
    | some s =>
      if s.high.isSome || 6 ≤ s.bits || s.value ≠ 0 then
        .error (s.fault "unterminated shift sequence" position)
      else .ok []
    | none => .ok []
  | b :: rest =>
    match state, state.bind fun _ => sixBits? b with
    | some s, some six => do
      let (numbers, s) := s.feed six
      return numbers ++ (← readUtf7 (position + 1) (some s) rest)
    | state, _ => do
      let closed ← match state with
        | some s => s.close position b
        | none => .ok []
      if b == 45 && state.isSome then return closed ++ (← readUtf7 (position + 1) none rest)
      else if b == 43 then
        match rest with
        | c :: more =>
          if c == 45 then return closed ++ 43 :: (← readUtf7 (position + 2) none more)
          else if (sixBits? c).isNone then
            .error (.malformed "utf7" "ill-formed sequence" b position 2)
          else return closed ++ (← readUtf7 (position + 1) (some { start := position }) (c :: more))
        | [] => return closed
      else if b < 128 then return closed ++ b.toNat :: (← readUtf7 (position + 1) none rest)
      else .error (.malformed "utf7" "unexpected special character" b position 1)

end Flowchart.Encoding
