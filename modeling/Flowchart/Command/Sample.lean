import Flowchart.Command.Transcript

/-!
# The sample program

The program that the drawings show as an example: it reads a number, computes with it and prints
floating point numbers.
-/

set_option autoImplicit false

namespace Flowchart.Command

/-- The first line of a text without its line end. -/
def firstLine? (input : String) : Option String :=
  match input.toList with
  | [] => none
  | chars => some (String.ofList (chars.takeWhile (· != '\n')))

/-- The inverse of a whole number, correctly rounded. -/
def inverseOfInt (n : Int) : Except Failure Float :=
  if n = 0 then .error .divisionByZero
  else .ok (Decimal.nearest (n < 0) 1 n.natAbs)

/-- The inverse of a floating point number. -/
def inverseOfFloat (x : Float) : Except Failure Float :=
  if x == 0 then .error .floatDivisionByZero else .ok (1 / x)

/-- The cosine, which infinities do not have. -/
def cosine (x : Float) : Except Failure Float :=
  if x.isInf then .error .outsideDomain else .ok x.cos

/-- Count down from `b` to zero and print the distance from `n` each time.  The count begins at
three at most. -/
def countDown (n : Float) : (steps : Nat) → Float → Session Float
  | 0, b => return b
  | steps + 1, b =>
    if b > 0 then do
      Session.printLine (Decimal.floatText .plain (n - b))
      countDown n steps (b - 1)
    else return b

/-- The sample program on the given input.  With `given`, that number is used in the place of the
one that is read. -/
def sampleSession (input : String) (given : Option Float) : Session Unit := do
  Session.print "memes: "
  let some line := firstLine? input | Session.fail .noInput
  let inverse ←
    match given with
    | some x => Session.get id (inverseOfFloat x)
    | none =>
      let n ← Session.get (.number line) (readInt line)
      Session.get id (inverseOfInt n)
  let n := inverse * 3 - 2
  let b ←
    if (n > 5 && n < 10 && n != 7) || n == 12 then do
      let c ← Session.get id (cosine (n - 2))
      pure (2 * c + 1)
    else do
      let c ← Session.get id (cosine n)
      let b := 2 * c + 1
      if 1 < n / 2 && n / 2 < 4 then countDown n 4 b else pure b
  Session.printLine (Decimal.floatText .plain b)

/-- Run the sample program. -/
def sample (input : String) (given : Option Float) : Transcript :=
  (sampleSession input given).transcript.1

end Flowchart.Command
