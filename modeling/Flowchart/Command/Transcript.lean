import Flowchart.Chart.Basic
import Flowchart.Command.Encoding
import Flowchart.Command.Files
import Flowchart.Program.Refusal
import Flowchart.Source.Parser
import Flowchart.Tree.Outline

/-!
# Transcripts of commands

What a command has printed, and how it ended.
-/

set_option autoImplicit false

namespace Flowchart.Command

/-- Why a command failed. -/
inductive Failure where
  | source (fault : Source.Fault)
  | refusal (refusal : Refusal)
  | chart (fault : Chart.Fault)
  | outline (fault : Outline.Fault)
  | file (fault : FileFault)
  /-- The options of a command are wrong. -/
  | usage (message : String)
  /-- A quotation in the options of a command does not end. -/
  | openQuotation
  /-- Something of the given type stands in the place of the name of a form of programs. -/
  | modeType (typeName : String)
  /-- The bytes of a file are not a text. -/
  | undecodable (fault : Encoding.Fault)
  /-- There is no line of input. -/
  | noInput
  /-- A line of input is not read as a whole number. -/
  | number (line : String) (fault : NumeralFault)
  /-- A division of whole numbers by zero. -/
  | divisionByZero
  /-- A division of floating point numbers by zero. -/
  | floatDivisionByZero
  /-- A function has no value at its argument. -/
  | outsideDomain

/-- The greatest number of characters of a quoted line in a message. -/
def quotationLimit : Nat := 200

/-- The wording of a failure. -/
def Failure.message : Failure → String
  | source fault => fault.message
  | refusal r => r.message
  | chart fault => fault.message
  | outline fault => fault.message
  | file fault => fault.message
  | usage message => message
  | openQuotation => "No closing quotation"
  | modeType typeName => "compile() argument 'mode' must be str, not " ++ typeName
  | undecodable fault => fault.message
  | noInput => "EOF when reading a line"
  | number line .malformed =>
    let quoted := (Text.quoted (Text.codePoints line)).toList
    "invalid literal for int() with base 10: " ++ String.ofList (quoted.take quotationLimit)
  | number _ (.tooManyDigits count) =>
    digitLimitMessage (": value has " ++ intText count ++ " digits")
  | divisionByZero => "division by zero"
  | floatDivisionByZero => "float division by zero"
  | outsideDomain => "math domain error"

/-- How a command ended. -/
inductive Ending where
  | finished
  | exited (code : Nat)
  | failed (failure : Failure)

/-- What a command printed, and how it ended. -/
structure Transcript where
  stdout : String
  ending : Ending

/-- A command under way: it prints, and may end early. -/
abbrev Session := EStateM Ending String

namespace Session

/-- Print a text. -/
def print (text : String) : Session Unit :=
  modify (· ++ text)

/-- Print a line. -/
def printLine (line : String) : Session Unit :=
  print (line ++ "\n")

/-- End with a failure. -/
def fail {α : Type} (failure : Failure) : Session α :=
  throw (.failed failure)

/-- Go on with a result, or end with the failure made of its fault. -/
def get {ε α : Type} (failure : ε → Failure) : Except ε α → Session α
  | .ok a => return a
  | .error e => fail (failure e)

/-- A result together with what was printed up to the end. -/
def transcript {α : Type} (session : Session α) : Transcript × Option α :=
  match session.run "" with
  | .ok a out => (⟨out, .finished⟩, some a)
  | .error ending out => (⟨out, ending⟩, none)

end Session

end Flowchart.Command
