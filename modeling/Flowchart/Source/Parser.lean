import Flowchart.Source.Lexer
import Flowchart.Source.Statement

/-!
# From text to trees
-/

set_option autoImplicit false

namespace Flowchart.Source

/-- Why a text is not a program. -/
inductive Fault where
  /-- The text has no tree. -/
  | malformed
  /-- The text holds the character with the number zero. -/
  | zeroCharacter
  /-- There is no form of programs of the given name. -/
  | unknownMode (name : String)
  /-- The name of a form of programs holds the character with the number zero. -/
  | zeroInMode
deriving Repr, DecidableEq

/-- The wording of a fault. -/
def Fault.message : Fault → String
  | malformed => "invalid syntax"
  | zeroCharacter => "source code string cannot contain null bytes"
  | unknownMode _ => "compile() mode must be 'exec', 'eval', 'single' or 'func_type'"
  | zeroInMode => "embedded null character"

/-- Every line ends with a single line feed. -/
def unixLines : List Char → List Char
  | [] => []
  | '\r' :: '\n' :: rest => '\n' :: unixLines rest
  | '\r' :: rest => '\n' :: unixLines rest
  | c :: rest => c :: unixLines rest

/-- The lines of a program.  Those of a file always have an end: one is added unless the text ends
with a single line feed or a carriage return. -/
def programLines (mode : Mode) (text : List Char) : List Char :=
  let lines := unixLines text
  if mode = .file && (lines.getLast? ≠ some '\n' || ['\n', '\r'].isPrefixOf text.reverse) then
    lines ++ ['\n']
  else lines

/-- The tree of a program.  Rules of the grammar lead back to one another only across a token or
from a statement to its first expression, so twice the number of tokens is deep enough. -/
def parse (mode : Mode) (text : String) : Except Fault Tree :=
  let chars := text.toList
  if chars.contains '\x00' then .error .zeroCharacter
  else
    match tokens? (mode = .interactive) (programLines mode chars) with
    | none => .error .malformed
    | some tokens =>
      match (programOf (rule (2 * tokens.length + 10)) mode).run
        ⟨tokens, ⟨1, 0⟩, tokens.length⟩ with
      | some (tree, _) => .ok tree
      | none => .error .malformed

/-- The form of programs of a given name. -/
def Mode.ofName? (name : String) : Except Fault Mode :=
  if name.contains '\x00' then .error .zeroInMode
  else if name == "exec" then .ok .file
  else if name == "eval" then .ok .expression
  else if name == "single" then .ok .interactive
  else if name == "func_type" then .ok .signature
  else .error (.unknownMode name)

end Flowchart.Source
