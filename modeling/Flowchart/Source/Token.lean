import Flowchart.Tree.Constant

/-!
# Tokens

The words of a program with their places.  Besides names, signs and literals there are tokens for
the layout: the end of a logical line, a step of indentation in or out, and the end of the program.
-/

set_option autoImplicit false

namespace Flowchart.Source

/-- A position between characters: the line counts from one, the column from zero in bytes. -/
structure Spot where
  line : Nat
  column : Nat
deriving Repr, DecidableEq, Inhabited

/-- The position after a character. -/
def Spot.after (spot : Spot) (c : Char) : Spot :=
  if c == '\n' then ⟨spot.line + 1, 0⟩ else ⟨spot.line, spot.column + c.utf8Size⟩

/-- The position after some characters. -/
def Spot.afterAll (spot : Spot) (text : List Char) : Spot :=
  text.foldl Spot.after spot

/-- The kinds of tokens. -/
inductive Lexeme where
  | name (text : String)
  | keyword (text : String)
  | sign (text : String)
  | number (value : Number)
  /-- A text literal; `marked` tells whether it has the mark `u`. -/
  | text (marked : Bool) (value : List Text.CodePoint)
  | bytes (value : List UInt8)
  /-- The end of a logical line; `last` tells whether only spaces and comments follow it. -/
  | lineEnd (last : Bool)
  | indent
  | dedent
  | finish

/-- A token with its place. -/
structure Token where
  lexeme : Lexeme
  start : Spot
  stop : Spot

/-- The words that are not names. -/
def keywords : List String :=
  ["False", "None", "True", "and", "as", "assert", "async", "await", "break", "class", "continue",
   "def", "del", "elif", "else", "except", "finally", "for", "from", "global", "if", "import", "in",
   "is", "lambda", "nonlocal", "not", "or", "pass", "raise", "return", "try", "while", "with",
   "yield"]

/-- The signs of three, two and one characters, the longer ones first. -/
def signs : List String :=
  ["**=", "...", "//=", "<<=", ">>=",
   "!=", "%=", "&=", "**", "*=", "+=", "-=", "->", "//", "/=", ":=", "<<", "<=", "==", ">=", ">>",
   "@=", "^=", "|=",
   "%", "&", "(", ")", "*", "+", ",", "-", ".", "/", ":", ";", "<", "=", ">", "@", "[", "]", "^",
   "\x7b", "|", "\x7d", "~"]

end Flowchart.Source
