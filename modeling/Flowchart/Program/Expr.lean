import Flowchart.Program.Piece

/-!
# Expressions and their text

The expressions a flowchart can show are names, numbers, text constants, calls of a named function,
and operations with one of ten signs.  Operations are written in parentheses.  Whatever lies outside
this language is kept as an `obstacle`, and the text of an expression fails with the first obstacle
met in the order of evaluation: the operands of an operation come before its sign, except in a
comparison, where each sign comes just before the operand it leads to; in a call the function comes
before the arguments.

A name stands for what it holds, which need not be a text.  Calls and operations on two operands
show whatever their parts are, while chains of operands and comparisons are put together from texts.
-/

set_option autoImplicit false

namespace Flowchart

/-- The operator signs a flowchart knows. -/
inductive Sign where
  | mult | add | sub | div | or | and | gt | lt | eq | notEq
deriving Repr, DecidableEq

/-- How a sign is written. -/
def Sign.text : Sign → String
  | mult => "*"
  | add => "+"
  | sub => "-"
  | div => "/"
  | or => "or"
  | and => "and"
  | gt => ">"
  | lt => "<"
  | eq => "="
  | notEq => "!="

/-- The expressions of the language of flowcharts. -/
inductive Expr where
  | name (id : Piece)
  | number (value : Number)
  | string (text : List Text.CodePoint)
  /-- The keyword arguments of a call belong to the program, though its text leaves them out. -/
  | call (function : Except Refusal Piece) (args keywords : List Expr)
  | binary (left : Expr) (sign : Except Refusal Sign) (right : Expr)
  | junction (sign : Except Refusal Sign) (operands : List Expr)
  | comparison (left : Expr) (signs : List (Except Refusal Sign)) (others : List Expr)
  | obstacle (refusal : Refusal)

namespace Expr

/-- Parentheses around the text of an operation, and nothing around what stands for any other
expression. -/
def wrap (e : Expr) (piece : Piece) : Except Refusal Piece :=
  match e with
  | binary .. | junction .. | comparison .. => do return .text ("(" ++ (← piece.appended) ++ ")")
  | _ => return piece

mutual

/-- What stands for an expression, without parentheses around it. -/
def bare : Expr → Except Refusal Piece
  | name id => return id
  | number n =>
    match n.text? with
    | some text => return .text text
    | none => throw .tooManyDigits
  | string s => return .text (Text.quoted s)
  | call function args _ => do
    let function ← function
    let args ← Piece.shownAll (← pieces args)
    return .text ((← function.shown) ++ "(" ++ ", ".intercalate args ++ ")")
  | binary left sign right => do
    let leftPiece ← left.wrap (← bare left)
    let rightPiece ← right.wrap (← bare right)
    let sign ← sign
    return .text ((← leftPiece.shown) ++ " " ++ sign.text ++ " " ++ (← rightPiece.shown))
  | junction sign operands => do
    let operands ← pieces operands
    let sign ← sign
    return .text (← Piece.join (" " ++ sign.text ++ " ") operands)
  | comparison left signs others => do
    let leftPiece ← left.wrap (← bare left)
    compared leftPiece signs others
  | obstacle refusal => throw refusal

/-- What stands for several expressions, each in its parentheses. -/
def pieces : List Expr → Except Refusal (List Piece)
  | [] => return []
  | e :: rest => do
    let first ← e.wrap (← bare e)
    let rest ← pieces rest
    return first :: rest

/-- A comparison whose beginning is given: each sign follows with the operand it leads to. -/
def compared (start : Piece) : List (Except Refusal Sign) → List Expr → Except Refusal Piece
  | [], _ => return start
  | sign :: _, [] => do
    let _ ← sign
    throw (.noElement .list)
  | sign :: signs, e :: others => do
    let sign ← sign
    let operand ← (← e.wrap (← bare e)).appended
    let start ← start.extend (" " ++ sign.text ++ " " ++ operand)
    compared start signs others

end

/-- What stands for an expression. -/
def piece (e : Expr) : Except Refusal Piece := do
  e.wrap (← e.bare)

end Expr

end Flowchart
