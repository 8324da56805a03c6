import Flowchart.Program.Expr

/-!
# Statements

The statements a flowchart can show.  Everything else is a `refused` statement, which carries the
reason and stops the drawing when it is reached.
-/

set_option autoImplicit false

namespace Flowchart

/-- The statements of the language of flowcharts. -/
inductive Stmt where
  /-- A target that takes its value from the input. -/
  | read (target : Except Refusal Piece)
  | assign (target : Except Refusal Piece) (value : Expr)
  /-- A target changed by an operation with a value. -/
  | update (target : Except Refusal Piece) (sign : Except Refusal Sign) (value : Expr)
  /-- A call made for its effect. -/
  | perform (function : Except Refusal Piece) (args keywords : List Expr)
  | ifElse (test : Expr) (body orelse : List Stmt)
  /-- A loop, with what a chart without loops says of it. -/
  | whileLoop (test : Expr) (body orelse : List Stmt) (refusal : Refusal)
  /-- A statement that has no part in the flow of the program. -/
  | skip
  /-- A whole program. -/
  | program (body : List Stmt)
  | refused (refusal : Refusal)

end Flowchart
