import Flowchart.Chart.Draft
import Flowchart.Program.Reading

/-!
# Drafts of console charts

A tree is drawn for a console node by node.  Every node knows the node from which it was drawn, and
a join knows both.  There are neither loops nor an explicit end: a loop is refused, as are all
statements that have no form in a chart.
-/

set_option autoImplicit false

namespace Flowchart.Console

open Stmt (Drawing Drawing.lift readBox assignBox updateBox performBox conditionBox
  targetOf isInput)

/-- Draw an assignment: a value that is read becomes an input. -/
def drawAssign (targets value : Tree) : Drawing Unit := do
  if ← Drawing.lift (isInput value) then
    let box ← Drawing.lift (readBox (targetOf targets))
    modify (·.append box)
  else
    let box ← Drawing.lift (assignBox (targetOf targets) (Expr.ofTree value))
    modify (·.append box)

/-- Draw an update of a target. -/
def drawUpdate (target op value : Tree) : Drawing Unit := do
  let box ← Drawing.lift (updateBox (nameOf target) (signOf op) (Expr.ofTree value))
  modify (·.append box)

/-- Draw an expression that stands alone, which has to be a call. -/
def drawEffect : Tree → Drawing Unit
  | .node .call [function, args, keywords] _ => do
    let box ← Drawing.lift
      (performBox (nameOf function) (Expr.ofItems args) (Expr.ofKeywords keywords))
    modify (·.append box)
  | value => throw (value.refuse .unknownEffect)

/-- Draw a condition and return the number of its node. -/
def drawTest (test : Tree) : Drawing NodeId := do
  let box ← Drawing.lift (conditionBox (Expr.ofTree test))
  modify (·.append box)
  Drawing.current

mutual

/-- Draw a tree.  The two sides of a condition meet in a join. -/
def draw : Tree → Drawing Unit
  | .node .program [body, _] _ => drawItems body
  | .node .assign [targets, value, _] _ => drawAssign targets value
  | .node .augAssign [target, op, value] _ => drawUpdate target op value
  | .node .exprStmt [value] _ => drawEffect value
  | .node .ifStmt [test, body, orelse] _ => do
    let condition ← drawTest test
    modify (·.openBranch condition .yes)
    drawItems body
    let bodyEnd ← Drawing.current
    modify (·.openBranch condition .no)
    drawItems orelse
    modify (·.joinWith bodyEnd)
  | .node .importFrom _ _ => return
  -- the value of a constant is looked at before its position
  | .node .constant (.absent owner field :: _) _ => throw (.noField owner field)
  | t => throw (t.refuse .unknownStatement)

/-- Draw the statements of a field. -/
def drawItems : Tree → Drawing Unit
  | .list items => drawAll items
  | t => Drawing.refuseFirst (refuseItems .unknownStatement .notList t)

/-- Draw several trees one after the other. -/
def drawAll : List Tree → Drawing Unit
  | [] => return
  | t :: rest => do
    draw t
    drawAll rest

end

end Flowchart.Console
