import Flowchart.Chart.Draft
import Flowchart.Program.Reading

/-!
# Drafts of graphs

A tree is drawn for a graph node by node.  The nodes of a graph do not know where they were drawn
from.  A loop is drawn, and so is the end of a program; the statements that a loop has for the case
that its condition fails are not looked at.
-/

set_option autoImplicit false

namespace Flowchart.Graph

open Stmt (Drawing Drawing.lift readBox assignBox updateBox performBox conditionBox
  targetOf isInput)

/-- Draw a box after the current node and go on from it. -/
def append (draft : Draft) (box : Box) : Draft :=
  let v := draft.chart.size
  { chart := (draft.chart.add (Node.ofBox box)).setNext draft.current (.node v)
    current := v }

/-- Go on at the head of one side of a condition. -/
def openBranch (draft : Draft) (condition : NodeId) (side : Branch) : Draft :=
  let v := draft.chart.size
  { chart := (draft.chart.add (Node.ofBox .head)).setSlot condition side (.node v)
    current := v }

/-- Let the current path and another one meet, and go on from there. -/
def joinWith (draft : Draft) (other : NodeId) : Draft :=
  let v := draft.chart.size
  let chart := (draft.chart.add (Node.ofBox .join)).setNext other (.node v)
  { chart := chart.setNext draft.current (.node v)
    current := v }

/-- Draw an assignment: a value that is read becomes an input. -/
def drawAssign (targets value : Tree) : Drawing Unit := do
  if ← Drawing.lift (isInput value) then
    let box ← Drawing.lift (readBox (targetOf targets))
    modify (append · box)
  else
    let box ← Drawing.lift (assignBox (targetOf targets) (Expr.ofTree value))
    modify (append · box)

/-- Draw an update of a target. -/
def drawUpdate (target op value : Tree) : Drawing Unit := do
  let box ← Drawing.lift (updateBox (nameOf target) (signOf op) (Expr.ofTree value))
  modify (append · box)

/-- Draw an expression that stands alone, which has to be a call. -/
def drawEffect : Tree → Drawing Unit
  | .node .call [function, args, keywords] _ => do
    let box ← Drawing.lift
      (performBox (nameOf function) (Expr.ofItems args) (Expr.ofKeywords keywords))
    modify (append · box)
  | value => throw (value.refuse .unknownEffect)

/-- Draw a condition and return the number of its node. -/
def drawTest (test : Tree) : Drawing NodeId := do
  let box ← Drawing.lift (conditionBox (Expr.ofTree test))
  modify (append · box)
  Drawing.current

mutual

/-- Draw a tree.  The two sides of a condition meet in a join; a loop begins with a join, to which
its body leads back, and goes on where its condition fails. -/
def draw : Tree → Drawing Unit
  | .node .program [body, _] _ => do
    drawItems body
    modify (append · .stop)
  | .node .assign [targets, value, _] _ => drawAssign targets value
  | .node .augAssign [target, op, value] _ => drawUpdate target op value
  | .node .exprStmt [value] _ => drawEffect value
  | .node .ifStmt [test, body, orelse] _ => do
    let condition ← drawTest test
    modify (openBranch · condition .yes)
    drawItems body
    let bodyEnd ← Drawing.current
    modify (openBranch · condition .no)
    drawItems orelse
    modify (joinWith · bodyEnd)
  | .node .importFrom _ _ => return
  | .node .whileStmt [test, body, _] _ => do
    modify (append · .join)
    let top ← Drawing.current
    let condition ← drawTest test
    modify (openBranch · condition .yes)
    drawItems body
    modify (·.closeLoop top)
    modify (openBranch · condition .no)
  -- the value of a constant is looked at before its position
  | .node .constant (.absent owner field :: _) _ => throw (.noField owner field)
  | t => throw (t.refuse .unknownStatement)

/-- Draw the statements of a field. -/
def drawItems : Tree → Drawing Unit
  | .list items => drawAll items
  | t => Drawing.refuseFirst (refuseItems .unknownStatement .notList t)

/-- Draw several trees one after the other. -/
def drawAll : List Tree → Drawing Unit
  | [] => return
  | t :: rest => do
    draw t
    drawAll rest

end

end Flowchart.Graph
