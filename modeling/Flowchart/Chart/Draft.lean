import Flowchart.Chart.Basic
import Flowchart.Program.Stmt

/-!
# Drafts: charts under construction

A draft is a chart together with the current node, after which the next box is drawn.  Statements
are drawn one after the other.  When a statement is refused, the draft stays as it was at that
moment.

The commands draw syntax trees, each in its own way (`Graph.draw`, `Console.draw`).  `Stmt.draw`
draws a statement apart from its tree, in either form; its nodes know where they were drawn from.
-/

set_option autoImplicit false

namespace Flowchart

/-- A chart under construction.  Node zero is its start. -/
structure Draft where
  chart : Chart
  current : NodeId
deriving Repr, DecidableEq

/-- The forms of a chart. -/
inductive Medium where
  /-- A graph has loops and an explicit end. -/
  | graph
  /-- A console has neither. -/
  | console
deriving Repr, DecidableEq

namespace Draft

/-- The draft that holds a start only. -/
def empty : Draft := ⟨#[Node.ofBox .start], 0⟩

/-- Draw a box after the current node and go on from it.  A start has no parent. -/
def append (draft : Draft) (box : Box) : Draft :=
  let v := draft.chart.size
  let parent := if box = .start then none else some draft.current
  { chart := (draft.chart.add { Node.ofBox box with parent }).setNext draft.current (.node v)
    current := v }

/-- Go on at the head of one side of a condition. -/
def openBranch (draft : Draft) (condition : NodeId) (side : Branch) : Draft :=
  let v := draft.chart.size
  let head := { Node.ofBox .head with parent := some condition }
  { chart := (draft.chart.add head).setSlot condition side (.node v)
    current := v }

/-- Let the current path and another one meet, and go on from there. -/
def joinWith (draft : Draft) (other : NodeId) : Draft :=
  let v := draft.chart.size
  let join := { Node.ofBox .join with parent := some draft.current, otherParent := some other }
  { chart := ((draft.chart.add join).setNext other (.node v)).setNext draft.current (.node v)
    current := v }

/-- Let the current node lead back to an earlier one. -/
def closeLoop (draft : Draft) (top : NodeId) : Draft :=
  { draft with chart := draft.chart.setNext draft.current (.node top) }

end Draft

namespace Stmt

/-- What the box of a condition says of a piece. -/
def wordingOf : Piece → Except Refusal Wording
  | .text s => return .text s
  | .value t => return .thing t.typeName (← t.shown)

/-- The box of a target that takes its value from the input. -/
def readBox (target : Except Refusal Piece) : Except Refusal Box := do
  let target ← target
  return .input (← target.shown)

/-- The box of an assignment: the value after the target. -/
def assignBox (target : Except Refusal Piece) (value : Expr) : Except Refusal Box := do
  let value ← value.piece
  let target ← target
  return .assignment (← target.shown) (← value.shown)

/-- The box of an update: the target and the operation on it. -/
def updateBox (target : Except Refusal Piece) (sign : Except Refusal Sign) (value : Expr) :
    Except Refusal Box := do
  let value ← value.piece
  let target ← target
  let sign ← sign
  let name ← target.shown
  return .assignment name (name ++ " " ++ sign.text ++ " " ++ (← value.shown))

/-- The functions that show their arguments. -/
def printers : List String := ["print", "pprint"]

/-- The box of a call made for its effect. -/
def performBox (function : Except Refusal Piece) (args keywords : List Expr) :
    Except Refusal Box := do
  if ← (← function).isAmong printers then
    return .output (← Piece.join ", " (← Expr.pieces args))
  else
    let call ← (Expr.call function args keywords).bare
    return .process (← call.shown)

/-- The box of a condition. -/
def conditionBox (test : Expr) : Except Refusal Box := do
  return .condition (← wordingOf (← test.piece))

/-- A change of a draft, which may be refused. -/
abbrev Drawing := EStateM Refusal Draft

/-- A result that may be a refusal, as a step of a drawing. -/
def Drawing.lift {α : Type} : Except Refusal α → Drawing α
  | .ok a => return a
  | .error refusal => throw refusal

/-- Refuse for the first of several reasons, if there is one. -/
def Drawing.refuseFirst : List Refusal → Drawing Unit
  | [] => return
  | refusal :: _ => throw refusal

/-- The node from which it goes on. -/
def Drawing.current : Drawing NodeId :=
  return (← get).current

/-- Draw a box and return the number of its node. -/
def Drawing.append (box : Box) : Drawing NodeId := do
  modify (·.append box)
  current

mutual

/-- Draw a statement.  The two sides of a condition meet in a join; a loop begins with a join, to
which its body leads back, and goes on where its condition fails. -/
def draw (medium : Medium) : Stmt → Drawing Unit
  | read target => do
    let box ← Drawing.lift (readBox target)
    modify (·.append box)
  | assign target value => do
    let box ← Drawing.lift (assignBox target value)
    modify (·.append box)
  | update target sign value => do
    let box ← Drawing.lift (updateBox target sign value)
    modify (·.append box)
  | perform function args keywords => do
    let box ← Drawing.lift (performBox function args keywords)
    modify (·.append box)
  | ifElse test body orelse => do
    let box ← Drawing.lift (conditionBox test)
    let condition ← Drawing.append box
    modify (·.openBranch condition .yes)
    drawAll medium body
    let bodyEnd ← Drawing.current
    modify (·.openBranch condition .no)
    drawAll medium orelse
    modify (·.joinWith bodyEnd)
  | whileLoop test body _ refusal =>
    match medium with
    | .console => throw refusal
    | .graph => do
      let top ← Drawing.append .join
      let box ← Drawing.lift (conditionBox test)
      let condition ← Drawing.append box
      modify (·.openBranch condition .yes)
      drawAll medium body
      modify (·.closeLoop top)
      modify (·.openBranch condition .no)
  | skip => return
  | program body => do
    drawAll medium body
    match medium with
    | .graph => modify (·.append .stop)
    | .console => return
  | refused refusal => throw refusal

/-- Draw statements one after the other. -/
def drawAll (medium : Medium) : List Stmt → Drawing Unit
  | [] => return
  | stmt :: rest => do
    draw medium stmt
    drawAll medium rest

end

end Stmt

end Flowchart
