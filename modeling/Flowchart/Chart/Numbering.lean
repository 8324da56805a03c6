import Flowchart.Chart.Basic
import Flowchart.Dot

/-!
# Numbering a chart

Numbering walks over a chart, gives each node it comes to a number of its own, and describes the
node and every link in the DOT language.  A node that has a number already, other than zero, has
been met before: the link to it is described and the walk turns back.
-/

set_option autoImplicit false

namespace Flowchart.Chart

/-- A chart and the description of the part of it that has been numbered. -/
structure Plot where
  chart : Chart
  statements : Array Dot.Statement

/-- A pass that numbers a chart. -/
abbrev Plotting := EStateM Fault Plot

/-- The name of a node in the description. -/
def nodeName : Option Int → String
  | some n => "node" ++ intText n
  | none => "nodeNone"

/-- Whether a node has been met, which is to have a number other than zero. -/
def isNumbered : Option Int → Bool
  | some n => n ≠ 0
  | none => false

/-- The label of a side of a condition. -/
def Branch.label : Branch → String
  | .no => "No"
  | .yes => "Yes"

/-- The corner at which a side of a condition leaves its box. -/
def Branch.corner : Branch → String
  | .no => "s"
  | .yes => "e"

/-- Add a statement to the description. -/
def describe (statement : Dot.Statement) : Plotting Unit :=
  modify fun plot => { plot with statements := plot.statements.push statement }

/-- Describe a box under a number. -/
def describeNode (number : Int) (box : Box) : Plotting Unit :=
  match box.label with
  | .ok label => describe (.node (nodeName (some number)) label box.shape)
  | .error fault => throw (.box fault)

/-- Describe a link.  Links arrive at the top of a box. -/
def describeLink (tail head : Option Int) (side : Option Branch) : Plotting Unit :=
  describe (.edge (nodeName tail) (nodeName head) (side.map Branch.label) "n"
    ((side.map Branch.corner).getD "s"))

/-- Record the number of a node. -/
def assignNumber (v : NodeId) (number : Int) : Plotting Unit :=
  modify fun plot => { plot with chart := plot.chart.setIndex v number }

/-- The number after a given one. -/
def successor : Option Int → Plotting Int
  | some n => return n + 1
  | none => throw (.noNumber "+")

/-- Number one side of a condition, where `free` is the next free number.  Returns the free number
after that. -/
def numberSide (walk : NodeId → Plotting (Option Int)) (v : NodeId) (side : Branch) (free : Int) :
    Plotting Int := do
  let chart := (← get).chart
  let (w, child) ← require chart "index" (chart.slot v side)
  if isNumbered child.index then
    describeLink (chart.index v) child.index (some side)
    return free
  else
    describeNode free child.box
    describeLink (chart.index v) (some free) (some side)
    assignNumber w free
    successor (← walk w)

/-- Number what follows a node, down to the given depth.  The node itself has its number. -/
def number : (depth : Nat) → NodeId → Plotting (Option Int)
  | 0, _ => throw .endless
  | depth + 1, v => do
    let chart := (← get).chart
    let (_, node) ← require chart "child" (.node v)
    match chart.exit? v with
    | some (.branch _ _) =>
      let free ← successor node.index
      let free ← numberSide (number depth) v .no free
      let free ← numberSide (number depth) v .yes free
      return some free
    | some (.next .nowhere) | none => return node.index
    | some (.next following) =>
      let (w, child) ← require chart "index" following
      if isNumbered child.index then
        describeLink node.index child.index none
        return some (← successor node.index)
      else
        let free ← successor node.index
        describeNode free child.box
        assignNumber w free
        -- a node that leads to itself has just been given its number
        describeLink ((← get).chart.index v) (some free) none
        return some (← successor (← number depth w))

end Flowchart.Chart
