import Flowchart.Chart.Box
import Flowchart.Grid

/-!
# Charts

A chart is a store of nodes that refer to one another by number.  A node leads on to one node or
branches to two, and any of these links may still be open.  A link may also lead to the branches of
a node without the node itself; it then shares them, so that a change of them is seen at both nodes.
Besides its links a node keeps what the passes over the chart record at it: its number in a graph,
and its cell on a console.
-/

set_option autoImplicit false

namespace Flowchart

/-- The number of a node in its chart. -/
abbrev NodeId := Nat

/-- The two ways out of a condition. -/
inductive Branch where
  | no | yes
deriving Repr, DecidableEq

/-- What a link leads to. -/
inductive Link where
  /-- The link is open. -/
  | nowhere
  | node (v : NodeId)
  /-- The branches of a node, without the node. -/
  | fork (owner : NodeId)
deriving Repr, DecidableEq

/-- The node a link leads to, if it leads to one. -/
def Link.node? : Link → Option NodeId
  | node v => some v
  | _ => none

/-- Where a node leads. -/
inductive Exit where
  | next (target : Link)
  | branch (no yes : Link)
deriving Repr, DecidableEq

namespace Exit

/-- What a link leads to that takes over an exit of the given node: the same target, or the branches
of the node. -/
def behind (owner : NodeId) : Exit → Link
  | next target => target
  | branch _ _ => .fork owner

/-- The link on one side of a branch. -/
def slot : Exit → Branch → Link
  | branch no _, .no => no
  | branch _ yes, .yes => yes
  | next _, _ => .nowhere

/-- Another link on one side of a branch. -/
def setSlot : Exit → Branch → Link → Exit
  | branch _ yes, .no, target => branch target yes
  | branch no _, .yes, target => branch no target
  | next old, _, _ => next old

end Exit

/-- A node of a chart. -/
structure Node where
  box : Box
  exit : Exit
  /-- The node from which this one was drawn. -/
  parent : Option NodeId := none
  /-- For a join, the end of the other path. -/
  otherParent : Option NodeId := none
  /-- The number in a graph; zero marks a node whose links lead past all joints. -/
  index : Option Int := none
  row : Option Int := none
  column : Option Int := none
deriving Repr, DecidableEq

/-- A new node with open links: a condition branches, every other box leads on. -/
def Node.ofBox (box : Box) : Node :=
  { box
    exit := match box with
      | .condition _ => .branch .nowhere .nowhere
      | _ => .next .nowhere }

/-- A store of nodes. -/
abbrev Chart := Array Node

namespace Chart

/-- The chart with one more node, whose number is the former size. -/
def add (chart : Chart) (node : Node) : Chart :=
  chart.push node

/-- The node that holds the branches of a node: the one it shares them with, or else itself. -/
def owner (chart : Chart) (v : NodeId) : NodeId :=
  match chart[v]?.map Node.exit with
  | some (.next (.fork w)) => w
  | _ => v

/-- Where a node leads.  A node that shares the branches of another branches as that one does. -/
def exit? (chart : Chart) (v : NodeId) : Option Exit :=
  chart[chart.owner v]?.map Node.exit

/-- Let a node lead on to another. -/
def setNext (chart : Chart) (v : NodeId) (target : Link) : Chart :=
  chart.modify v fun node => { node with exit := .next target }

/-- Let one side of a branching node lead elsewhere. -/
def setSlot (chart : Chart) (v : NodeId) (side : Branch) (target : Link) : Chart :=
  chart.modify (chart.owner v) fun node => { node with exit := node.exit.setSlot side target }

/-- Record the number of a node. -/
def setIndex (chart : Chart) (v : NodeId) (index : Int) : Chart :=
  chart.modify v fun node => { node with index := some index }

/-- Record the cell of a node. -/
def setCell (chart : Chart) (v : NodeId) (row column : Int) : Chart :=
  chart.modify v fun node => { node with row := some row, column := some column }

/-- Adding a node makes the chart one node larger. -/
@[simp] theorem size_add (chart : Chart) (node : Node) :
    (chart.add node).size = chart.size + 1 := by
  simp [add]

/-- Turning the link of a node adds no node. -/
@[simp] theorem size_setNext (chart : Chart) (v : NodeId) (target : Link) :
    (chart.setNext v target).size = chart.size := by
  simp [setNext]

/-- Turning one side of a condition adds no node. -/
@[simp] theorem size_setSlot (chart : Chart) (v : NodeId) (side : Branch) (target : Link) :
    (chart.setSlot v side target).size = chart.size := by
  simp [setSlot]

/-- Numbering a node adds no node. -/
@[simp] theorem size_setIndex (chart : Chart) (v : NodeId) (index : Int) :
    (chart.setIndex v index).size = chart.size := by
  simp [setIndex]

/-- The link on one side of a branching node. -/
def slot (chart : Chart) (v : NodeId) (side : Branch) : Link :=
  match chart.exit? v with
  | some exit => exit.slot side
  | none => .nowhere

/-- The number recorded at a node. -/
def index (chart : Chart) (v : NodeId) : Option Int :=
  chart[v]?.bind (·.index)

/-- What stands behind a joint; `none` for a link that does not lead to a joint. -/
def beyond? (chart : Chart) (target : Link) : Option Link := do
  let v ← target.node?
  let node ← chart[v]?
  if node.box.isJoint then some (node.exit.behind v) else none

/-- Why a pass over a chart stops early. -/
inductive Fault where
  /-- A link is open where a node is needed; the pass was about to look at the named entry. -/
  | noNode (entry : String)
  /-- A link leads to branches where a node is needed. -/
  | noOwner (entry : String)
  /-- A node has no number where the named operation needs one. -/
  | noNumber (operation : String)
  /-- The pass is deeper than any finite one. -/
  | endless
  /-- A box has no text in a graph. -/
  | box (fault : Box.Fault)
  | grid (fault : Grid.Fault)
deriving Repr, DecidableEq

/-- The wording of a fault. -/
def Fault.message : Fault → String
  | noNode entry => "'NoneType' object has no attribute '" ++ entry ++ "'"
  | noOwner entry => "'dict' object has no attribute '" ++ entry ++ "'"
  | noNumber operation =>
    "unsupported operand type(s) for " ++ operation ++ ": 'NoneType' and 'int'"
  | endless => "maximum recursion depth exceeded"
  | box fault => fault.message
  | grid fault => fault.message

/-- The depth at which a pass counts as endless. -/
def depthLimit : Nat := 999

/-- The node behind a link, which the pass needs for the named entry. -/
def require {σ : Type} (chart : Chart) (entry : String) (target : Link) :
    EStateM Fault σ (NodeId × Node) :=
  match target with
  | .nowhere => throw (.noNode entry)
  | .fork _ => throw (.noOwner entry)
  | .node v =>
    match chart[v]? with
    | none => throw (.noNode entry)
    | some node => return (v, node)

end Chart

end Flowchart
