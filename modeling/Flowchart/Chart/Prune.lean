import Flowchart.Chart.Basic

/-!
# Pruning joints

Pruning makes every link lead past joints to the first node that is none, or to the branches of the
first joint that branches.  A node is marked with the number zero once its links are done: before
the walk goes on from it, except where it branches, when it is marked after both sides.
-/

set_option autoImplicit false

namespace Flowchart.Chart

/-- A pass that changes a chart. -/
abbrev Pass := EStateM Fault Chart

/-- One side of a branching node.  A joint there is bypassed and the node looked at again; any other
node is walked to.  `walk` is the walk one level deeper. -/
def pruneSide (walk : Link → Pass Unit) (v : NodeId) (side : Branch) : Pass Unit := do
  let chart ← get
  let target := chart.slot v side
  match chart.beyond? target with
  | some further =>
    modify (·.setSlot v side further)
    walk (.node v)
  | none => walk target

/-- Prune everything that a link leads to, down to the given depth. -/
def prune : (depth : Nat) → Link → Pass Unit
  | 0, _ => throw .endless
  | depth + 1, target => do
    let (v, node) ← require (← get) "index" target
    if node.index = some 0 then return
    match (← get).exit? v with
    | some (.branch _ _) =>
      pruneSide (prune depth) v .no
      pruneSide (prune depth) v .yes
      modify (·.setIndex v 0)
    | some (.next .nowhere) | none => return
    | some (.next following) =>
      match (← get).beyond? following with
      | some further =>
        modify (·.setNext v further)
        prune depth (.node v)
      | none =>
        modify (·.setIndex v 0)
        prune depth following

end Flowchart.Chart
