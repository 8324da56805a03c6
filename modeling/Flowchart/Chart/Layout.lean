import Flowchart.Chart.Prune

/-!
# Layout on a console

Each node gets a cell, given by a row and a column.  A node stands below the one that leads to it.
The side of a condition for `no` goes on below it, the side for `yes` in the next column to the
right, beginning beside the condition.  A node keeps the first cell it is given.
-/

set_option autoImplicit false

namespace Flowchart.Chart

/-- Let a side of a condition lead past the joint at its head. -/
def skipHead (v : NodeId) (side : Branch) : Pass Unit := do
  let chart ← get
  match chart.slot v side with
  | .node w =>
    match chart[w]? with
    | some head => if head.box = .head then modify (·.setSlot v side (head.exit.behind w))
    | none => return
  | _ => return

/-- Give cells to everything a link leads to, down to the given depth. -/
def layOut : (depth : Nat) → Link → (row column : Int) → Pass Unit
  | 0, _, _, _ => throw .endless
  | depth + 1, target, row, column => do
    let (v, node) ← require (← get) "col" target
    if node.column.isSome then return
    modify (·.setCell v row column)
    match (← get).exit? v with
    | some (.branch _ _) =>
      skipHead v .no
      skipHead v .yes
      layOut depth ((← get).slot v .no) (row + 1) column
      layOut depth ((← get).slot v .yes) row (column + 1)
    | some (.next .nowhere) | none => return
    | some (.next following) => layOut depth following (row + 1) column

end Flowchart.Chart
