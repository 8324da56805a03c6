import Flowchart.Chart.Basic

/-!
# Drawing on a console

A node is drawn as a block of three rows in the column of its cell: its caption, and an arrow of two
rows below.  Every path through the chart is drawn, the side for `yes` of a condition before the
side for `no`.
-/

set_option autoImplicit false

namespace Flowchart.Chart

/-- The number of columns of a block. -/
def blockWidth : Nat := 60

/-- The number of rows of a block. -/
def blockHeight : Nat := 3

/-- A pass that draws on a grid. -/
abbrev Painting := EStateM Fault Grid

/-- Write a text in the middle of a block, in the given row of the grid.  The row is looked at
before the column. -/
def paintRow (row : Int) (column : Option Int) (text : String) : Painting Unit := do
  let grid ← get
  match column with
  | none =>
    match grid.rowIndex row with
    | .error fault => throw (.grid fault)
    | .ok _ => throw (.noNumber "*")
  | some column =>
    let text := Grid.centred blockWidth text.toList
    match (Grid.write row (column * blockWidth) ((column + 1) * blockWidth) text).run grid with
    | .error fault grid =>
      set grid
      throw (.grid fault)
    | .ok _ grid => set grid

/-- Draw the block of a node and return the row after it. -/
def paintNode (node : Node) : Painting Int :=
  match node.row with
  | none => throw (.noNumber "*")
  | some row => do
    paintRow (row * blockHeight) node.column node.box.caption
    paintRow (row * blockHeight + 1) node.column "|"
    paintRow (row * blockHeight + 2) node.column "V"
    return (row + 1) * blockHeight

/-- Draw everything a link leads to, down to the given depth.  Returns the greatest of the rows
after the ends of all paths. -/
def paint (chart : Chart) : (depth : Nat) → Link → Painting Int
  | 0, _ => throw .endless
  | depth + 1, target => do
    let (v, node) ← require chart "row" target
    let after ← paintNode node
    match chart.exit? v with
    | some (.branch no yes) =>
      let yesEnd ← paint chart depth yes
      let noEnd ← paint chart depth no
      return max yesEnd noEnd
    | some (.next .nowhere) | none => return after
    | some (.next following) => paint chart depth following

end Flowchart.Chart
