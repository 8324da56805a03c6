import Flowchart.Chart.Canvas
import Flowchart.Chart.Layout
import Flowchart.Command.Graph

/-!
# The chart of a program on a console

The command that prints the outline of a program and then draws it on a grid of characters.
-/

set_option autoImplicit false

namespace Flowchart.Command

/-- The height and width of the grid. -/
def canvasSize : Nat := 1000

/-- The chart with a cell for each node. -/
def laidOut (chart : Chart) : Except Chart.Fault Chart :=
  match (Chart.layOut Chart.depthLimit (.node 0) 0 0).run chart with
  | .ok _ chart => .ok chart
  | .error fault _ => .error fault

/-- The grid with all paths of a chart and the end of the program below them. -/
def painted (chart : Chart) : Except Chart.Fault Grid :=
  let painting : Chart.Painting Unit := do
    let last ← Chart.paint chart Chart.depthLimit (.node 0)
    Chart.paintRow last (some 0) Box.stop.caption
  match painting.run (Grid.zero canvasSize canvasSize) with
  | .ok _ grid => .ok grid
  | .error fault _ => .error fault

/-- The program of a file drawn on a console. -/
def consoleSession (file : String) : Session Unit := do
  let tree ← Session.get .source (Source.parse .file (fileText file))
  Session.printLine ("<" ++ tree.className ++ " object>")
  let outline ← Session.get .outline (Outline.outline {} tree)
  Session.printLine outline
  let draft ← Session.get .refusal (drawn .console tree)
  let chart ← Session.get .chart (laidOut draft.chart)
  let grid ← Session.get .chart (painted chart)
  Session.print grid.printed

/-- Draw the program of a file on a console. -/
def console (file : String) : Transcript :=
  (consoleSession file).transcript.1

end Flowchart.Command
