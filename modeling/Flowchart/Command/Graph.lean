import Flowchart.Chart.Draft.Console
import Flowchart.Chart.Draft.Graph
import Flowchart.Chart.Numbering
import Flowchart.Chart.Prune
import Flowchart.Command.Transcript

/-!
# The graph of a program

The command that draws a program file as a graph.
-/

set_option autoImplicit false

namespace Flowchart.Command

/-- A graph to be shown. -/
structure View where
  filename : String
  format : String
  engine : String
  dot : String

/-- The drawing of a tree. -/
def drawing : Medium → Tree → Stmt.Drawing Unit
  | .graph => Graph.draw
  | .console => Console.draw

/-- What a drawing has left behind, as a result of the session. -/
def drawn (medium : Medium) (tree : Tree) : Except Refusal Draft :=
  match (drawing medium tree).run Draft.empty with
  | .ok _ draft => .ok draft
  | .error refusal _ => .error refusal

/-- The chart without joints, pruned down to the given depth. -/
def pruned (depth : Nat) (chart : Chart) : Except Chart.Fault Chart :=
  match (Chart.prune depth (.node 0)).run chart with
  | .ok _ chart => .ok chart
  | .error fault _ => .error fault

/-- The settings at the beginning of every graph. -/
def graphSettings : List Dot.Statement :=
  [.setting "splines" "spline", .setting "overlap" "voronoi", .setting "concentrate" "false"]

/-- The description of a chart whose start gets the number one, down to the given depth. -/
def described (depth : Nat) (chart : Chart) : Except Chart.Fault (List Dot.Statement) :=
  let first := (chart[0]?.map (·.box)).getD .start
  let numbering : Chart.Plotting (Option Int) := do
    Chart.describeNode 1 first
    Chart.number depth 0
  match numbering.run ⟨chart.setIndex 0 1, graphSettings.toArray⟩ with
  | .ok _ plot => .ok plot.statements.toList
  | .error fault _ => .error fault

/-- The graph of a program. -/
def graphOf (tree : Tree) : Except Failure String := do
  let draft ← (drawn .graph tree).mapError .refusal
  let chart ← (pruned Chart.depthLimit draft.chart).mapError .chart
  let statements ← (described Chart.depthLimit chart).mapError .chart
  return Dot.digraph statements

/-- The file named by the first argument, drawn as a graph. -/
def graphSession (args : List String) (files : Files) : Session View := do
  match args with
  | [] =>
    Session.printLine "No filename passed in"
    throw (.exited 1)
  | path :: _ =>
    match files.read path with
    | .error (.missing path) =>
      Session.printLine ("Cannot find the file '" ++ path ++ "'")
      throw (.exited 1)
    | .error fault => Session.fail (.file fault)
    | .ok text =>
      match Source.parse .file (fileText text) with
      | .error .malformed =>
        Session.printLine "Invalid syntax in file:"
        throw (.exited 1)
      | .error fault => Session.fail (.source fault)
      | .ok tree =>
        let dot ← Session.get id (graphOf tree)
        return ⟨"flowchart", "png", "dot", dot⟩

/-- Draw the file named by the first argument. -/
def graph (args : List String) (files : Files) : Transcript × Option View :=
  (graphSession args files).transcript

end Flowchart.Command
