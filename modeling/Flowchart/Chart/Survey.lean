import Flowchart.Chart.Draft

/-!
# Surveys

A survey lists the nodes of a chart that are connected with given ones, breadth first.
-/

set_option autoImplicit false

namespace Flowchart.Chart

/-- The nodes that a node leads to, the one for `no` first. -/
def successors (chart : Chart) (v : NodeId) : List NodeId :=
  match chart.exit? v with
  | none => []
  | some (.next target) => target.node?.toList
  | some (.branch no yes) => no.node?.toList ++ yes.node?.toList

/-- The nodes from which a node was drawn. -/
def parents (chart : Chart) (v : NodeId) : List NodeId :=
  match chart[v]? with
  | none => []
  | some node => node.parent.toList ++ node.otherParent.toList

/-- The nodes a node refers to.  On a console these are also its parents. -/
def neighbours (medium : Medium) (chart : Chart) (v : NodeId) : List NodeId :=
  match medium with
  | .graph => chart.successors v
  | .console => chart.successors v ++ chart.parents v

/-- Add to a list what it does not hold yet. -/
def addNew (seen : List NodeId) (more : List NodeId) : List NodeId :=
  more.foldl (fun seen v => if seen.contains v then seen else seen ++ [v]) seen

/-- Look at the listed nodes from the given position on, for the given number of steps, and add
what they refer to. -/
def surveyFrom (medium : Medium) (chart : Chart) :
    (steps position : Nat) → List NodeId → List NodeId
  | 0, _, seen => seen
  | steps + 1, position, seen =>
    match seen[position]? with
    | none => seen
    | some v =>
      surveyFrom medium chart steps (position + 1) (addNew seen (neighbours medium chart v))

/-- All nodes connected with the given ones, which come first. -/
def survey (medium : Medium) (chart : Chart) (roots : List NodeId) : List NodeId :=
  surveyFrom medium chart (chart.size + roots.length) 0 (addNew [] roots)

end Flowchart.Chart
