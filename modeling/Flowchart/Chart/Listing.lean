import Flowchart.Chart.Basic

/-!
# Listings

A listing names the nodes of a chart in the order of the walk, with a line under each side of a
condition and another under both.
-/

set_option autoImplicit false

namespace Flowchart.Chart

/-- The line of a node. -/
def listingLine (box : Box) : String :=
  "<gv." ++ box.typeName ++ " object>\n"

/-- The listing of everything a link leads to, down to the given depth. -/
def listing (chart : Chart) : (depth : Nat) → Link → Except Fault String
  | 0, _ => throw .endless
  | _ + 1, .nowhere => throw (.noNode "child")
  | _ + 1, .fork _ => throw (.noOwner "child")
  | depth + 1, .node v =>
    match chart[v]? with
    | none => throw (.noNode "child")
    | some node =>
      match chart.exit? v with
      | some (.branch no yes) => do
        let noPart ← listing chart depth no
        let yesPart ← listing chart depth yes
        return listingLine node.box ++ noPart ++ "-------\n" ++ yesPart ++ "-------\n" ++
          "-----------\n"
      | some (.next .nowhere) | none => return listingLine node.box
      | some (.next following) => return listingLine node.box ++ (← listing chart depth following)

end Flowchart.Chart
