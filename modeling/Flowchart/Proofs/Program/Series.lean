import Flowchart.Proofs.Draft.Parents
import Flowchart.Proofs.Draft.Trees

/-!
# `Flowchart.Proofs.Program.Series`: what a series of drawings leaves behind

A draft may be drawn on again and again, and each drawing may come to its end or be refused at any
depth.  `Command.afterAll` is the draft after a series of trees.  It is what the statements leave
behind for which the trees stand, for a graph without the parents (`afterAll_console`,
`afterAll_graph`).  So there are two results on whole series:

* `afterAll_open_at_current`: all nodes are reached from the start, the current node has an open
  link, and if nothing was refused, no other node has one.
* `afterAll_parents_match_links`: on a console, parents and links agree.
-/

set_option autoImplicit false

namespace Flowchart

/-- A chart is extended, with parents or without. -/
theorem Chart.Extends.bare {chart chart' : Chart} (h : chart.Extends chart') :
    chart.bare.Extends chart'.bare := by
  intro v node hnode
  obtain ⟨old, hold, rfl⟩ := exists_of_getElem?_bare hnode
  obtain ⟨exit, hexit, hfills⟩ := h v old hold
  exact ⟨exit, by rw [getElem?_bare, hexit, Option.map_some]; rfl, hfills⟩

/-- What is reached is the same without parents. -/
theorem Chart.reaches_bare {chart : Chart} {u v : NodeId} :
    chart.bare.Reaches u v ↔ chart.Reaches u v := by
  simp only [Reaches, leads_bare]

/-- What is left behind without parents is what was left behind. -/
theorem Draft.left_bareResult (result : EStateM.Result Refusal Draft Unit) :
    left (Stmt.bareResult result) = (left result).bare := by
  cases result <;> rfl

namespace Command

open Stmt (ofTree)

/-! ### Series of trees -/

/-- The draft that a drawing leaves behind, whether it comes to its end or is refused. -/
def after (medium : Medium) (draft : Draft) (tree : Tree) : Draft :=
  Draft.left ((drawing medium tree).run draft)

/-- The draft that a series of drawings leaves behind, the first of which finds a start only. -/
def afterAll (medium : Medium) (trees : List Tree) : Draft :=
  trees.foldl (after medium) Draft.empty

/-- No tree of a series is refused. -/
def AllDrawn (medium : Medium) (trees : List Tree) : Prop :=
  ∀ earlier tree later, trees = earlier ++ tree :: later →
    ∃ draft, (drawing medium tree).run (afterAll medium earlier) = .ok () draft

/-- A series of drawings for a console leaves behind what the statements do. -/
theorem afterAll_console (trees : List Tree) :
    afterAll .console trees = Draft.afterAll .console (trees.map ofTree) := by
  have hafter : after .console = fun draft t => draft.after .console (ofTree t) := by
    funext draft t
    rw [after, drawing, Console.draw_eq, Draft.after]
  rw [afterAll, hafter, Draft.afterAll, List.foldl_map]

/-- A series of drawings for a graph leaves behind what the statements do, without the parents. -/
theorem afterAll_graph (trees : List Tree) :
    afterAll .graph trees = (Draft.afterAll .graph (trees.map ofTree)).bare := by
  rw [afterAll, Draft.afterAll, List.foldl_map]
  -- The drafts go on in step from every draft on.
  suffices hstep : ∀ draft : Draft, trees.foldl (after .graph) draft.bare =
      (trees.foldl (fun draft t => draft.after .graph (ofTree t)) draft).bare by
    rw [← hstep, Draft.bare_empty]
  induction trees with
  | nil => exact fun draft => rfl
  | cons t rest ih =>
      intro draft
      have hafter : after .graph draft.bare t = (draft.after .graph (ofTree t)).bare := by
        rw [after, drawing, Graph.forgets_draw, Draft.left_bareResult, Draft.after]
      rw [List.foldl_cons, List.foldl_cons, hafter, ih]

/-- The statements of a series that is not refused are not refused. -/
theorem AllDrawn.statements {medium : Medium} {trees : List Tree} (h : AllDrawn medium trees) :
    Draft.AllDrawn medium (trees.map ofTree) := by
  intro earlier call later hcalls
  -- The place of a statement in the series is that of its tree.
  obtain ⟨before, _, rfl, rfl, hbehind⟩ := List.map_eq_append_iff.mp hcalls
  obtain ⟨tree, behind, rfl, rfl, rfl⟩ := List.map_eq_cons_iff.mp hbehind
  obtain ⟨draft, hrun⟩ := h before tree behind rfl
  cases medium with
  | console =>
      rw [afterAll_console, drawing, Console.draw_eq] at hrun
      exact ⟨draft, hrun⟩
  | graph =>
      rw [afterAll_graph, drawing, Graph.forgets_draw] at hrun
      cases hfull : ((ofTree tree).draw .graph).run (Draft.afterAll .graph (before.map ofTree)) with
      | ok _ full => exact ⟨full, rfl⟩
      | error refusal full =>
          rw [hfull] at hrun
          cases hrun

/-! ### Open links -/

/-- The draft after any series of trees, the last of which finds the draft `before`.  Each of them
may be drawn or refused at any depth.  The current node is reached from the start, is no condition
and has an open link; every node is reached from the start; and the last drawing has added nodes and
turned open links, and done nothing else.  If no tree was refused, the link of the current node is
the only open one. -/
theorem afterAll_open_at_current (medium : Medium) (trees : List Tree) (tree : Tree) :
    let before := afterAll medium trees
    let draft := afterAll medium (trees ++ [tree])
    (∃ node, draft.chart[draft.current]? = some node ∧ node.box.isCondition = false ∧
      node.exit = .next .nowhere) ∧
    draft.chart.Reaches 0 draft.current ∧
    (∀ v, v < draft.chart.size → draft.chart.Reaches 0 v) ∧
    before.chart.Extends draft.chart ∧
    (AllDrawn medium (trees ++ [tree]) → ∀ v node, draft.chart[v]? = some node →
      Link.nowhere ∈ node.exit.links → v = draft.current) := by
  obtain ⟨hcurrent, hreached, hall, hextends, hopen⟩ :=
    Draft.open_at_current_afterAll medium (trees.map ofTree) (ofTree tree)
  have hseries : trees.map ofTree ++ [ofTree tree] = (trees ++ [tree]).map ofTree := by
    rw [List.map_append, List.map_singleton]
  rw [hseries] at hcurrent hreached hall hextends hopen
  cases medium with
  | console =>
      simp only [afterAll_console]
      exact ⟨hcurrent, hreached, hall, hextends, fun hdrawn => hopen hdrawn.statements⟩
  | graph =>
      simp only [afterAll_graph]
      -- None of this is about parents, which a graph forgets.
      refine ⟨?_, Chart.reaches_bare.mpr hreached, fun v hv => ?_, hextends.bare, ?_⟩
      · exact (Chart.exists_bare_iff
          (P := fun box exit => box.isCondition = false ∧ exit = .next .nowhere)).mpr hcurrent
      · rw [Draft.bare, Chart.size_bare] at hv
        exact Chart.reaches_bare.mpr (hall v hv)
      · intro hdrawn v node hnode hlink
        obtain ⟨old, hold, rfl⟩ := Chart.exists_of_getElem?_bare hnode
        exact hopen hdrawn.statements v old hold hlink

/-! ### Parents -/

/-- The chart on a console after any series of trees, each of which may be drawn or refused at any
depth.  The start has no parent.  Every other node that is reached has a parent, which is reached
and has a link to it, and every join is also what the end of its other path leads on to.  Conversely
a link is open or leads to a node drawn from the one it belongs to: that one is the parent or, for a
join, the end of the other path. -/
theorem afterAll_parents_match_links (trees : List Tree) :
    let chart := (afterAll .console trees).chart
    (∃ node, chart[0]? = some node ∧ node.box = .start ∧ node.parent = none) ∧
    (∀ v, chart.Reaches 0 v → v ≠ 0 → ∃ node p, chart[v]? = some node ∧ node.parent = some p ∧
      chart.Reaches 0 p ∧ chart.Leads p (.node v)) ∧
    (∀ v node, chart[v]? = some node → node.box = .join →
      ∃ q, node.otherParent = some q ∧ chart.Reaches 0 q ∧ chart.Next q v) ∧
    (∀ p target, chart.Leads p target → target = .nowhere ∨
      ∃ v node, target = .node v ∧ chart[v]? = some node ∧
        (node.parent = some p ∨ node.box = .join ∧ node.otherParent = some p)) := by
  rw [afterAll_console]
  exact Draft.parents_match_links_afterAll (trees.map ofTree)

open Tree.Sample (choice read stranger) in
/-- The body of a condition is refused after an input, from which the next tree goes on with a
condition that ends in a join. -/
theorem afterAll_parents_match_links_refused :
    let trees : List Tree :=
      [choice "a" [read "x", stranger] [], choice "b" [] [read "y"]]
    let chart := (afterAll .console trees).chart
    (chart.Leads 1 .nowhere ∧ chart.Next 3 4 ∧ chart.Reaches 0 8) ∧
      (∃ node p, chart[8]? = some node ∧ node.parent = some p ∧ chart.Reaches 0 p ∧
        chart.Leads p (.node 8)) ∧
      ∃ node, chart[8]? = some node ∧ node.box = .join ∧
        ∃ q, node.otherParent = some q ∧ chart.Reaches 0 q ∧ chart.Next q 8 := by
  intro trees chart
  have hreached : chart.Reaches 0 8 := by
    have hsound := Draft.sound_afterAll .console (trees.map ofTree)
    rw [← afterAll_console] at hsound
    exact hsound.built.connected (by decide)
  -- The join is the last node, and has both of its parents.
  obtain ⟨-, hparent, hjoin, -⟩ := afterAll_parents_match_links trees
  refine ⟨⟨⟨_, rfl, by decide⟩, ⟨_, rfl, rfl⟩, hreached⟩, hparent 8 hreached (by decide), ?_⟩
  exact ⟨_, rfl, rfl, hjoin 8 _ rfl rfl⟩

end Command

end Flowchart
