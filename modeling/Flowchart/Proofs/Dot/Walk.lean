import Flowchart.Command.Graph
import Flowchart.Proofs.Chart.Walk

/-!
# `Flowchart.Proofs.Dot.Walk`: walking along a described graph

A graph is a list of statements, in any order.  `Dot.Walk` reads nothing else: from the name of a
node it goes to the name behind the only arrow of the node, or, where the node is a diamond, behind
the arrow that has the outcome for its label.  There is at most one such walk
(`Dot.Walk.labels_eq`).

`Chart.Plots` says that a graph describes some nodes of a chart, each under a name of its own, and
`Chart.Plots.walk` that then every walk along the chart is one along the graph.
-/

set_option autoImplicit false

namespace Flowchart

namespace Dot

/-! ### Reading a graph -/

/-- The label and the shape that a statement gives to the node of a name. -/
def Statement.box? (name : String) : Statement → Option (String × Option String)
  | node found label shape => if found = name then some (label, shape) else none
  | _ => none

/-- The label and the head of an arrow from the node of a name. -/
def Statement.arrow? (name : String) : Statement → Option (Option String × String)
  | edge tail head label _ _ => if tail = name then some (label, head) else none
  | _ => none

/-- All boxes of a name. -/
def boxes (graph : List Statement) (name : String) : List (String × Option String) :=
  graph.filterMap (Statement.box? name)

/-- All arrows from a name. -/
def arrows (graph : List Statement) (name : String) : List (Option String × String) :=
  graph.filterMap (Statement.arrow? name)

/-- The walk from the node of a name on, with the outcomes it takes at diamonds and the labels it
shows. -/
inductive Walk (graph : List Statement) :
    String → (outcomes : List Branch) → (labels : List String) → Prop
  | stop {name label : String} {shape : Option String} {outcomes : List Branch}
      (hbox : boxes graph name = [(label, shape)]) (hshape : shape ≠ some "diamond")
      (harrows : arrows graph name = []) : Walk graph name outcomes [label]
  | step {name label head : String} {shape side : Option String} {outcomes : List Branch}
      {labels : List String} (hbox : boxes graph name = [(label, shape)])
      (hshape : shape ≠ some "diamond") (harrows : arrows graph name = [(side, head)])
      (rest : Walk graph head outcomes labels) : Walk graph name outcomes (label :: labels)
  | pause {name label : String} (hbox : boxes graph name = [(label, some "diamond")]) :
      Walk graph name [] [label]
  | turn {name label head : String} {side : Branch} {outcomes : List Branch} {labels : List String}
      (hbox : boxes graph name = [(label, some "diamond")])
      (harrows : (arrows graph name).filter (fun arrow => arrow.1 = some (Chart.Branch.label side))
        = [(some (Chart.Branch.label side), head)])
      (rest : Walk graph head outcomes labels) :
      Walk graph name (side :: outcomes) (label :: labels)

/-- The outcomes determine the walk. -/
theorem Walk.labels_eq {graph : List Statement} {name : String} {outcomes : List Branch}
    {labels labels' : List String} (h : Walk graph name outcomes labels)
    (h' : Walk graph name outcomes labels') : labels' = labels := by
  -- The shape of the box and the number of arrows decide which rule applies.
  induction h generalizing labels' with
  | stop hbox hshape harrows =>
      cases h' with
      | stop hbox' => rw [hbox] at hbox'; cases hbox'; rfl
      | step hbox' hshape' harrows' => rw [harrows] at harrows'; exact nomatch harrows'
      | pause hbox' => rw [hbox] at hbox'; cases hbox'; exact absurd rfl hshape
      | turn hbox' => rw [hbox] at hbox'; cases hbox'; exact absurd rfl hshape
  | step hbox hshape harrows _ ih =>
      cases h' with
      | stop hbox' hshape' harrows' => rw [harrows] at harrows'; exact nomatch harrows'
      | step hbox' hshape' harrows' rest' =>
          rw [hbox] at hbox'
          rw [harrows] at harrows'
          cases hbox'
          cases harrows'
          rw [ih rest']
      | pause hbox' => rw [hbox] at hbox'; cases hbox'; exact absurd rfl hshape
      | turn hbox' => rw [hbox] at hbox'; cases hbox'; exact absurd rfl hshape
  | pause hbox =>
      cases h' with
      | stop hbox' hshape' => rw [hbox] at hbox'; cases hbox'; exact absurd rfl hshape'
      | step hbox' hshape' => rw [hbox] at hbox'; cases hbox'; exact absurd rfl hshape'
      | pause hbox' => rw [hbox] at hbox'; cases hbox'; rfl
  | turn hbox harrows _ ih =>
      cases h' with
      | stop hbox' hshape' => rw [hbox] at hbox'; cases hbox'; exact absurd rfl hshape'
      | step hbox' hshape' => rw [hbox] at hbox'; cases hbox'; exact absurd rfl hshape'
      | turn hbox' harrows' rest' =>
          rw [hbox] at hbox'
          rw [harrows] at harrows'
          cases hbox'
          cases harrows'
          rw [ih rest']

end Dot

/-- Diamonds are conditions. -/
theorem Box.shape_eq_diamond (box : Box) : box.shape = some "diamond" ↔ box.isCondition = true := by
  cases box <;> simp [shape, isCondition]

namespace Chart

/-! ### The graph of a chart -/

/-- The name of a node in the graph of its chart. -/
def name (chart : Chart) (v : NodeId) : String :=
  nodeName (chart.index v)

/-- The graph describes the given nodes of a chart and nothing else, each under a name of its own,
and they lead to no others.  Where such a node branches, it is a condition with two sides. -/
structure Plots (chart : Chart) (nodes : List NodeId) (graph : List Dot.Statement) : Prop where
  described : graph.Perm (Command.graphSettings ++ nodes.flatMap chart.statementsOf)
  distinct : nodes.Pairwise fun v w => chart.name v ≠ chart.name w
  node : ∀ v ∈ nodes, ∃ node arrows, chart[v]? = some node ∧ node.box.isJoint = false ∧
    node.exit.isBranch = node.box.isCondition ∧ node.exit.arrows = some arrows ∧
    ∀ arrow ∈ arrows, arrow.2 ∈ nodes

/-- The statements for a node that is there: its box, and its links. -/
theorem statementsOf_eq {chart : Chart} {v : NodeId} {node : Node} {arrows : List Arrow}
    (hnode : chart[v]? = some node) (harrows : node.exit.arrows = some arrows) :
    chart.statementsOf v = boxStatement (chart.index v) node.box :: chart.linksOf v arrows := by
  rw [statementsOf, hnode, index_eq hnode]
  simp only [arrowsOf_eq (arrows?_eq hnode harrows)]

/-- Of the statements for distinct nodes, only those for `v` say something under the name of `v`. -/
theorem flatMap_eq_of_distinct {chart : Chart} {α : Type} {f : NodeId → List α} {v : NodeId}
    {nodes : List NodeId} (hdistinct : nodes.Pairwise fun v w => chart.name v ≠ chart.name w)
    (hv : v ∈ nodes) (hother : ∀ u, chart.name u ≠ chart.name v → f u = []) :
    nodes.flatMap f = f v := by
  induction nodes with
  | nil => exact nomatch hv
  | cons u nodes ih =>
      rw [List.pairwise_cons] at hdistinct
      rw [List.flatMap_cons]
      rcases List.mem_cons.mp hv with rfl | hv
      · have hnone : nodes.flatMap f = [] :=
          List.flatMap_eq_nil_iff.mpr fun w hw => hother w (hdistinct.1 w hw).symm
        rw [hnone, List.append_nil]
      · rw [hother u (hdistinct.1 v hv), ih hdistinct.2 hv, List.nil_append]

/-- Links describe no boxes. -/
theorem boxes_linksOf (chart : Chart) (u : NodeId) (arrows : List Arrow) (name : String) :
    Dot.boxes (chart.linksOf u arrows) name = [] := by
  refine List.filterMap_eq_nil_iff.mpr fun statement hstatement => ?_
  obtain ⟨arrow, -, rfl⟩ := List.mem_map.mp hstatement
  rfl

/-- A link is an arrow from the name of the node where it begins. -/
theorem arrow?_linkStatement (name : String) (tail head : Option Int) (side : Option Branch) :
    (linkStatement tail head side).arrow? name
      = if nodeName tail = name then some (side.map Branch.label, nodeName head) else none :=
  rfl

/-- The links of a node leave from its name, each with its side for a label. -/
theorem arrows_linksOf (chart : Chart) (u : NodeId) (arrows : List Arrow) :
    Dot.arrows (chart.linksOf u arrows) (chart.name u)
      = arrows.map fun arrow => (arrow.1.map Branch.label, chart.name arrow.2) := by
  rw [Dot.arrows, linksOf, List.filterMap_map, ← List.filterMap_eq_map]
  refine List.filterMap_congr fun arrow _ => ?_
  exact (arrow?_linkStatement ..).trans (if_pos rfl)

/-- No link of a node leaves from another name. -/
theorem arrows_linksOf_of_ne (chart : Chart) {u : NodeId} (arrows : List Arrow) {name : String}
    (h : chart.name u ≠ name) : Dot.arrows (chart.linksOf u arrows) name = [] := by
  refine List.filterMap_eq_nil_iff.mpr fun statement hstatement => ?_
  obtain ⟨arrow, -, rfl⟩ := List.mem_map.mp hstatement
  exact (arrow?_linkStatement ..).trans (if_neg h)

/-- A node is described under its own name only. -/
theorem statementsOf_of_ne (chart : Chart) {u : NodeId} {name : String} (h : chart.name u ≠ name) :
    Dot.boxes (chart.statementsOf u) name = [] ∧ Dot.arrows (chart.statementsOf u) name = [] := by
  cases hnode : chart[u]? with
  | none => simp [statementsOf, hnode, Dot.boxes, Dot.arrows]
  | some node =>
      have hstatements : chart.statementsOf u
          = boxStatement (chart.index u) node.box :: chart.linksOf u (chart.arrowsOf u) := by
        rw [statementsOf, hnode, index_eq hnode]
      have hbox : (boxStatement (chart.index u) node.box).box? name = none := if_neg h
      rw [hstatements]
      constructor
      · rw [Dot.boxes, List.filterMap_cons_none hbox]
        exact boxes_linksOf chart u _ name
      · rw [Dot.arrows, List.filterMap_cons_none rfl]
        exact arrows_linksOf_of_ne chart _ h

namespace Plots

variable {chart : Chart} {nodes : List NodeId} {graph : List Dot.Statement}
  (h : chart.Plots nodes graph) {v : NodeId} (hv : v ∈ nodes)

include h hv

/-- What the graph says of a node is what the statements for that node say. -/
theorem filterMap_perm {α : Type} (f : Dot.Statement → Option α)
    (hsettings : Command.graphSettings.filterMap f = [])
    (hother : ∀ u, chart.name u ≠ chart.name v → (chart.statementsOf u).filterMap f = []) :
    (graph.filterMap f).Perm ((chart.statementsOf v).filterMap f) := by
  refine (h.described.filterMap f).trans ?_
  rw [List.filterMap_append, hsettings, List.nil_append, List.filterMap_flatMap,
    flatMap_eq_of_distinct h.distinct hv hother]

variable {node : Node} {arrows : List Arrow} (hnode : chart[v]? = some node)
  (harrows : node.exit.arrows = some arrows)

include hnode harrows

/-- In the graph a node has one box. -/
theorem boxes_eq : Dot.boxes graph (chart.name v) = [(node.box.text, node.box.shape)] := by
  have hperm := h.filterMap_perm hv (Dot.Statement.box? (chart.name v)) rfl
    fun u hu => (statementsOf_of_ne chart hu).1
  have hbox : (boxStatement (chart.index v) node.box).box? (chart.name v)
      = some (node.box.text, node.box.shape) := if_pos rfl
  have hlinks : (chart.linksOf v arrows).filterMap (Dot.Statement.box? (chart.name v)) = [] :=
    boxes_linksOf chart v arrows (chart.name v)
  rw [statementsOf_eq hnode harrows, List.filterMap_cons_some hbox, hlinks] at hperm
  exact hperm.eq_singleton

/-- The arrows of a node in the graph are its links. -/
theorem arrows_perm : (Dot.arrows graph (chart.name v)).Perm
    (arrows.map fun arrow => (arrow.1.map Branch.label, chart.name arrow.2)) := by
  have hperm := h.filterMap_perm hv (Dot.Statement.arrow? (chart.name v)) rfl
    fun u hu => (statementsOf_of_ne chart hu).2
  rw [statementsOf_eq hnode harrows, List.filterMap_cons_none rfl] at hperm
  rw [← arrows_linksOf]
  exact hperm

end Plots

/-- What is known of a node that is described. -/
theorem Plots.exists_arrows {chart : Chart} {nodes : List NodeId} {graph : List Dot.Statement}
    (h : chart.Plots nodes graph) {v : NodeId} {node : Node} (hv : v ∈ nodes)
    (hnode : chart[v]? = some node) :
    node.box.isJoint = false ∧ node.exit.isBranch = node.box.isCondition ∧
      ∃ arrows, node.exit.arrows = some arrows ∧ ∀ arrow ∈ arrows, arrow.2 ∈ nodes := by
  obtain ⟨found, arrows, hfound, hjoint, hbranch, harrows, hclosed⟩ := h.node v hv
  rw [hnode] at hfound
  cases hfound
  exact ⟨hjoint, hbranch, arrows, harrows, hclosed⟩

/-- A walk along the chart is one along its graph. -/
theorem Plots.walk {chart : Chart} {nodes : List NodeId} {graph : List Dot.Statement}
    (h : chart.Plots nodes graph) {target : Link} {outcomes : List Branch} {labels : List String}
    (hwalk : chart.Walk target outcomes labels) :
    ∀ v, target = .node v → v ∈ nodes → Dot.Walk graph (chart.name v) outcomes labels := by
  induction hwalk with
  | stop => exact fun v hv => nomatch hv
  | @pass v node target outcomes labels hnode hbox hexit rest ih =>
      -- There is no joint among the nodes of a graph.
      rintro _ ⟨⟩ hv
      have hjoint := (h.exists_arrows hv hnode).1
      rw [hbox] at hjoint
      exact nomatch hjoint
  | @step v node target outcomes labels hnode hbox hexit rest ih =>
      rintro _ ⟨⟩ hv
      obtain ⟨-, hbranch, arrows, harrows, hclosed⟩ := h.exists_arrows hv hnode
      have hboxes := h.boxes_eq hv hnode harrows
      have hperm := h.arrows_perm hv hnode harrows
      have hshape : node.box.shape ≠ some "diamond" := by
        rw [Ne, Box.shape_eq_diamond, ← hbranch, hexit]
        exact Bool.false_ne_true
      rw [hexit] at harrows
      cases target with
      | fork owner => exact nomatch harrows
      | nowhere =>
          cases harrows
          cases rest
          exact .stop hboxes hshape hperm.eq_nil
      | node w =>
          cases harrows
          exact .step hboxes hshape hperm.eq_singleton (ih w rfl (hclosed _ List.mem_cons_self))
  | @pause v node hnode hbranch =>
      rintro _ ⟨⟩ hv
      obtain ⟨-, hcond, arrows, harrows, -⟩ := h.exists_arrows hv hnode
      have hboxes := h.boxes_eq hv hnode harrows
      rw [(Box.shape_eq_diamond node.box).mpr (hcond.symm.trans hbranch)] at hboxes
      exact .pause hboxes
  | @turn v node side outcomes labels hnode hbranch rest ih =>
      rintro _ ⟨⟩ hv
      obtain ⟨-, hcond, arrows, harrows, hclosed⟩ := h.exists_arrows hv hnode
      have hboxes := h.boxes_eq hv hnode harrows
      have hperm := h.arrows_perm hv hnode harrows
      rw [(Box.shape_eq_diamond node.box).mpr (hcond.symm.trans hbranch)] at hboxes
      -- Of the two arrows one has the label of the outcome.
      obtain ⟨no, yes, hexit, rfl⟩ := Exit.exists_sides_of_arrows hbranch harrows
      rw [hexit] at ih
      have hside := hperm.filter fun arrow => arrow.1 = some (Branch.label side)
      cases side with
      | no => exact .turn hboxes hside.eq_singleton (ih no rfl (hclosed _ List.mem_cons_self))
      | yes =>
          exact .turn hboxes hside.eq_singleton
            (ih yes rfl (hclosed _ (List.mem_cons_of_mem _ List.mem_cons_self)))

end Chart

namespace Command

open Chart

/-! ### The graph that is described -/

/-- The plot in which the start has its number and its box. -/
def begun (chart : Chart) (first : Box) : Plot :=
  { chart := chart.setIndex 0 1
    statements := graphSettings.toArray.push (boxStatement (some 1) first) }

/-- The description is what numbering makes of the plot with the start. -/
theorem described_eq {depth : Nat} {chart : Chart} {start : Node} (hstart : chart[0]? = some start)
    (hlabel : start.box.label = .ok start.box.text) {number : Option Int} {plot : Plot}
    (hrun : (Chart.number depth 0).run (begun chart start.box) = .ok number plot) :
    described depth chart = .ok plot.statements.toList := by
  have hnumbering : (do describeNode 1 start.box; Chart.number depth 0 : Plotting (Option Int)).run
      ⟨chart.setIndex 0 1, graphSettings.toArray⟩ = .ok number plot := by
    rw [EStateM.run_bind, describeNode, hlabel]
    exact hrun
  simp only [described, hstart, Option.map_some, Option.getD_some]
  rw [hnumbering]

section Begun

variable {chart : Chart} {start : Node} (hstart : chart[0]? = some start)

include hstart

/-- The start has the number one. -/
theorem index_begun : (begun chart start.box).chart.index 0 = some 1 :=
  index_setIndex_self hstart 1

/-- The start counts as met, since it has a number. -/
theorem isNumbered_begun : isNumbered ((begun chart start.box).chart.index 0) = true := by
  rw [index_begun hstart]
  rfl

variable {arrows : List Arrow} {free : Int} {plot : Plot} {news : List NodeId}
  (htidy : chart.Tidy) (harrows : start.exit.arrows = some arrows)
  (h : Numbered (begun chart start.box) 0 arrows 2 free plot news)

include h

/-- The start keeps its number to the end. -/
theorem index_start : plot.chart.index 0 = some 1 := by
  rw [h.index_eq (isNumbered_begun hstart), index_begun hstart]

/-- The nodes that have been numbered have names of their own. -/
theorem distinct_of_numbered :
    (0 :: news).Pairwise fun v w => plot.chart.name v ≠ plot.chart.name w := by
  rw [List.pairwise_cons]
  constructor
  · intro v hv hname
    obtain ⟨-, number, hnumber, hlow, -⟩ := h.fresh v hv
    rw [name, name, index_start hstart h, hnumber] at hname
    have heq := nodeName_injective hname
    omega
  · refine (List.pairwise_map.mp h.nodup_index).imp_of_mem fun {v w} hv hw hne hname => hne ?_
    obtain ⟨-, i, hi, -⟩ := h.fresh v hv
    obtain ⟨-, j, hj, -⟩ := h.fresh w hw
    rw [name, name, hi, hj] at hname
    rw [hi, hj, nodeName_injective hname]

omit hstart in
/-- A node that has a number in the end is among those that were numbered. -/
theorem mem_of_numbered (hfresh : ∀ v, isNumbered (chart.index v) = false) {v : NodeId}
    (hv : isNumbered (plot.chart.index v) = true) : v ∈ 0 :: news := by
  by_cases hzero : (0 : NodeId) = v
  · rw [hzero]
    exact List.mem_cons_self
  by_cases hnew : v ∈ news
  · exact List.mem_cons_of_mem _ hnew
  have hkept := h.kept v hnew
  rw [show (begun chart start.box).chart.index v = chart.index v from
    index_setIndex_of_ne chart hzero 1] at hkept
  rw [hkept, hfresh v] at hv
  exact nomatch hv

include htidy harrows

/-- All nodes that have been numbered are reached from the start. -/
theorem reaches_of_numbered {v : NodeId} (hv : v ∈ 0 :: news) : chart.Reaches 0 v := by
  rcases List.mem_cons.mp hv with rfl | hv
  · exact Relation.ReflTransGen.refl
  · obtain ⟨arrow, harrow, hattains⟩ := h.reached v hv
    have hstep := mem_successors_of_arrow (arrows?_eq hstart harrows) harrow
    exact htidy.reaches_of_attains
      (Relation.ReflTransGen.head hstep ((renumbers_setIndex chart 0 1).attains_of hattains))

/-- Numbering from the start makes a graph of all the nodes it has numbered. -/
theorem plots_of_numbered (hfresh : ∀ v, isNumbered (chart.index v) = false)
    (hnode : ∀ v, chart.Reaches 0 v → ∃ node arrows, chart[v]? = some node ∧
      node.box.isJoint = false ∧ node.exit.isBranch = node.box.isCondition ∧
      node.exit.arrows = some arrows) :
    plot.chart.Plots (0 :: news) plot.statements.toList where
  described := by
    have hren := (renumbers_setIndex chart 0 1).trans h.renumbers
    have hstatements := h.statements
    have hzero : plot.chart.statementsOf 0
        = boxStatement (some 1) start.box :: plot.chart.linksOf 0 arrows := by
      rw [statementsOf_eq (hren.nodes 0 start hstart) harrows, index_start hstart h]
    rw [begun, Array.toList_push, List.append_assoc] at hstatements
    rw [List.flatMap_cons, hzero]
    exact hstatements
  distinct := distinct_of_numbered hstart h
  node := by
    intro v hv
    have hren := (renumbers_setIndex chart 0 1).trans h.renumbers
    obtain ⟨node, found, hfound, hjoint, hbranch, harrows'⟩ :=
      hnode v (reaches_of_numbered hstart htidy harrows h hv)
    have hnode' := hren.nodes v node hfound
    refine ⟨_, found, hnode', hjoint, hbranch, harrows', fun arrow harrow => ?_⟩
    refine mem_of_numbered h hfresh ?_
    -- The arrows of the start are those that were followed first; the others follow from them.
    rcases List.mem_cons.mp hv with rfl | hv
    · rw [hstart] at hfound
      cases hfound
      rw [harrows] at harrows'
      cases harrows'
      exact h.met arrow harrow
    · refine h.closed v hv arrow ?_
      rw [arrowsOf_eq (arrows?_eq hnode' harrows')]
      exact harrow

end Begun

/-- A chart can be described if all that is reached from its start can: every depth that is great
enough gives the same graph, in which the start is the first node. -/
theorem exists_described {chart : Chart} (htidy : chart.Tidy)
    (hfresh : ∀ v, isNumbered (chart.index v) = false)
    (hnode : ∀ v, chart.Reaches 0 v → ∃ node arrows, chart[v]? = some node ∧
      node.box.label = .ok node.box.text ∧ node.box.isJoint = false ∧
      node.exit.isBranch = node.box.isCondition ∧ node.exit.arrows = some arrows) :
    ∃ need graph chart' nodes, (∀ depth, need ≤ depth → described depth chart = .ok graph) ∧
      chart.Renumbers chart' ∧ chart'.Plots nodes graph ∧ 0 ∈ nodes ∧ chart'.name 0 = "node1" := by
  -- What is reached from the start is closed under arrows, and all of it can be described.
  have hdescribable : chart.Describable (chart.Reaches 0) := by
    refine ⟨fun v hv => ?_⟩
    obtain ⟨node, arrows, hfound, hlabel, -, -, harrows⟩ := hnode v hv
    exact ⟨node, arrows, hfound, hlabel, arrows?_eq hfound harrows, fun arrow harrow =>
      Relation.ReflTransGen.tail hv ⟨node, hfound, Exit.mem_links_of_arrow harrows harrow⟩⟩
  obtain ⟨start, arrows, hstart, hlabel, -, -, harrows⟩ := hnode 0 Relation.ReflTransGen.refl
  have hren := renumbers_setIndex chart 0 1
  obtain ⟨need, arrows', free, plot, harrows', hnumbers, hrun⟩ := hdescribable.run hren
    Relation.ReflTransGen.refl (index_begun hstart) (le_refl 1)
  rw [arrows?_eq hstart harrows] at harrows'
  cases harrows'
  obtain ⟨news, hnews⟩ := hnumbers.numbered (by omega) (isNumbered_begun hstart)
  refine ⟨need, plot.statements.toList, plot.chart, 0 :: news, fun depth hdepth => ?_,
    hren.trans hnews.renumbers, ?_, List.mem_cons_self, ?_⟩
  · exact described_eq hstart hlabel (hrun depth hdepth)
  · refine plots_of_numbered hstart htidy harrows hnews hfresh fun v hv => ?_
    obtain ⟨node, arrows, hfound, -, hrest⟩ := hnode v hv
    exact ⟨node, arrows, hfound, hrest⟩
  · rw [name, index_start hstart hnews]
    rfl

end Command

end Flowchart
