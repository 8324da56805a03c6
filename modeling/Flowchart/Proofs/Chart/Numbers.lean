import Flowchart.Chart.Numbering
import Flowchart.Chart.Survey
import Flowchart.Proofs.Chart.Edits
import Flowchart.Proofs.Text.Numeral
import Mathlib.Data.Finset.Card

/-!
# `Flowchart.Proofs.Chart.Numbers`: what numbering does to a chart

`number` is a walk with a limited depth that gives numbers to the nodes it meets and describes them.
A number other than zero is also the sign that a node has been met.

A node that branches has two links and every other node at most one, and what the walk does at a
link is the same for all of them.  So the theory is about the arrows of a node (`arrows?`), which
are its links with their sides, or those of the node whose branches it shares:

* `Numbers`: the walk along some arrows of a node, without the depth, one rule for each thing that
  can happen at an arrow.  `exists_numbers` says when there is such a walk, and `Numbers.run` with
  `run_number` that `number` takes it at every depth that is great enough (`Describable.run`).
* `Numbered`: what every such walk has done.  Nodes that had numbers keep them, the others get
  numbers in the order in which they are met, and there is one statement for each of them and one
  for each arrow.
* `nodeName_injective`: different numbers make different names.
-/

set_option autoImplicit false

namespace Flowchart

/-- The text of a box in a graph, which is empty for a box that has none. -/
def Box.text (box : Box) : String :=
  match box.label with
  | .ok text => text
  | .error _ => ""

/-- A link to a node, with the side of the condition it belongs to. -/
abbrev Arrow := Option Branch × NodeId

/-- The arrows of an exit, the one for `no` first.  They are not defined for a branch with an open
side. -/
def Exit.arrows : Exit → Option (List Arrow)
  | next .nowhere => some []
  | next (.node w) => some [(none, w)]
  | branch (.node no) (.node yes) => some [(some .no, no), (some .yes, yes)]
  | _ => none

/-- An arrow is a link of the exit. -/
theorem Exit.mem_links_of_arrow {exit : Exit} {arrows : List Arrow} (h : exit.arrows = some arrows)
    {arrow : Arrow} (harrow : arrow ∈ arrows) : Link.node arrow.2 ∈ exit.links := by
  cases exit with
  | next target =>
      cases target with
      | nowhere => cases h; exact nomatch harrow
      | node w => cases h; rw [List.mem_singleton.mp harrow]; exact List.mem_singleton_self _
      | fork owner => exact nomatch h
  | branch no yes =>
      cases no <;> cases yes <;> cases h
      rcases List.mem_cons.mp harrow with rfl | harrow
      · exact List.mem_cons_self
      · rw [List.mem_singleton.mp harrow]
        exact List.mem_cons_of_mem _ List.mem_cons_self

/-- A branching exit that has arrows has one for each side. -/
theorem Exit.exists_sides_of_arrows {exit : Exit} {arrows : List Arrow}
    (hbranch : exit.isBranch = true) (harrows : exit.arrows = some arrows) :
    ∃ no yes, exit = .branch (.node no) (.node yes) ∧
      arrows = [(some .no, no), (some .yes, yes)] := by
  cases exit with
  | next target => exact nomatch hbranch
  | branch no yes =>
      cases no <;> cases yes <;> cases harrows
      exact ⟨_, _, rfl, rfl⟩

/-- An exit whose links all lead to nodes has arrows. -/
theorem Exit.exists_arrows {exit : Exit} (h : ∀ target ∈ exit.links, ∃ w, target = .node w) :
    ∃ arrows, exit.arrows = some arrows := by
  cases exit with
  | next target =>
      obtain ⟨w, rfl⟩ := h target (List.mem_singleton_self _)
      exact ⟨_, rfl⟩
  | branch no yes =>
      obtain ⟨a, rfl⟩ := h no List.mem_cons_self
      obtain ⟨b, rfl⟩ := h yes (List.mem_cons_of_mem _ List.mem_cons_self)
      exact ⟨_, rfl⟩

namespace Chart

/-! ### Numbers of nodes -/

/-- The number of a node is the one recorded at it. -/
theorem index_eq {chart : Chart} {v : NodeId} {node : Node} (h : chart[v]? = some node) :
    chart.index v = node.index := by
  rw [index, h]
  rfl

/-- The number that was recorded at a node. -/
theorem index_setIndex_self {chart : Chart} {v : NodeId} {node : Node} (h : chart[v]? = some node)
    (number : Int) : (chart.setIndex v number).index v = some number := by
  rw [index, getElem?_setIndex, if_pos rfl, h]
  rfl

/-- The other nodes keep theirs. -/
theorem index_setIndex_of_ne (chart : Chart) {u v : NodeId} (h : u ≠ v) (number : Int) :
    (chart.setIndex u number).index v = chart.index v := by
  rw [index, getElem?_setIndex, if_neg h, index]

/-- A positive number says that a node has been met. -/
theorem isNumbered_some {number : Int} (h : 1 ≤ number) : isNumbered (some number) = true := by
  simp only [isNumbered, decide_eq_true_eq]
  omega

/-- A node with a positive number has been met. -/
theorem isNumbered_of_index {chart : Chart} {v : NodeId} {number : Int}
    (h : chart.index v = some number) (hnumber : 1 ≤ number) :
    isNumbered (chart.index v) = true := by
  rw [h]
  exact isNumbered_some hnumber

/-- The second chart differs from the first one in the numbers of its nodes at most. -/
structure Renumbers (chart chart' : Chart) : Prop where
  size : chart'.size = chart.size
  nodes : ∀ (v : NodeId) (node : Node), chart[v]? = some node →
    chart'[v]? = some { node with index := chart'.index v }

/-- A chart without any change. -/
theorem Renumbers.refl (chart : Chart) : chart.Renumbers chart where
  size := rfl
  nodes := fun v node hnode => by rw [hnode, index_eq hnode]

/-- Numbers may change again. -/
theorem Renumbers.trans {a b c : Chart} (hab : a.Renumbers b) (hbc : b.Renumbers c) :
    a.Renumbers c where
  size := hbc.size.trans hab.size
  nodes := by
    intro v node hnode
    have hnode' := hbc.nodes v _ (hab.nodes v node hnode)
    exact hnode'

/-- To record a number changes nothing else. -/
theorem renumbers_setIndex (chart : Chart) (u : NodeId) (number : Int) :
    chart.Renumbers (chart.setIndex u number) where
  size := size_setIndex ..
  nodes := by
    intro v node hnode
    by_cases huv : u = v
    · subst huv
      rw [index_setIndex_self hnode, getElem?_setIndex, if_pos rfl, hnode]
      rfl
    · rw [index_setIndex_of_ne chart huv, getElem?_setIndex, if_neg huv, hnode, index_eq hnode]

/-- Numbers have no part in where a node leads. -/
theorem Renumbers.exit?_eq {a b : Chart} (h : a.Renumbers b) (v : NodeId) :
    b.exit? v = a.exit? v := by
  have hexit : ∀ u : NodeId, b[u]?.map Node.exit = a[u]?.map Node.exit := by
    intro u
    cases hnode : a[u]? with
    | none => rw [getElem?_eq_none_of_size h.size hnode]
    | some node =>
        rw [h.nodes u node hnode]
        rfl
  have howner : b.owner v = a.owner v := by
    unfold owner
    rw [hexit]
  rw [exit?, exit?, howner, hexit]

/-! ### Arrows -/

/-- The arrows of a node, which are those of the node whose branches it shares, if it shares any. -/
def arrows? (chart : Chart) (v : NodeId) : Option (List Arrow) :=
  (chart.exit? v).bind Exit.arrows

/-- Some steps along the arrows.  Other than `Reaches`, they also go along branches that a node
shares. -/
def Attains (chart : Chart) : NodeId → NodeId → Prop :=
  Relation.ReflTransGen fun v w => w ∈ chart.successors v

/-- The successors of a node are the nodes that its exit leads to. -/
theorem mem_successors {chart : Chart} {v w : NodeId} :
    w ∈ chart.successors v ↔ ∃ exit, chart.exit? v = some exit ∧ Link.node w ∈ exit.links := by
  have hlink : ∀ target : Link, w ∈ target.node?.toList ↔ Link.node w = target := by
    intro target
    cases target <;> simp [Link.node?, eq_comm]
  cases hexit : chart.exit? v with
  | none => simp [successors, hexit]
  | some exit => cases exit <;> simp [successors, hexit, Exit.links, hlink]

/-- A node shares no branches if its own exit has arrows. -/
theorem arrows?_eq {chart : Chart} {v : NodeId} {node : Node} {arrows : List Arrow}
    (hnode : chart[v]? = some node) (harrows : node.exit.arrows = some arrows) :
    chart.arrows? v = some arrows := by
  have howner : chart.owner v = v := by
    unfold owner
    rw [hnode, Option.map_some]
    split
    · next hfork =>
        rw [Option.some.inj hfork] at harrows
        exact nomatch harrows
    · rfl
  rw [arrows?, exit?, howner, hnode]
  exact harrows

/-- The arrows of a node lead to its successors. -/
theorem successors_eq {chart : Chart} {v : NodeId} {arrows : List Arrow}
    (h : chart.arrows? v = some arrows) : chart.successors v = arrows.map (·.2) := by
  obtain ⟨exit, hexit, harrows⟩ := Option.bind_eq_some_iff.mp h
  rw [successors, hexit]
  cases exit with
  | next target => cases target <;> cases harrows <;> rfl
  | branch no yes => cases no <;> cases yes <;> cases harrows; rfl

/-- An arrow leads to a successor. -/
theorem mem_successors_of_arrow {chart : Chart} {v : NodeId} {arrows : List Arrow}
    (h : chart.arrows? v = some arrows) {arrow : Arrow} (harrow : arrow ∈ arrows) :
    arrow.2 ∈ chart.successors v := by
  rw [successors_eq h]
  exact List.mem_map_of_mem harrow

/-- In a tidy chart no branches are shared. -/
theorem Tidy.reaches_of_attains {chart : Chart} (h : chart.Tidy) {v w : NodeId}
    (hw : chart.Attains v w) : chart.Reaches v w := by
  refine Relation.ReflTransGen.mono (fun u x hstep => ?_) _ _ hw
  obtain ⟨exit, hexit, hmem⟩ := mem_successors.mp hstep
  rw [h.exit?_eq] at hexit
  obtain ⟨node, hnode, rfl⟩ := Option.map_eq_some_iff.mp hexit
  exact ⟨node, hnode, hmem⟩

/-- Numbers have no part in the arrows of a node. -/
theorem Renumbers.arrows?_eq {a b : Chart} (h : a.Renumbers b) (v : NodeId) :
    b.arrows? v = a.arrows? v := by
  rw [arrows?, arrows?, h.exit?_eq]

/-- Numbers have no part in the successors of a node. -/
theorem Renumbers.successors_eq {a b : Chart} (h : a.Renumbers b) (v : NodeId) :
    b.successors v = a.successors v := by
  rw [successors, successors, h.exit?_eq]

/-- What is attained with the new numbers is attained with the old ones. -/
theorem Renumbers.attains_of {a b : Chart} (h : a.Renumbers b) {v w : NodeId} (hw : b.Attains v w) :
    a.Attains v w :=
  Relation.ReflTransGen.mono (fun u _ hstep => h.successors_eq u ▸ hstep) _ _ hw

/-! ### Names -/

/-- Different numbers have different names. -/
theorem nodeName_injective {m n : Int} (h : nodeName (some m) = nodeName (some n)) : m = n := by
  have hlist := congrArg String.toList h
  simp only [nodeName, String.toList_append, List.append_cancel_left_eq] at hlist
  exact intText_injective (String.toList_inj.mp hlist)

/-! ### Numbering as a relation -/

/-- The statement for a link between two nodes with the given numbers. -/
def linkStatement (tail head : Option Int) (side : Option Branch) : Dot.Statement :=
  .edge (nodeName tail) (nodeName head) (side.map Branch.label) "n"
    ((side.map Branch.corner).getD "s")

/-- The statement for a box under a number. -/
def boxStatement (number : Option Int) (box : Box) : Dot.Statement :=
  .node (nodeName number) box.text box.shape

/-- The plot after a link to a node that has a number. -/
def Plot.turnBack (plot : Plot) (v : NodeId) (arrow : Arrow) : Plot :=
  { plot with
    statements := plot.statements.push
      (linkStatement (plot.chart.index v) (plot.chart.index arrow.2) arrow.1) }

/-- The plot after a link to a node that gets the number `free`. -/
def Plot.goAhead (plot : Plot) (v : NodeId) (arrow : Arrow) (box : Box) (free : Int) : Plot :=
  { chart := plot.chart.setIndex arrow.2 free
    statements := (plot.statements.push (boxStatement (some free) box)).push
      (linkStatement (plot.chart.index v) (some free) arrow.1) }

/-- The next free number behind a node, where `free` is what its arrows have left. -/
def freeBehind (arrows : List Arrow) (free : Int) : Int :=
  if arrows = [] then free else free + 1

/-- Numbering what the given arrows of a node lead to, with the numbers from `free` up to but not
including `free'`.  The rules are the ways in which the walk comes back, whatever its depth. -/
inductive Numbers : Plot → NodeId → List Arrow → (free free' : Int) → Plot → Prop
  | done {plot : Plot} {v : NodeId} {free : Int} : Numbers plot v [] free free plot
  | back {plot plot' : Plot} {v : NodeId} {arrow : Arrow} {rest : List Arrow} {free free' : Int}
      {child : Node} (hchild : plot.chart[arrow.2]? = some child)
      (hmet : isNumbered child.index = true)
      (more : Numbers (plot.turnBack v arrow) v rest free free' plot') :
      Numbers plot v (arrow :: rest) free free' plot'
  | ahead {plot plot₁ plot' : Plot} {v : NodeId} {arrow : Arrow} {rest arrows : List Arrow}
      {free free₁ free' : Int} {child : Node} (hchild : plot.chart[arrow.2]? = some child)
      (hnew : isNumbered child.index = false) (hlabel : child.box.label = .ok child.box.text)
      (harrows : plot.chart.arrows? arrow.2 = some arrows)
      (first : Numbers (plot.goAhead v arrow child.box free) arrow.2 arrows (free + 1) free₁ plot₁)
      (more : Numbers plot₁ v rest (freeBehind arrows free₁) free' plot') :
      Numbers plot v (arrow :: rest) free free' plot'

/-! ### What numbering achieves -/

/-- The arrows of a node of a chart. -/
def arrowsOf (chart : Chart) (v : NodeId) : List Arrow :=
  (chart.arrows? v).getD []

/-- The statements for some arrows of a node. -/
def linksOf (chart : Chart) (v : NodeId) (arrows : List Arrow) : List Dot.Statement :=
  arrows.map fun arrow => linkStatement (chart.index v) (chart.index arrow.2) arrow.1

/-- The statements for a node: one for its box and one for each of its arrows. -/
def statementsOf (chart : Chart) (v : NodeId) : List Dot.Statement :=
  match chart[v]? with
  | some node => boxStatement node.index node.box :: chart.linksOf v (chart.arrowsOf v)
  | none => []

/-- The arrows of a node that has some. -/
theorem arrowsOf_eq {chart : Chart} {v : NodeId} {arrows : List Arrow}
    (h : chart.arrows? v = some arrows) : chart.arrowsOf v = arrows := by
  rw [arrowsOf, h, Option.getD_some]

namespace Renumbers

variable {a b : Chart} (h : a.Renumbers b)

include h

/-- The arrows of a node, in a chart with other numbers. -/
theorem arrowsOf_eq (v : NodeId) : b.arrowsOf v = a.arrowsOf v := by
  rw [arrowsOf, arrowsOf, h.arrows?_eq]

omit h in
/-- The statements for arrows depend on the numbers at their two ends. -/
theorem linksOf_congr {v : NodeId} {arrows : List Arrow} (hv : b.index v = a.index v)
    (harrows : ∀ arrow ∈ arrows, b.index arrow.2 = a.index arrow.2) :
    b.linksOf v arrows = a.linksOf v arrows := by
  refine List.map_congr_left fun arrow harrow => ?_
  rw [hv, harrows arrow harrow]

/-- Those for a node depend on its own number and the numbers its arrows lead to. -/
theorem statementsOf_congr {v : NodeId} (hv : b.index v = a.index v)
    (harrows : ∀ arrow ∈ a.arrowsOf v, b.index arrow.2 = a.index arrow.2) :
    b.statementsOf v = a.statementsOf v := by
  unfold statementsOf
  cases hnode : a[v]? with
  | none =>
      rw [getElem?_eq_none_of_size h.size hnode]
  | some node =>
      rw [h.nodes v node hnode]
      simp only [h.arrowsOf_eq v, linksOf_congr hv harrows, hv, index_eq hnode]

end Renumbers

/-- What numbering does: the nodes `news` get the numbers from `free` up to but not including
`free'`, in the order in which they are met, and the rest of the chart is as before.  The arrows,
and those of the new nodes, lead to nodes with numbers.  One statement is made for each new node,
one for each of its arrows, and one for each of the given arrows. -/
structure Numbered (plot : Plot) (v : NodeId) (arrows : List Arrow) (free free' : Int)
    (plot' : Plot) (news : List NodeId) : Prop where
  le : free ≤ free'
  renumbers : plot.chart.Renumbers plot'.chart
  kept : ∀ u, u ∉ news → plot'.chart.index u = plot.chart.index u
  fresh : ∀ u ∈ news, isNumbered (plot.chart.index u) = false ∧
    ∃ number, plot'.chart.index u = some number ∧ free ≤ number ∧ number < free'
  sorted : news.Pairwise fun a b => ∀ i j, plot'.chart.index a = some i →
    plot'.chart.index b = some j → i < j
  reached : ∀ u ∈ news, ∃ arrow ∈ arrows, plot.chart.Attains arrow.2 u
  met : ∀ arrow ∈ arrows, isNumbered (plot'.chart.index arrow.2) = true
  closed : ∀ u ∈ news, ∀ arrow ∈ plot'.chart.arrowsOf u,
    isNumbered (plot'.chart.index arrow.2) = true
  statements : plot'.statements.toList.Perm (plot.statements.toList ++
    (plot'.chart.linksOf v arrows ++ news.flatMap plot'.chart.statementsOf))

namespace Numbered

variable {plot plot' : Plot} {v : NodeId} {arrows : List Arrow} {free free' : Int}
  {news : List NodeId} (h : Numbered plot v arrows free free' plot' news) {u : NodeId}

include h

/-- A node that had a number keeps it. -/
theorem index_eq (hmet : isNumbered (plot.chart.index u) = true) :
    plot'.chart.index u = plot.chart.index u := by
  refine h.kept u fun hu => ?_
  rw [(h.fresh u hu).1] at hmet
  exact nomatch hmet

/-- A node that has been met stays met. -/
theorem isNumbered_of (hmet : isNumbered (plot.chart.index u) = true) :
    isNumbered (plot'.chart.index u) = true := by
  rw [h.index_eq hmet]
  exact hmet

/-- No two of the new nodes have the same number. -/
theorem nodup_index : (news.map plot'.chart.index).Nodup := by
  refine List.pairwise_map.mpr (h.sorted.imp_of_mem fun {a b} ha hb hlt heq => ?_)
  obtain ⟨-, i, hi, -⟩ := h.fresh a ha
  have hless := hlt i i hi (heq ▸ hi)
  omega

/-- A node that has no number afterwards had none. -/
theorem not_isNumbered_of (hnew : isNumbered (plot'.chart.index u) = false) :
    isNumbered (plot.chart.index u) = false := by
  cases hmet : isNumbered (plot.chart.index u) with
  | false => rfl
  | true => rw [h.isNumbered_of hmet] at hnew; exact nomatch hnew

end Numbered

/-- Without arrows nothing is done. -/
theorem numbered_done (plot : Plot) (v : NodeId) (free : Int) :
    Numbered plot v [] free free plot [] where
  le := le_refl _
  renumbers := Renumbers.refl _
  kept := fun _ _ => rfl
  fresh := fun _ hu => nomatch hu
  sorted := List.Pairwise.nil
  reached := fun _ hu => nomatch hu
  met := fun _ harrow => nomatch harrow
  closed := fun _ hu => nomatch hu
  statements := by simp [linksOf]

/-- An arrow to a node with a number takes one statement, and no number. -/
theorem numbered_back {plot plot' : Plot} {v : NodeId} {arrow : Arrow} {rest : List Arrow}
    {free free' : Int} {news : List NodeId} (hv : isNumbered (plot.chart.index v) = true)
    (hmet : isNumbered (plot.chart.index arrow.2) = true)
    (h : Numbered (plot.turnBack v arrow) v rest free free' plot' news) :
    Numbered plot v (arrow :: rest) free free' plot' news where
  le := h.le
  renumbers := h.renumbers
  kept := h.kept
  fresh := h.fresh
  sorted := h.sorted
  reached := by
    intro u hu
    obtain ⟨a, ha, hreaches⟩ := h.reached u hu
    exact ⟨a, List.mem_cons_of_mem _ ha, hreaches⟩
  met := by
    intro a ha
    rcases List.mem_cons.mp ha with rfl | ha
    · exact h.isNumbered_of hmet
    · exact h.met a ha
  closed := h.closed
  statements := by
    refine h.statements.trans ?_
    have hlink : linkStatement (plot'.chart.index v) (plot'.chart.index arrow.2) arrow.1
        = linkStatement (plot.chart.index v) (plot.chart.index arrow.2) arrow.1 := by
      rw [h.index_eq (u := v) hv, h.index_eq (u := arrow.2) hmet]
      rfl
    simp only [Plot.turnBack, Array.toList_push, linksOf, List.map_cons, hlink, List.append_assoc,
      List.cons_append]
    rfl

/-- The numbers behind a node are not less than those of its arrows. -/
theorem le_freeBehind (arrows : List Arrow) (free : Int) : free ≤ freeBehind arrows free := by
  unfold freeBehind
  split <;> omega

/-- The node ahead gets the number that is free. -/
theorem index_goAhead_self {plot : Plot} {arrow : Arrow} {child : Node}
    (hchild : plot.chart[arrow.2]? = some child) (v : NodeId) (free : Int) :
    (plot.goAhead v arrow child.box free).chart.index arrow.2 = some free :=
  index_setIndex_self hchild free

/-- No other node gets a number then. -/
theorem index_goAhead_of_ne (plot : Plot) {arrow : Arrow} {u : NodeId} (hu : arrow.2 ≠ u)
    (v : NodeId) (box : Box) (free : Int) :
    (plot.goAhead v arrow box free).chart.index u = plot.chart.index u :=
  index_setIndex_of_ne plot.chart hu free

/-- A node that has been met has a number. -/
theorem isNumbered_goAhead {plot : Plot} {arrow : Arrow} {child : Node}
    (hchild : plot.chart[arrow.2]? = some child) (v : NodeId) {free : Int} (hfree : 1 ≤ free) :
    isNumbered ((plot.goAhead v arrow child.box free).chart.index arrow.2) = true :=
  isNumbered_of_index (index_goAhead_self hchild v free) hfree

section Ahead

variable {plot plot₁ plot' : Plot} {v : NodeId} {arrow : Arrow} {rest arrows : List Arrow}
  {free free₁ free' : Int} {child : Node} {news₁ news₂ : List NodeId}
  (hfree : 1 ≤ free) (hv : isNumbered (plot.chart.index v) = true)
  (hchild : plot.chart[arrow.2]? = some child) (hnew : isNumbered child.index = false)
  (harrows : plot.chart.arrows? arrow.2 = some arrows)
  (first : Numbered (plot.goAhead v arrow child.box free) arrow.2 arrows (free + 1)
    free₁ plot₁ news₁)
  (more : Numbered plot₁ v rest (freeBehind arrows free₁) free' plot' news₂)

include hfree hchild first in
/-- The node that was met keeps the number it got. -/
theorem index_ahead : plot₁.chart.index arrow.2 = some free := by
  have hself := index_goAhead_self hchild v free
  rw [← hself]
  exact first.index_eq (by rw [hself]; exact isNumbered_some hfree)

include hchild hnew first in
/-- A node that had a number before keeps it. -/
theorem index_ahead_of {u : NodeId} (hu : isNumbered (plot.chart.index u) = true) :
    plot₁.chart.index u = plot.chart.index u := by
  have hne : arrow.2 ≠ u := by
    intro heq
    rw [← heq, index_eq hchild, hnew] at hu
    exact nomatch hu
  have hkept := index_goAhead_of_ne plot hne v child.box free
  rw [← hkept]
  exact first.index_eq (by rw [hkept]; exact hu)

include hfree hv hchild hnew first in
/-- Behind a node that was met the walk goes on with the other arrows.  There is a free number, the
node at which the arrows begin has its number, and the chart has changed in nothing but numbers. -/
theorem resume_ahead : 1 ≤ freeBehind arrows free₁ ∧ isNumbered (plot₁.chart.index v) = true ∧
    plot.chart.Renumbers plot₁.chart := by
  have hle := first.le
  have hbehind := le_freeBehind arrows free₁
  refine ⟨by omega, ?_, (renumbers_setIndex plot.chart arrow.2 free).trans first.renumbers⟩
  rw [index_ahead_of hchild hnew first hv]
  exact hv

include hfree hchild first more in
/-- The walk along the other arrows leaves that number, too. -/
theorem index_ahead_last : plot'.chart.index arrow.2 = some free := by
  have hfirst := index_ahead hfree hchild first
  rw [← hfirst]
  exact more.index_eq (by rw [hfirst]; exact isNumbered_some hfree)

include hfree hchild hnew first more in
/-- The nodes that the walk ahead has numbered, with their numbers. -/
theorem fresh_ahead : ∀ u ∈ arrow.2 :: (news₁ ++ news₂), isNumbered (plot.chart.index u) = false ∧
    ∃ number, plot'.chart.index u = some number ∧ free ≤ number ∧ number < free' := by
  have hle := le_freeBehind arrows free₁
  have hle₁ := first.le
  have hle₂ := more.le
  have hself := index_goAhead_self hchild v free
  intro u hu
  -- The node that was met, a node of the first walk, or one of the second.
  rcases List.mem_cons.mp hu with rfl | hu
  · refine ⟨by rw [index_eq hchild]; exact hnew, free, index_ahead_last hfree hchild first more, ?_⟩
    omega
  rcases List.mem_append.mp hu with hu | hu
  · obtain ⟨hbefore, number, hnumber, hlow, hhigh⟩ := first.fresh u hu
    have hne : arrow.2 ≠ u := by
      rintro rfl
      rw [hself, isNumbered_some hfree] at hbefore
      exact nomatch hbefore
    have hmet : isNumbered (plot₁.chart.index u) = true := by
      rw [hnumber]
      exact isNumbered_some (by omega)
    rw [index_goAhead_of_ne plot hne] at hbefore
    exact ⟨hbefore, number, (more.index_eq hmet).trans hnumber, by omega, by omega⟩
  · obtain ⟨hbefore, number, hnumber, hlow, hhigh⟩ := more.fresh u hu
    refine ⟨?_, number, hnumber, by omega, hhigh⟩
    cases hold : isNumbered (plot.chart.index u) with
    | false => rfl
    | true =>
        rw [index_ahead_of hchild hnew first hold, hold] at hbefore
        exact nomatch hbefore

include first more in
/-- The nodes that the first walk has numbered keep their numbers. -/
theorem index_ahead_news {u : NodeId} (hfree : 1 ≤ free) (hu : u ∈ news₁) :
    ∃ number, plot₁.chart.index u = some number ∧ plot'.chart.index u = some number ∧
      free < number ∧ number < free₁ := by
  obtain ⟨-, number, hnumber, hlow, hhigh⟩ := first.fresh u hu
  have hmet : isNumbered (plot₁.chart.index u) = true := by
    rw [hnumber]
    exact isNumbered_some (by omega)
  exact ⟨number, hnumber, (more.index_eq hmet).trans hnumber, by omega, hhigh⟩

include hfree hchild first more in
/-- The numbers go up in the order of the walk: first the node that was met, then what follows it,
then what the other arrows lead to. -/
theorem sorted_ahead : (arrow.2 :: (news₁ ++ news₂)).Pairwise fun a b =>
    ∀ i j, plot'.chart.index a = some i → plot'.chart.index b = some j → i < j := by
  have hle := le_freeBehind arrows free₁
  have hle₁ := first.le
  have hlast := index_ahead_last hfree hchild first more
  rw [List.pairwise_cons, List.pairwise_append]
  refine ⟨?_, ?_, more.sorted, ?_⟩
  · intro u hu i j hi hj
    rw [hlast] at hi
    cases hi
    rcases List.mem_append.mp hu with hu | hu
    · obtain ⟨number, -, hnumber, hlow, -⟩ := index_ahead_news first more hfree hu
      rw [hnumber] at hj
      cases hj
      exact hlow
    · obtain ⟨-, number, hnumber, hlow, -⟩ := more.fresh u hu
      rw [hnumber] at hj
      cases hj
      omega
  -- Two nodes of the first walk were in order when it came back, and have kept their numbers.
  · refine first.sorted.imp_of_mem fun {a b} ha hb hlt i j hi hj => ?_
    obtain ⟨x, hx, hx', -⟩ := index_ahead_news first more hfree ha
    obtain ⟨y, hy, hy', -⟩ := index_ahead_news first more hfree hb
    rw [hx'] at hi
    rw [hy'] at hj
    cases hi
    cases hj
    exact hlt _ _ hx hy
  · intro a ha b hb i j hi hj
    obtain ⟨x, -, hx, -, hhigh⟩ := index_ahead_news first more hfree ha
    obtain ⟨-, y, hy, hlow, -⟩ := more.fresh b hb
    rw [hx] at hi
    rw [hy] at hj
    cases hi
    cases hj
    omega

include harrows first more in
/-- The arrows of the node that was met are those that the first walk has followed. -/
theorem arrowsOf_ahead :
    plot₁.chart.arrowsOf arrow.2 = arrows ∧ plot'.chart.arrowsOf arrow.2 = arrows := by
  have hstart : (plot.goAhead v arrow child.box free).chart.arrowsOf arrow.2 = arrows := by
    show (plot.chart.setIndex arrow.2 free).arrowsOf arrow.2 = arrows
    rw [(renumbers_setIndex plot.chart arrow.2 free).arrowsOf_eq, arrowsOf_eq harrows]
  have hfirst := (first.renumbers.arrowsOf_eq arrow.2).trans hstart
  exact ⟨hfirst, (more.renumbers.arrowsOf_eq arrow.2).trans hfirst⟩

include harrows first more in
/-- After both walks all arrows of new nodes lead to nodes with numbers. -/
theorem closed_ahead : ∀ u ∈ arrow.2 :: (news₁ ++ news₂), ∀ a ∈ plot'.chart.arrowsOf u,
    isNumbered (plot'.chart.index a.2) = true := by
  intro u hu a ha
  rcases List.mem_cons.mp hu with rfl | hu
  · rw [(arrowsOf_ahead harrows first more).2] at ha
    exact more.isNumbered_of (first.met a ha)
  rcases List.mem_append.mp hu with hu | hu
  · rw [more.renumbers.arrowsOf_eq] at ha
    exact more.isNumbered_of (first.closed u hu a ha)
  · exact more.closed u hu a ha

include harrows first more in
/-- Every new node is attained from the end of an arrow: from that of the first one if the first
walk has numbered it, and else from that of another. -/
theorem reached_ahead : ∀ u ∈ arrow.2 :: (news₁ ++ news₂),
    ∃ a ∈ arrow :: rest, plot.chart.Attains a.2 u := by
  have hentered := renumbers_setIndex plot.chart arrow.2 free
  intro u hu
  rcases List.mem_cons.mp hu with rfl | hu
  · exact ⟨arrow, List.mem_cons_self, Relation.ReflTransGen.refl⟩
  rcases List.mem_append.mp hu with hu | hu
  · obtain ⟨a, ha, hattains⟩ := first.reached u hu
    exact ⟨arrow, List.mem_cons_self,
      .head (mem_successors_of_arrow harrows ha) (hentered.attains_of hattains)⟩
  · obtain ⟨a, ha, hattains⟩ := more.reached u hu
    exact ⟨a, List.mem_cons_of_mem _ ha,
      hentered.attains_of (first.renumbers.attains_of hattains)⟩

include hfree hchild harrows first more in
/-- The statements for the node that was met are made when it is met and during the first walk. -/
theorem statementsOf_ahead : plot'.chart.statementsOf arrow.2
    = boxStatement (some free) child.box :: plot₁.chart.linksOf arrow.2 arrows := by
  have hfirst := index_ahead hfree hchild first
  have hlast := index_ahead_last hfree hchild first more
  have hstart := (renumbers_setIndex plot.chart arrow.2 free).nodes arrow.2 child hchild
  have hnode := more.renumbers.nodes _ _ (first.renumbers.nodes _ _ hstart)
  have hlinks : plot'.chart.linksOf arrow.2 arrows = plot₁.chart.linksOf arrow.2 arrows :=
    Renumbers.linksOf_congr (hlast.trans hfirst.symm) fun a ha => more.index_eq (first.met a ha)
  rw [statementsOf, hnode]
  simp only [(arrowsOf_ahead harrows first more).2, hlinks, hlast]

include first more in
/-- The second walk does not change what was said of the nodes of the first. -/
theorem statementsOf_ahead_news (hfree : 1 ≤ free) :
    news₁.flatMap plot'.chart.statementsOf = news₁.flatMap plot₁.chart.statementsOf := by
  refine List.flatMap_congr fun u hu => ?_
  obtain ⟨number, hnumber, hnumber', -⟩ := index_ahead_news first more hfree hu
  exact more.renumbers.statementsOf_congr (hnumber'.trans hnumber.symm)
    fun a ha => more.index_eq (first.closed u hu a ha)

include hfree hv hchild hnew harrows first more in
/-- An arrow to a node without a number: the node gets the one that is free, then come the nodes
that follow it, and then those of the other arrows. -/
theorem numbered_ahead :
    Numbered plot v (arrow :: rest) free free' plot' (arrow.2 :: (news₁ ++ news₂)) where
  le := by
    have hle := le_freeBehind arrows free₁
    have hle₁ := first.le
    have hle₂ := more.le
    omega
  renumbers := (renumbers_setIndex plot.chart arrow.2 free).trans
    (first.renumbers.trans more.renumbers)
  kept := by
    intro u hu
    rw [List.mem_cons, List.mem_append, not_or, not_or] at hu
    rw [more.kept u hu.2.2, first.kept u hu.2.1]
    exact index_goAhead_of_ne plot (Ne.symm hu.1) v child.box free
  fresh := fresh_ahead hfree hchild hnew first more
  sorted := sorted_ahead hfree hchild first more
  reached := reached_ahead harrows first more
  met := by
    intro a ha
    rcases List.mem_cons.mp ha with rfl | ha
    · rw [index_ahead_last hfree hchild first more]
      exact isNumbered_some hfree
    · exact more.met a ha
  closed := closed_ahead harrows first more
  statements := by
    have hlast := index_ahead_last hfree hchild first more
    have hv₁ := index_ahead_of hchild hnew first hv
    have hv' : plot'.chart.index v = plot.chart.index v :=
      (more.index_eq (by rw [hv₁]; exact hv)).trans hv₁
    have hfirst := first.statements
    have hmore := more.statements
    simp only [Plot.goAhead, Array.toList_push] at hfirst
    -- The same statements in another order: compare how often each of them is made.
    refine List.perm_iff_count.mpr fun statement => ?_
    have hcount₁ := hfirst.count_eq statement
    have hcount₂ := hmore.count_eq statement
    rw [List.flatMap_cons, List.flatMap_append, statementsOf_ahead hfree hchild harrows first more,
      statementsOf_ahead_news first more hfree, linksOf, List.map_cons, hv', hlast]
    rw [linksOf, hv'] at hcount₂
    simp only [List.count_append, List.count_cons, List.count_nil] at hcount₁ hcount₂ ⊢
    omega

end Ahead

/-- Every walk that comes back has numbered what it came upon. -/
theorem Numbers.numbered {plot plot' : Plot} {v : NodeId} {arrows : List Arrow} {free free' : Int}
    (h : Numbers plot v arrows free free' plot') (hfree : 1 ≤ free)
    (hv : isNumbered (plot.chart.index v) = true) :
    ∃ news, Numbered plot v arrows free free' plot' news := by
  induction h with
  | @done plot v free => exact ⟨[], numbered_done plot v free⟩
  | back hchild hmet _ ih =>
      obtain ⟨news, hnews⟩ := ih hfree hv
      exact ⟨news, numbered_back hv (by rw [index_eq hchild]; exact hmet) hnews⟩
  | @ahead plot plot₁ plot' v arrow rest arrows free free₁ free' child hchild hnew hlabel harrows
      _ _ ihFirst ihMore =>
      obtain ⟨news₁, hfirst⟩ := ihFirst (by omega) (isNumbered_goAhead hchild v hfree)
      obtain ⟨hfree₁, hv₁, -⟩ := resume_ahead hfree hv hchild hnew hfirst
      obtain ⟨news₂, hmore⟩ := ihMore hfree₁ hv₁
      exact ⟨_, numbered_ahead hfree hv hchild hnew harrows hfirst hmore⟩

/-! ### Numbering ends -/

/-- The nodes that have no number. -/
def unnumbered (chart : Chart) : Finset NodeId :=
  {v ∈ Finset.range chart.size | isNumbered (chart.index v) = false}

/-- A node is among those without a number if it is there and has none. -/
theorem mem_unnumbered {chart : Chart} {v : NodeId} :
    v ∈ chart.unnumbered ↔ v < chart.size ∧ isNumbered (chart.index v) = false := by
  simp [unnumbered]

/-- Numbering leaves no node without a number that had one. -/
theorem Numbered.unnumbered_subset {plot plot' : Plot} {v : NodeId} {arrows : List Arrow}
    {free free' : Int} {news : List NodeId} (h : Numbered plot v arrows free free' plot' news) :
    plot'.chart.unnumbered ⊆ plot.chart.unnumbered := by
  intro u hu
  rw [mem_unnumbered] at hu ⊢
  rw [h.renumbers.size] at hu
  exact ⟨hu.1, h.not_isNumbered_of hu.2⟩

/-- A node that is met leaves fewer nodes without a number. -/
theorem unnumbered_setIndex_ssubset {chart : Chart} {v : NodeId} {node : Node}
    (hnode : chart[v]? = some node) (hnew : isNumbered (chart.index v) = false) {number : Int}
    (hnumber : 1 ≤ number) : (chart.setIndex v number).unnumbered ⊂ chart.unnumbered := by
  have hself := index_setIndex_self hnode number
  have hsubset : (chart.setIndex v number).unnumbered ⊆ chart.unnumbered := by
    intro u hu
    rw [mem_unnumbered] at hu ⊢
    rw [size_setIndex] at hu
    refine ⟨hu.1, ?_⟩
    by_cases huv : v = u
    · rw [← huv]
      exact hnew
    · rw [← index_setIndex_of_ne chart huv number]
      exact hu.2
  refine (Finset.ssubset_iff_of_subset hsubset).mpr ⟨v, ?_, ?_⟩
  · exact mem_unnumbered.mpr ⟨lt_size hnode, hnew⟩
  · intro hv
    have hbad := (mem_unnumbered.mp hv).2
    rw [hself, isNumbered_some hnumber] at hbad
    exact nomatch hbad

/-- A node and everything it leads to can be described: the box has a text, and no side is open. -/
structure Describable (chart : Chart) (p : NodeId → Prop) : Prop where
  node : ∀ v, p v → ∃ node arrows, chart[v]? = some node ∧ node.box.label = .ok node.box.text ∧
    chart.arrows? v = some arrows ∧ ∀ arrow ∈ arrows, p arrow.2

/-- If everything that is met can be described, numbering ends.  The induction is on the nodes that
have no number, and for one of them on its arrows. -/
theorem exists_numbers {origin : Chart} {p : NodeId → Prop} (h : origin.Describable p)
    (rest : Finset NodeId) (v : NodeId) (arrows : List Arrow) (plot : Plot) (free : Int)
    (hshape : origin.Renumbers plot.chart) (hrest : plot.chart.unnumbered ⊆ rest) (hfree : 1 ≤ free)
    (hv : isNumbered (plot.chart.index v) = true) (harrows : ∀ arrow ∈ arrows, p arrow.2) :
    ∃ free' plot', Numbers plot v arrows free free' plot' := by
  induction rest using Finset.strongInduction generalizing v arrows plot free with
  | H rest ihRest =>
    induction arrows generalizing plot free with
    | nil => exact ⟨free, plot, .done⟩
    | cons arrow more ih =>
      obtain ⟨node, childArrows, hnode, hlabel, hchildArrows, hchildren⟩ :=
        h.node arrow.2 (harrows arrow List.mem_cons_self)
      have hmore : ∀ a ∈ more, p a.2 := fun a ha => harrows a (List.mem_cons_of_mem _ ha)
      have hchild := hshape.nodes arrow.2 node hnode
      cases hmet : isNumbered (plot.chart.index arrow.2) with
      -- Back to a node that has been met: one arrow less.
      | true =>
          obtain ⟨free', plot', hnumbers⟩ :=
            ih (plot.turnBack v arrow) free hshape hrest hfree hv hmore
          exact ⟨free', plot', .back hchild hmet hnumbers⟩
      -- Ahead to a new node: one node less without a number, for its arrows and for the others.
      | false =>
          have hold : plot.chart[arrow.2]? = some { node with index := plot.chart.index arrow.2 } :=
            hchild
          have hless := (unnumbered_setIndex_ssubset hold hmet hfree).trans_subset hrest
          have hself := isNumbered_goAhead hold v hfree
          obtain ⟨free₁, plot₁, hfirst⟩ := ihRest _ hless arrow.2 childArrows
            (plot.goAhead v arrow node.box free) (free + 1)
            (hshape.trans (renumbers_setIndex plot.chart arrow.2 free)) (Finset.Subset.refl _)
            (by omega) hself hchildren
          obtain ⟨news, hnews⟩ := hfirst.numbered (by omega) hself
          obtain ⟨hfree₁, hv₁, hren⟩ := resume_ahead hfree hv hold hmet hnews
          obtain ⟨free', plot', hrestNumbers⟩ := ih plot₁ (freeBehind childArrows free₁)
            (hshape.trans hren) (hnews.unnumbered_subset.trans hless.subset) hfree₁ hv₁ hmore
          rw [← hshape.arrows?_eq] at hchildArrows
          exact ⟨free', plot', .ahead hold hmet hlabel hchildArrows hfirst hrestNumbers⟩

/-! ### The walk down to a given depth -/

/-- Number what one arrow of a node leads to.  Returns the next free number. -/
def numberArrow (walk : NodeId → Plotting (Option Int)) (v : NodeId) (arrow : Arrow) (free : Int) :
    Plotting Int := do
  let chart := (← get).chart
  let (w, child) ← require chart "index" (.node arrow.2)
  if isNumbered child.index then
    describeLink (chart.index v) child.index arrow.1
    return free
  else
    describeNode free child.box
    describeLink (chart.index v) (some free) arrow.1
    assignNumber w free
    successor (← walk w)

/-- Number what some arrows of a node lead to, one after the other. -/
def numberArrows (walk : NodeId → Plotting (Option Int)) (v : NodeId) :
    List Arrow → Int → Plotting Int
  | [], free => return free
  | arrow :: rest, free => do
    let free ← numberArrow walk v arrow free
    numberArrows walk v rest free

section Runs

variable {walk : NodeId → Plotting (Option Int)} {plot : Plot} {v : NodeId} {arrow : Arrow}
  {child : Node} (hchild : plot.chart[arrow.2]? = some child) (free : Int)

include hchild

/-- At an arrow to a node with a number only the arrow is described. -/
theorem run_numberArrow_back (hmet : isNumbered child.index = true) :
    (numberArrow walk v arrow free).run plot = .ok free (plot.turnBack v arrow) := by
  simp only [numberArrow, EStateM.run_bind, EStateM.run_get, require, hchild, EStateM.run_pure,
    hmet, if_true, describeLink, describe, EStateM.run_modify, Plot.turnBack, index_eq hchild,
    linkStatement]

/-- At an arrow to a node without one, the node is described and numbered, and the walk goes on
behind it.  It fails if the box has no text, or where the walk fails. -/
theorem run_numberArrow_ahead (hnew : isNumbered child.index = false) :
    (numberArrow walk v arrow free).run plot
      = match child.box.label with
        | .error fault => .error (.box fault) plot
        | .ok _ =>
          match (walk arrow.2).run (plot.goAhead v arrow child.box free) with
          | .error fault plot' => .error fault plot'
          | .ok number plot' => (successor number).run plot' := by
  simp only [numberArrow, EStateM.run_bind, EStateM.run_get, require, hchild,
    EStateM.run_pure, hnew, Bool.false_eq_true, if_false, describeNode]
  cases hlabel : child.box.label with
  | error fault => rfl
  | ok label =>
      simp only [Plot.goAhead, boxStatement, linkStatement, Box.text, hlabel]
      cases hwalk : (walk arrow.2).run _ with
      | error fault plot' =>
          simp only [describe, describeLink, EStateM.run_modify, assignNumber, hwalk]
      | ok number plot' =>
          simp only [describe, describeLink, EStateM.run_modify, assignNumber, hwalk]

end Runs

/-- A side of a condition is an arrow that knows its side. -/
theorem numberSide_eq (walk : NodeId → Plotting (Option Int)) {plot : Plot} {v w : NodeId}
    {side : Branch} (hslot : plot.chart.slot v side = .node w) (free : Int) :
    (numberSide walk v side free).run plot = (numberArrow walk v (some side, w) free).run plot := by
  simp only [numberSide, numberArrow, EStateM.run_bind, EStateM.run_get, hslot]

/-- Where it does not fail, a pass changes nothing in a chart but numbers. -/
def Keeps {α : Type} (pass : Plotting α) : Prop :=
  ∀ plot a plot', pass.run plot = .ok a plot' → plot.chart.Renumbers plot'.chart

section Keeps

variable {α β : Type}

/-- A value changes nothing. -/
theorem keeps_pure (a : α) : Keeps (pure a : Plotting α) := by
  intro plot b plot' h
  cases h
  exact Renumbers.refl _

/-- A pass that fails has nothing to keep. -/
theorem keeps_throw (fault : Fault) : Keeps (throw fault : Plotting α) :=
  fun _ _ _ h => nomatch h

/-- One pass after another. -/
theorem Keeps.bind {pass : Plotting α} {next : α → Plotting β} (h : Keeps pass)
    (hnext : ∀ a, Keeps (next a)) : Keeps (pass >>= next) := by
  intro plot b plot' hrun
  rw [EStateM.run_bind] at hrun
  cases hfirst : pass.run plot with
  | error fault plot₁ => rw [hfirst] at hrun; exact nomatch hrun
  | ok a plot₁ =>
      rw [hfirst] at hrun
      exact (h plot a plot₁ hfirst).trans (hnext a plot₁ b plot' hrun)

/-- Looking at the chart changes nothing. -/
theorem keeps_get : Keeps (get : Plotting Plot) := by
  intro plot b plot' h
  cases h
  exact Renumbers.refl _

/-- Adding a statement to the description changes nothing in the chart. -/
theorem keeps_describe (statement : Dot.Statement) : Keeps (describe statement) := by
  intro plot b plot' h
  cases h
  exact Renumbers.refl _

/-- Adding the statement for a box, if there is one, changes nothing in the chart. -/
theorem keeps_describeNode (number : Int) (box : Box) : Keeps (describeNode number box) := by
  unfold describeNode
  cases box.label with
  | ok label => exact keeps_describe _
  | error fault => exact keeps_throw _

/-- A number that is given to a node changes that number. -/
theorem keeps_assignNumber (v : NodeId) (number : Int) : Keeps (assignNumber v number) := by
  intro plot b plot' h
  cases h
  exact renumbers_setIndex plot.chart v number

/-- Looking a node up changes nothing. -/
theorem keeps_require (chart : Chart) (entry : String) (target : Link) :
    Keeps (require chart entry target) := by
  unfold require
  cases target with
  | nowhere => exact keeps_throw _
  | fork owner => exact keeps_throw _
  | node v =>
      simp only
      cases chart[v]? with
      | none => exact keeps_throw _
      | some node => exact keeps_pure _

/-- Counting on changes nothing in the chart. -/
theorem keeps_successor (number : Option Int) : Keeps (successor number) := by
  cases number with
  | none => exact keeps_throw _
  | some n => exact keeps_pure _

section Walk

variable {walk : NodeId → Plotting (Option Int)} (h : ∀ v, Keeps (walk v))

include h

/-- What happens at an arrow once it is known what it leads to. -/
theorem keeps_meet (w : NodeId) (child : Node) (tail : Option Int) (side : Option Branch)
    (free : Int) :
    Keeps (if isNumbered child.index then do
        describeLink tail child.index side
        return free
      else do
        describeNode free child.box
        describeLink tail (some free) side
        assignNumber w free
        successor (← walk w)) := by
  split
  · exact (keeps_describe _).bind fun _ => keeps_pure _
  · exact (keeps_describeNode _ _).bind fun _ => (keeps_describe _).bind fun _ =>
      (keeps_assignNumber _ _).bind fun _ => (h _).bind fun _ => keeps_successor _

/-- An arrow is followed without a change to anything but numbers. -/
theorem keeps_numberArrow (v : NodeId) (arrow : Arrow) (free : Int) :
    Keeps (numberArrow walk v arrow free) :=
  keeps_get.bind fun _ => (keeps_require _ _ _).bind fun found =>
    keeps_meet h found.1 found.2 _ _ free

/-- A side of a condition is followed without a change to anything but numbers. -/
theorem keeps_numberSide (v : NodeId) (side : Branch) (free : Int) :
    Keeps (numberSide walk v side free) :=
  keeps_get.bind fun _ => (keeps_require _ _ _).bind fun found =>
    keeps_meet h found.1 found.2 _ (some side) free

end Walk

/-- Numbering changes nothing but numbers. -/
theorem keeps_number (depth : Nat) (v : NodeId) : Keeps (number depth v) := by
  induction depth generalizing v with
  | zero => exact keeps_throw _
  | succ depth ih =>
      rw [number]
      refine keeps_get.bind fun plot => (keeps_require _ _ _).bind fun found => ?_
      simp only
      split
      · exact (keeps_successor _).bind fun _ => (keeps_numberSide ih _ _ _).bind fun _ =>
          (keeps_numberSide ih _ _ _).bind fun _ => keeps_pure _
      · exact keeps_pure _
      · exact keeps_pure _
      · refine (keeps_require _ _ _).bind fun child => ?_
        split
        · exact (keeps_describe _).bind fun _ => (keeps_successor _).bind fun _ => keeps_pure _
        · exact (keeps_successor _).bind fun _ => (keeps_describeNode _ _).bind fun _ =>
            (keeps_assignNumber _ _).bind fun _ => keeps_get.bind fun _ =>
            (keeps_describe _).bind fun _ => (ih _).bind fun _ => (keeps_successor _).bind fun _ =>
            keeps_pure _

end Keeps

/-- The arrows are followed one after the other. -/
theorem run_numberArrows_cons {walk : NodeId → Plotting (Option Int)} {v : NodeId} {arrow : Arrow}
    {rest : List Arrow} {free free' : Int} {plot plot' : Plot} :
    (numberArrows walk v (arrow :: rest) free).run plot = .ok free' plot' ↔
      ∃ mid plot₁, (numberArrow walk v arrow free).run plot = .ok mid plot₁ ∧
        (numberArrows walk v rest mid).run plot₁ = .ok free' plot' := by
  rw [numberArrows, EStateM.run_bind]
  cases (numberArrow walk v arrow free).run plot with
  | error fault plot₁ => simp
  | ok mid plot₁ => simp

/-- An arrow that can be followed leads to a node. -/
theorem exists_child {walk : NodeId → Plotting (Option Int)} {v : NodeId} {arrow : Arrow}
    {free mid : Int} {plot plot₁ : Plot}
    (h : (numberArrow walk v arrow free).run plot = .ok mid plot₁) :
    ∃ child, plot.chart[arrow.2]? = some child := by
  cases hchild : plot.chart[arrow.2]? with
  | some child => exact ⟨child, rfl⟩
  | none =>
      simp only [numberArrow, EStateM.run_bind, EStateM.run_get, require, hchild] at h
      exact nomatch h

section Exits

variable {depth : Nat} {plot plot' : Plot} {v : NodeId} {node : Node} {k free' : Int}
  (hnode : plot.chart[v]? = some node) (hindex : node.index = some k)

include hnode hindex

/-- A node that leads on goes the way of its arrow. -/
theorem run_number_next (hk : 1 ≤ k) {w : NodeId}
    (hexit : plot.chart.exit? v = some (.next (.node w)))
    (hrun : (numberArrow (number depth) v (none, w) (k + 1)).run plot = .ok free' plot') :
    (number (depth + 1) v).run plot = .ok (some free') plot' := by
  obtain ⟨child, hchild⟩ := exists_child hrun
  rw [number]
  simp only [EStateM.run_bind, EStateM.run_get, require, hnode, EStateM.run_pure, hexit, hchild]
  cases hmet : isNumbered child.index with
  | true =>
      rw [run_numberArrow_back hchild _ hmet] at hrun
      cases hrun
      simp only [if_true, describeLink, describe, EStateM.run_bind, EStateM.run_modify, hindex,
        successor, EStateM.run_pure, Plot.turnBack, linkStatement, index_eq hnode, index_eq hchild]
  | false =>
      -- The node has a number and the child has none, so they are not the same.
      have hne : w ≠ v := by
        rintro rfl
        rw [hnode] at hchild
        cases hchild
        rw [hindex, isNumbered_some hk] at hmet
        exact nomatch hmet
      have hv := index_setIndex_of_ne plot.chart hne (k + 1)
      rw [run_numberArrow_ahead hchild _ hmet] at hrun
      cases hlabel : child.box.label with
      | error fault => rw [hlabel] at hrun; exact nomatch hrun
      | ok label =>
          rw [hlabel] at hrun
          simp only [Plot.goAhead, boxStatement, linkStatement, Box.text, hlabel] at hrun
          simp only [Bool.false_eq_true, if_false, EStateM.run_bind, hindex, successor,
            EStateM.run_pure, describeNode, hlabel, describe, EStateM.run_modify,
            assignNumber, EStateM.run_get, describeLink, hv]
          cases hwalk : (number depth w).run _ with
          | error fault plot₂ => rw [hwalk] at hrun; exact nomatch hrun
          | ok number plot₂ =>
              rw [hwalk] at hrun
              simp only at hrun ⊢
              cases number with
              | none => exact nomatch hrun
              | some n => cases hrun; rfl

/-- A node that branches goes the way of its arrow for `no`, then that of its arrow for `yes`. -/
theorem run_number_branch {no yes : NodeId}
    (hexit : plot.chart.exit? v = some (.branch (.node no) (.node yes))) {mid : Int} {plot₁ : Plot}
    (hno : (numberArrow (number depth) v (some .no, no) (k + 1)).run plot = .ok mid plot₁)
    (hyes : (numberArrow (number depth) v (some .yes, yes) mid).run plot₁ = .ok free' plot') :
    (number (depth + 1) v).run plot = .ok (some free') plot' := by
  -- The first side has changed nothing but numbers, so the second one is still there.
  have hkeeps := keeps_numberArrow (keeps_number depth) _ _ _ _ _ _ hno
  have hslotNo : plot.chart.slot v .no = .node no := by
    rw [slot, hexit]
    rfl
  have hslotYes : plot₁.chart.slot v .yes = .node yes := by
    rw [slot, hkeeps.exit?_eq, hexit]
    rfl
  rw [number]
  simp only [EStateM.run_bind, EStateM.run_get, require, hnode, EStateM.run_pure, hexit, hindex,
    successor, numberSide_eq (number depth) hslotNo, hno, numberSide_eq (number depth) hslotYes,
    hyes]

/-- A node that has a number is left with the numbers of what its arrows lead to. -/
theorem run_number (hk : 1 ≤ k) {arrows : List Arrow} (h : plot.chart.arrows? v = some arrows)
    (hrun : (numberArrows (number depth) v arrows (k + 1)).run plot = .ok free' plot') :
    (number (depth + 1) v).run plot = .ok (some (if arrows = [] then k else free')) plot' := by
  obtain ⟨exit, hexit, harrows⟩ := Option.bind_eq_some_iff.mp h
  cases exit with
  | next target =>
      cases target with
      | fork owner => exact nomatch harrows
      | nowhere =>
          cases harrows
          cases hrun
          rw [number]
          simp only [EStateM.run_bind, EStateM.run_get, require, hnode, EStateM.run_pure, hexit,
            hindex, if_true]
      | node w =>
          cases harrows
          obtain ⟨mid, plot₁, hmid, hlast⟩ := run_numberArrows_cons.mp hrun
          cases hlast
          rw [if_neg (List.cons_ne_nil _ _)]
          exact run_number_next hnode hindex hk hexit hmid
  | branch no yes =>
      obtain ⟨a, b, hsides, rfl⟩ := Exit.exists_sides_of_arrows rfl harrows
      rw [hsides] at hexit
      obtain ⟨mid, plot₁, hno, hrest⟩ := run_numberArrows_cons.mp hrun
      obtain ⟨mid₂, plot₂, hyes, hlast⟩ := run_numberArrows_cons.mp hrest
      cases hlast
      rw [if_neg (List.cons_ne_nil _ _)]
      exact run_number_branch hnode hindex hexit hno hyes

end Exits

/-- The number that a node is left with is the last one before the next that is free behind it. -/
theorem Numbers.free_succ {plot plot' : Plot} {v : NodeId} {arrows : List Arrow} {free free' : Int}
    (h : Numbers plot v arrows (free + 1) free' plot') :
    (if arrows = [] then free else free') + 1 = freeBehind arrows free' := by
  unfold freeBehind
  by_cases harrows : arrows = []
  · subst harrows
    cases h
    rfl
  · rw [if_neg harrows, if_neg harrows]

/-- A walk that comes back does so at every depth that is great enough. -/
theorem Numbers.run {plot plot' : Plot} {v : NodeId} {arrows : List Arrow} {free free' : Int}
    (h : Numbers plot v arrows free free' plot') (hfree : 1 ≤ free)
    (hv : isNumbered (plot.chart.index v) = true) :
    ∃ need, ∀ depth, need ≤ depth →
      (numberArrows (number depth) v arrows free).run plot = .ok free' plot' := by
  induction h with
  | done => exact ⟨0, fun _ _ => rfl⟩
  | back hchild hmet _ ih =>
      obtain ⟨need, hrun⟩ := ih hfree hv
      refine ⟨need, fun depth hdepth => run_numberArrows_cons.mpr ⟨_, _, ?_, hrun depth hdepth⟩⟩
      exact run_numberArrow_back hchild _ hmet
  | @ahead plot plot₁ plot' v arrow rest arrows free free₁ free' child hchild hnew hlabel harrows
      first _ ihFirst ihMore =>
      have hentered := renumbers_setIndex plot.chart arrow.2 free
      have hself := isNumbered_goAhead hchild v hfree
      obtain ⟨news, hnews⟩ := first.numbered (by omega) hself
      obtain ⟨hfree₁, hv₁, -⟩ := resume_ahead hfree hv hchild hnew hnews
      obtain ⟨need₁, hrun₁⟩ := ihFirst (by omega) hself
      obtain ⟨need₂, hrun₂⟩ := ihMore hfree₁ hv₁
      refine ⟨max need₁ need₂ + 1, fun depth hdepth => ?_⟩
      -- The walk ahead takes one level more than what follows the child.
      refine run_numberArrows_cons.mpr ⟨freeBehind arrows free₁, plot₁, ?_, hrun₂ depth (by omega)⟩
      obtain ⟨deeper, rfl⟩ : ∃ deeper, depth = deeper + 1 := ⟨depth - 1, by omega⟩
      have hnode : (plot.goAhead v arrow child.box free).chart[arrow.2]?
          = some { child with index := some free } := by
        rw [← index_setIndex_self hchild free]
        exact hentered.nodes arrow.2 child hchild
      have hchildArrows : (plot.goAhead v arrow child.box free).chart.arrows? arrow.2
          = some arrows :=
        (hentered.arrows?_eq arrow.2).trans harrows
      have hwalk := run_number hnode rfl hfree hchildArrows (hrun₁ deeper (by omega))
      rw [run_numberArrow_ahead hchild _ hnew, hlabel]
      simp only
      rw [hwalk]
      show EStateM.Result.ok ((if arrows = [] then free else free₁) + 1) plot₁ = _
      rw [first.free_succ]

/-- From a node that has a number and can be described, numbering comes back. -/
theorem Describable.run {origin : Chart} {p : NodeId → Prop} (h : origin.Describable p)
    {plot : Plot} (hshape : origin.Renumbers plot.chart) {v : NodeId} (hp : p v) {k : Int}
    (hindex : plot.chart.index v = some k) (hk : 1 ≤ k) :
    ∃ need arrows free plot', origin.arrows? v = some arrows ∧
      Numbers plot v arrows (k + 1) free plot' ∧
      ∀ depth, need ≤ depth →
        (number depth v).run plot = .ok (some (if arrows = [] then k else free)) plot' := by
  obtain ⟨node, arrows, hnode, -, harrows, hchildren⟩ := h.node v hp
  have hv := isNumbered_of_index hindex hk
  have hfree : 1 ≤ k + 1 := by omega
  obtain ⟨free, plot', hnumbers⟩ := exists_numbers h _ v arrows plot (k + 1) hshape
    (Finset.Subset.refl _) hfree hv hchildren
  obtain ⟨need, hrun⟩ := hnumbers.run hfree hv
  refine ⟨need + 1, arrows, free, plot', harrows, hnumbers, fun depth hdepth => ?_⟩
  obtain ⟨deeper, rfl⟩ : ∃ deeper, depth = deeper + 1 := ⟨depth - 1, by omega⟩
  have harrows' := (hshape.arrows?_eq v).trans harrows
  exact run_number (hshape.nodes v node hnode) hindex hk harrows' (hrun deeper (by omega))

end Chart

end Flowchart
