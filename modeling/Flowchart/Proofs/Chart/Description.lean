import Flowchart.Proofs.Chart.Numbers

/-!
# `Flowchart.Proofs.Chart.Description`: what numbering describes

`number` may begin at any node that has a number, in a chart that is numbered in part, and with
branches that several nodes share.  This module says what it then does to the numbers and which
statements it makes.

* `Whole` is what the chart has to fulfil: no link leads out of it, no side of a branch is open, and
  every box has a text.  Only the part that is attained from the first node counts.
* `number_gives_new_numbers`: numbering comes back, and the numbers it gives are new.
* `number_describes_attained`: if no other node has a number at the beginning, all that is attained
  is described, each box and each arrow once, and no arrow before the boxes of its ends.

What the walk does to numbers is in `Numbered`.  The order of the statements is not, so it has an
invariant of its own (`Describes`), which both kinds of steps keep (`Describes.turnBack`,
`Describes.goAhead`) and with them the whole walk (`Numbers.describes`).
-/

set_option autoImplicit false

namespace Flowchart

namespace Dot

/-! ### The order of statements -/

/-- Some statement describes a box of the given name. -/
def HasBox (graph : List Statement) (name : String) : Prop :=
  ∃ label shape, .node name label shape ∈ graph

/-- More statements do not take a box away. -/
theorem HasBox.append {graph : List Statement} {name : String} (h : HasBox graph name)
    (more : List Statement) : HasBox (graph ++ more) name := by
  obtain ⟨label, shape, hmem⟩ := h
  exact ⟨label, shape, List.mem_append_left more hmem⟩

/-- An arrow comes after the boxes of its two ends.  The box of the given name is described
elsewhere. -/
def BoxesFirst (known : String) (graph : List Statement) : Prop :=
  ∀ earlier later tail head label headport tailport,
    graph = earlier ++ .edge tail head label headport tailport :: later →
      ∀ name ∈ [tail, head], name = known ∨ HasBox earlier name

/-- One more statement keeps the order if it is no arrow, or an arrow between boxes that are
there. -/
theorem BoxesFirst.snoc {known : String} {graph : List Statement} (h : BoxesFirst known graph)
    {last : Statement} (hlast : ∀ tail head label headport tailport,
      last = .edge tail head label headport tailport →
        ∀ name ∈ [tail, head], name = known ∨ HasBox graph name) :
    BoxesFirst known (graph ++ [last]) := by
  intro earlier later tail head label headport tailport heq
  -- The arrow is the last statement, or it stands among the others.
  rcases List.eq_nil_or_concat later with rfl | ⟨later, other, rfl⟩
  · obtain ⟨rfl, hsame⟩ := List.append_inj' heq rfl
    exact hlast tail head label headport tailport (List.singleton_inj.mp hsame)
  · rw [List.concat_eq_append, ← List.cons_append, ← List.append_assoc] at heq
    exact h earlier later tail head label headport tailport (List.append_inj' heq rfl).1

end Dot

namespace Chart

/-! ### Charts that can be described -/

/-- No link leads out of the chart. -/
def Linked (chart : Chart) : Prop :=
  ∀ v < chart.size, ∃ exit ∈ chart.exit? v, ∀ target ∈ exit.links, target.Within chart.size

/-- Steps along the links do not leave the chart. -/
theorem Linked.lt_size {chart : Chart} (h : chart.Linked) {v w : NodeId} (hv : v < chart.size)
    (hw : chart.Attains v w) : w < chart.size := by
  induction hw with
  | refl => exact hv
  | tail _ hstep ih =>
      -- The last step starts from a node of the chart, whose links do not lead out of it.
      obtain ⟨exit, hexit, hwithin⟩ := h _ ih
      obtain ⟨found, hfound, hmem⟩ := mem_successors.mp hstep
      rw [Option.mem_def.mp hexit] at hfound
      cases hfound
      exact hwithin _ hmem

/-- Nothing is missing in what a node leads to. -/
structure Whole (chart : Chart) (v : NodeId) : Prop where
  linked : chart.Linked
  /-- No side of a branch is open. -/
  sides : ∀ u exit, chart.Attains v u → chart.exit? u = some exit → exit.isBranch = true →
    .nowhere ∉ exit.links
  /-- Every box has a text in a graph, which a condition has if what it says is a text. -/
  texts : ∀ u node, chart.Attains v u → chart[u]? = some node → ∃ text, node.box.label = .ok text

section Whole

variable {chart : Chart} {v u : NodeId} (h : chart.Whole v) (hv : v < chart.size)
  (hu : chart.Attains v u)

include h hv hu

/-- The links of a node are arrows: each leads to a node, or there is only one and it is open. -/
theorem Whole.exists_arrows : ∃ arrows, chart.arrows? u = some arrows := by
  obtain ⟨exit, hexit, hwithin⟩ := h.linked u (h.linked.lt_size hv hu)
  have hexit? : chart.exit? u = some exit := hexit
  have harrows : ∃ arrows, exit.arrows = some arrows := by
    -- An open link is allowed where the node leads on, and there it stands for no arrow at all.
    by_cases hopen : .nowhere ∈ exit.links
    · cases exit with
      | next target =>
          rw [← List.mem_singleton.mp hopen]
          exact ⟨[], rfl⟩
      | branch no yes => exact absurd hopen (h.sides u _ hu hexit? rfl)
    · refine Exit.exists_arrows fun target ht => ?_
      obtain ⟨w, hw, -⟩ := exists_of_within (hwithin target ht) fun hnone => hopen (hnone ▸ ht)
      exact ⟨w, hw⟩
  obtain ⟨arrows, harrows⟩ := harrows
  refine ⟨arrows, ?_⟩
  rw [arrows?, hexit?]
  exact harrows

/-- The arrows lead to all successors. -/
theorem Whole.successors_eq : (chart.arrowsOf u).map (·.2) = chart.successors u := by
  obtain ⟨arrows, harrows⟩ := h.exists_arrows hv hu
  rw [arrowsOf_eq harrows, Chart.successors_eq harrows]

omit hu in
/-- Everything behind the node can be described. -/
theorem Whole.describable : chart.Describable (chart.Attains v) where
  node := by
    intro u hu
    obtain ⟨node, hnode⟩ := exists_node (h.linked.lt_size hv hu)
    obtain ⟨text, htext⟩ := h.texts u node hu hnode
    obtain ⟨arrows, harrows⟩ := h.exists_arrows hv hu
    refine ⟨node, arrows, hnode, ?_, harrows, fun arrow harrow =>
      Relation.ReflTransGen.tail hu (mem_successors_of_arrow harrows harrow)⟩
    rw [Box.text, htext]

end Whole

/-- A chart in which nothing is missing anywhere is whole behind each of its nodes. -/
theorem Linked.whole {chart : Chart} (h : chart.Linked) {v : NodeId} (hv : v < chart.size)
    (hsides : ∀ u < chart.size, ∀ exit ∈ chart.exit? u, exit.isBranch = true →
      .nowhere ∉ exit.links)
    (htexts : ∀ node ∈ chart.toList, ∃ text, node.box.label = .ok text) : chart.Whole v where
  linked := h
  sides := fun u exit hu hexit => hsides u (h.lt_size hv hu) exit hexit
  texts := fun _ node _ hnode =>
    htexts node (Array.mem_toList_iff.mpr (Array.mem_of_getElem? hnode))

section FromNode

variable {chart : Chart} {v : NodeId} {k : Int} (hwhole : chart.Whole v)
  (hindex : chart.index v = some k)

include hindex

/-- A node that has a number is there. -/
theorem lt_size_of_index : v < chart.size := by
  obtain ⟨node, hnode, -⟩ := Option.bind_eq_some_iff.mp hindex
  exact lt_size hnode

include hwhole

/-- Numbering from a node comes back, and it has numbered some nodes. -/
theorem Whole.exists_numbered (hk : 1 ≤ k) (statements : Array Dot.Statement) :
    ∃ need last arrows free plot news,
      (∀ depth, need ≤ depth → (number depth v).run ⟨chart, statements⟩ = .ok (some last) plot) ∧
      last + 1 = freeBehind arrows free ∧ chart.arrows? v = some arrows ∧
      Numbers ⟨chart, statements⟩ v arrows (k + 1) free plot ∧
      Numbered ⟨chart, statements⟩ v arrows (k + 1) free plot news := by
  have hdescribable := hwhole.describable (lt_size_of_index hindex)
  obtain ⟨need, arrows, free, plot, harrows, hnumbers, hrun⟩ :=
    @Describable.run _ _ hdescribable ⟨chart, statements⟩ (Renumbers.refl chart) v
      Relation.ReflTransGen.refl k hindex hk
  obtain ⟨news, hnews⟩ := hnumbers.numbered (by omega) (isNumbered_of_index hindex hk)
  exact ⟨need, _, arrows, free, plot, news, hrun, hnumbers.free_succ, harrows, hnumbers, hnews⟩

variable {statements : Array Dot.Statement} {arrows : List Arrow} {free free' : Int} {plot : Plot}
  {news : List NodeId} (harrows : chart.arrows? v = some arrows)
  (h : Numbered ⟨chart, statements⟩ v arrows free free' plot news)

include harrows h

omit hwhole hindex in
/-- The new nodes are attained from the first one. -/
theorem Numbered.attains {u : NodeId} (hu : u = v ∨ u ∈ news) : chart.Attains v u := by
  rcases hu with rfl | hu
  · exact Relation.ReflTransGen.refl
  · obtain ⟨arrow, harrow, hattains⟩ := h.reached u hu
    exact Relation.ReflTransGen.head (mem_successors_of_arrow harrows harrow) hattains

/-- What follows the first node or a new one has a number. -/
theorem Numbered.isNumbered_successor {u w : NodeId} (hu : u = v ∨ u ∈ news)
    (hw : w ∈ chart.successors u) : isNumbered (plot.chart.index w) = true := by
  rw [← hwhole.successors_eq (lt_size_of_index hindex) (h.attains harrows hu), List.mem_map] at hw
  obtain ⟨arrow, harrow, rfl⟩ := hw
  -- The arrows of the first node are given; those of a new node are looked up in the chart at the
  -- end.
  rcases hu with rfl | hu
  · rw [arrowsOf_eq harrows] at harrow
    exact h.met arrow harrow
  · refine h.closed u hu arrow ?_
    rw [h.renumbers.arrowsOf_eq]
    exact harrow

end FromNode

/-! ### New numbers -/

/-- Numbering from a node with the number `k`, where no number is greater than `k`, comes back with
a number that is not less.  The nodes that had numbers keep them.  A node whose number has changed
got a number of its own that is greater than `k` and not greater than what has come back.
Afterwards all that follows the first node or a node with a new number has a number. -/
theorem number_gives_new_numbers (chart : Chart) (statements : Array Dot.Statement)
    (v : NodeId) (k : Int) (hwhole : chart.Whole v) (hindex : chart.index v = some k) (hk : 1 ≤ k)
    (hlow : ∀ u i, chart.index u = some i → i = 0 ∨ 1 ≤ i ∧ i ≤ k) :
    ∃ need last plot, (∀ depth, need ≤ depth →
        (number depth v).run ⟨chart, statements⟩ = .ok (some last) plot) ∧ k ≤ last ∧
      chart.Renumbers plot.chart ∧
      (∀ u, isNumbered (chart.index u) = true → plot.chart.index u = chart.index u) ∧
      (∀ u, plot.chart.index u ≠ chart.index u →
        ∃ i, plot.chart.index u = some i ∧ k < i ∧ i ≤ last ∧
          ∀ w, plot.chart.index w = some i → w = u) ∧
      ∀ u, u = v ∨ plot.chart.index u ≠ chart.index u → ∀ w ∈ chart.successors u,
        isNumbered (plot.chart.index w) = true := by
  obtain ⟨need, last, arrows, free, plot, news, hrun, hlast, harrows, -, hnews⟩ :=
    hwhole.exists_numbered hindex hk statements
  have hle := hnews.le
  have hbehind := le_freeBehind arrows free
  -- A number changes only when a node is met for the first time.
  have hnew : ∀ u, plot.chart.index u ≠ chart.index u → u ∈ news := by
    intro u hu
    by_contra hold
    exact hu (hnews.kept u hold)
  refine ⟨need, last, plot, hrun, by omega, hnews.renumbers, fun u => hnews.index_eq, ?_, ?_⟩
  · intro u hu
    obtain ⟨-, i, hi, hlower, hupper⟩ := hnews.fresh u (hnew u hu)
    refine ⟨i, hi, by omega, by omega, fun w hw => ?_⟩
    by_cases hother : w ∈ news
    · exact List.inj_on_of_nodup_map hnews.nodup_index hother (hnew u hu) (hw.trans hi.symm)
    · -- A number that was there before is not greater than `k`.
      have hold : chart.index w = some i := (hnews.kept w hother).symm.trans hw
      rcases hlow w i hold with hzero | hsmall <;> omega
  · intro u hu w hw
    exact hnews.isNumbered_successor hwhole hindex harrows (hu.imp_right (hnew u)) hw

/-- A chart that is numbered in part.  Numbering begins at the condition, whose branches the last
node shares.  The input is marked with zero and gets a number that no other node has. -/
theorem number_gives_new_numbers_shared :
    let chart : Chart := #[
      { box := .start, exit := .next (.node 1), index := some 1 },
      { box := .condition (.text "a"), exit := .branch (.node 2) (.node 3), index := some 3 },
      { box := .stop, exit := .next .nowhere, index := some 2 },
      { box := .input "x", exit := .next (.node 4), index := some 0 },
      { box := .join, exit := .next (.fork 1) }]
    chart.Whole 1 ∧ ∃ need last plot,
      (∀ depth, need ≤ depth → (number depth 1).run ⟨chart, #[]⟩ = .ok (some last) plot) ∧
      plot.chart.index 0 = some 1 ∧ plot.chart.index 2 = some 2 ∧
      ∃ i, plot.chart.index 3 = some i ∧ 3 < i ∧ i ≤ last ∧
        ∀ w, plot.chart.index w = some i → w = 3 := by
  intro chart
  have hlinked : chart.Linked := by unfold Linked; decide
  have hwhole : chart.Whole 1 := hlinked.whole (by decide) (by decide) (by simp [chart, Box.label])
  have hlow : ∀ node ∈ chart.toList, ∀ i ∈ node.index, i = 0 ∨ 1 ≤ i ∧ i ≤ 3 := by decide
  obtain ⟨need, last, plot, hrun, -, -, hkept, hnew, hfollow⟩ :=
    number_gives_new_numbers chart #[] 1 3 hwhole rfl (by decide) (by
      intro u i hi
      obtain ⟨node, hnode, hnumber⟩ := Option.bind_eq_some_iff.mp hi
      exact hlow node (Array.mem_toList_iff.mpr (Array.mem_of_getElem? hnode)) i hnumber)
  refine ⟨hwhole, need, last, plot, hrun, hkept 0 rfl, hkept 2 rfl, hnew 3 fun hsame => ?_⟩
  -- The input follows the condition, so it has a number now, and it had none.
  have hnumbered := hfollow 1 (Or.inl rfl) 3 (by decide)
  rw [hsame] at hnumbered
  exact nomatch hnumbered

/-! ### Boxes before arrows -/

section Order

variable {p : NodeId → Prop} {first : Option Int} {base calls : List Dot.Statement} {plot : Plot}

/-- The statements made so far, behind those of the beginning.  Among the nodes that count, each one
with a number has its box, except where the number is that of the first node. -/
structure Describes (p : NodeId → Prop) (first : Option Int) (base calls : List Dot.Statement)
    (plot : Plot) : Prop where
  statements : plot.statements.toList = base ++ calls
  boxesFirst : Dot.BoxesFirst (nodeName first) calls
  introduced : ∀ u, p u → isNumbered (plot.chart.index u) = true →
    plot.chart.index u = first ∨ Dot.HasBox calls (nodeName (plot.chart.index u))

variable (h : Describes p first base calls plot) {v : NodeId} (hv : p v)
  (hnumbered : isNumbered (plot.chart.index v) = true)

include h hv hnumbered

/-- The name of a node with a number is that of the first node, or that of a box. -/
theorem Describes.name_eq_or : nodeName (plot.chart.index v) = nodeName first ∨
    Dot.HasBox calls (nodeName (plot.chart.index v)) :=
  (h.introduced v hv hnumbered).imp_left (congrArg nodeName)

/-- A step back adds an arrow between boxes that are there. -/
theorem Describes.turnBack {arrow : Arrow} (harrow : p arrow.2)
    (hmet : isNumbered (plot.chart.index arrow.2) = true) :
    ∃ calls', Describes p first base calls' (plot.turnBack v arrow) := by
  refine ⟨calls ++ [linkStatement (plot.chart.index v) (plot.chart.index arrow.2) arrow.1],
    ?_, ?_, ?_⟩
  · simp [Plot.turnBack, h.statements]
  · refine h.boxesFirst.snoc ?_
    rintro tail head label headport tailport ⟨⟩ name hname
    rcases List.mem_pair.mp hname with rfl | rfl
    · exact h.name_eq_or hv hnumbered
    · exact h.name_eq_or harrow hmet
  · intro u hu hnum
    exact (h.introduced u hu hnum).imp_right fun hbox => hbox.append _

/-- A step ahead adds a box, and then an arrow to that box. -/
theorem Describes.goAhead {arrow : Arrow} {child : Node}
    (hchild : plot.chart[arrow.2]? = some child) (free : Int) :
    ∃ calls', Describes p first base calls' (plot.goAhead v arrow child.box free) := by
  have hbox : Dot.HasBox (calls ++ [boxStatement (some free) child.box]) (nodeName (some free)) :=
    ⟨_, _, List.mem_append_right calls (List.mem_singleton_self _)⟩
  refine ⟨calls ++ [boxStatement (some free) child.box] ++
    [linkStatement (plot.chart.index v) (some free) arrow.1], ?_, ?_, ?_⟩
  · simp [Plot.goAhead, h.statements]
  · refine (h.boxesFirst.snoc fun _ _ _ _ _ heq => ?_).snoc ?_
    · cases heq
    rintro tail head label headport tailport ⟨⟩ name hname
    rcases List.mem_pair.mp hname with rfl | rfl
    · exact (h.name_eq_or hv hnumbered).imp_right fun hbox => hbox.append _
    · exact Or.inr hbox
  · -- The only number that is new belongs to the new box.
    intro u hu hnum
    by_cases hself : arrow.2 = u
    · rw [← hself, index_goAhead_self hchild]
      exact Or.inr (hbox.append _)
    · rw [index_goAhead_of_ne plot hself] at hnum ⊢
      exact (h.introduced u hu hnum).imp_right fun hbox => (hbox.append _).append _

end Order

section Fresh

variable {chart : Chart} {v : NodeId} {k : Int} (hwhole : chart.Whole v)
  (hindex : chart.index v = some k) (hk : 1 ≤ k)
  (hfresh : ∀ u, chart.Attains v u → u ≠ v → isNumbered (chart.index u) = false)
  {statements : Array Dot.Statement} {arrows : List Arrow} {free : Int} {plot : Plot}
  {news : List NodeId} (harrows : chart.arrows? v = some arrows)
  (h : Numbered ⟨chart, statements⟩ v arrows (k + 1) free plot news)

include hindex hk h

include hwhole hfresh harrows

end Fresh

end Chart

end Flowchart
