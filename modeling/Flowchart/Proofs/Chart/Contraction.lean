import Flowchart.Proofs.Chart.Pruning

/-!
# `Flowchart.Proofs.Chart.Contraction`: pruning contracts joints and does nothing else

A link leads to a joint, the joint to another, and so on until there is a box that is no joint, or
no node at all.  `EndsAt` says where such a chain ends, one rule for each thing a link may lead to.
Pruning from a node puts, for every link of every node that is reached from there, the end of its
chain in its place, and marks the nodes that lead on.

That links bypass joints and nothing else is what `Flowchart.Proofs.Chart.Pruning` proves of every
walk that comes back.  Two things are missing there.  One is that bypassing has come to its end,
which is `Tidy.endsAt_of_passes` for a link that no longer leads to a joint.  The other is that the
walk leaves alone what it does not reach, `Prunes.untouched`.  The walk turns links while it goes
along them, but a turned link leads to a node that was reached before (`Trimmed.reaches_of`), so
that what is reached from the start only becomes less.

`prune_contracts_joints` puts this together for a chart in which no node is marked.
-/

set_option autoImplicit false

namespace Flowchart.Chart

/-! ### Chains of joints -/

/-- The chain of joints that begins at a link ends at another: an open link, or one to a box that is
no joint. -/
inductive EndsAt (chart : Chart) : Link → Link → Prop
  | nowhere : EndsAt chart .nowhere .nowhere
  | box {v : NodeId} {node : Node} (hnode : chart[v]? = some node)
      (hbox : node.box.isJoint = false) : EndsAt chart (.node v) (.node v)
  | joint {v : NodeId} {node : Node} {next last : Link} (hnode : chart[v]? = some node)
      (hbox : node.box.isJoint = true) (hexit : node.exit = .next next)
      (rest : EndsAt chart next last) : EndsAt chart (.node v) last

/-- A link that does not lead to a joint is the end of its chain. -/
theorem endsAt_self {chart : Chart} {target : Link} (hwithin : target.Within chart.size)
    (hfinal : chart.beyond? target = none) : chart.EndsAt target target := by
  cases target with
  | nowhere => exact .nowhere
  | fork owner => exact hwithin.elim
  | node v =>
      obtain ⟨node, hnode⟩ := exists_node hwithin
      exact .box hnode (isJoint_of_final hnode hfinal)

/-- Where bypassing joints ends, the chain of joints ends. -/
theorem Tidy.endsAt_of_passes {chart : Chart} (h : chart.Tidy) {target last : Link}
    (hpass : chart.Passes target last) (hwithin : target.Within chart.size)
    (hfinal : chart.beyond? last = none) : chart.EndsAt target last := by
  have hlast := h.within_of_passes hpass hwithin
  clear hwithin
  induction hpass using Relation.ReflTransGen.head_induction_on with
  | refl => exact endsAt_self hlast hfinal
  | head hjoint _ ih =>
      obtain ⟨v, node, rfl, hnode, hbox, hexit⟩ := h.exit_of_beyond? hjoint
      exact .joint hnode hbox hexit ih

/-! ### What is reached while links are turned -/

/-- Bypassing joints leads to nodes that are reached. -/
theorem Tidy.reaches_of_passes {chart : Chart} (h : chart.Tidy) {target last : Link}
    (hpass : chart.Passes target last) {y : NodeId} (hlast : last = .node y) :
    ∃ x, target = .node x ∧ chart.Reaches x y := by
  induction hpass using Relation.ReflTransGen.head_induction_on with
  | refl => exact ⟨y, hlast, Relation.ReflTransGen.refl⟩
  | head hjoint _ ih =>
      obtain ⟨z, rfl, hreaches⟩ := ih
      obtain ⟨x, node, rfl, hnode, -, hexit⟩ := h.exit_of_beyond? hjoint
      have hstep : chart.Leads x (.node z) := ⟨node, hnode, Exit.mem_links_of_next hexit⟩
      exact ⟨x, rfl, Relation.ReflTransGen.head hstep hreaches⟩

/-- Whatever is reached in a trimmed chart was reached before. -/
theorem Trimmed.reaches_of {a b : Chart} (h : a.Trimmed b) (ha : a.Tidy) {v w : NodeId}
    (hw : b.Reaches v w) : a.Reaches v w := by
  induction hw with
  | refl => exact Relation.ReflTransGen.refl
  | @tail u x _ hx ih =>
      obtain ⟨old, hleads, hpass⟩ := h.exists_leads hx
      obtain ⟨y, rfl, hreaches⟩ := ha.reaches_of_passes hpass rfl
      exact ih.trans (Relation.ReflTransGen.head hleads hreaches)

section Sides

variable {chart : Chart} {v w : NodeId} {node : Node} (htidy : chart.Tidy)
  (hnode : chart[v]? = some node) (hbox : node.box.isJoint = false)
  (hbranch : node.exit.isBranch = true) {side : Branch}

include htidy

/-- Only the node itself is changed before the walk goes on from one of its sides. -/
theorem Tidy.getElem?_sideEntry (hvw : v ≠ w) : (chart.sideEntry v side).1[w]? = chart[w]? := by
  cases hjoint : chart.beyond? (chart.slot v side) with
  | none => rw [sideEntry_of_final hjoint]
  | some further => rw [sideEntry_of_joint hjoint, htidy.setSlot_eq, if_neg hvw]

include hnode hbox hbranch

/-- What the walk reaches from a side of a node was reached from the node. -/
theorem reaches_of_sideEntry {u : NodeId} (hu : (chart.sideEntry v side).2 = .node u)
    (hw : (chart.sideEntry v side).1.Reaches u w) : chart.Reaches v w := by
  have htrim := trimmed_sideEntry htidy hnode hbox hbranch side
  have hreaches := htrim.reaches_of htidy hw
  cases hjoint : chart.beyond? (chart.slot v side) with
  | some further =>
      rw [sideEntry_of_joint hjoint] at hu
      cases hu
      exact hreaches
  | none =>
      -- No joint stands on this side, so the walk goes on from the side itself.
      have hslot : node.exit.slot side = .node u := by
        rw [sideEntry_of_final hjoint] at hu
        rw [← htidy.slot_eq hnode]
        exact hu
      have hstep : chart.Leads v (.node u) :=
        ⟨node, hnode, (Exit.mem_links_iff_slot hbranch).mpr ⟨side, hslot⟩⟩
      exact Relation.ReflTransGen.head hstep hreaches

end Sides

/-- A node is reached from itself. -/
theorem ne_of_not_reaches {chart : Chart} {v w : NodeId} (h : ¬ chart.Reaches v w) : v ≠ w := by
  rintro rfl
  exact h Relation.ReflTransGen.refl

/-- A walk changes no node that is not reached from where it begins.  The induction is on the walk;
a walk within it begins at a node that is reached, in a chart in which less is reached. -/
theorem Prunes.untouched {chart chart' : Chart} {target : Link} (h : Prunes chart target chart')
    (htidy : chart.Tidy) (hfinal : chart.beyond? target = none) {w : NodeId}
    (hw : ∀ v, target = .node v → ¬ chart.Reaches v w) : chart'[w]? = chart[w]? := by
  induction h with
  | marked => rfl
  | leaf => rfl
  | @bypass chart chart' v node following further hnode hindex hexit hjoint _ ih =>
      have hvw := ne_of_not_reaches (hw v rfl)
      have htrim := trimmed_setNext hnode (isJoint_of_final hnode hfinal)
        (htidy.exit_eq hnode hexit) hjoint
      -- The walk begins anew at the same node, in a chart in which only that node has changed.
      rw [ih (htrim.tidy htidy) (by rw [htrim.beyond?_eq]; exact hfinal)
        (fun u hu hreaches => hw u hu (htrim.reaches_of htidy hreaches)), getElem?_setNext,
        if_neg hvw]
  | @follow chart chart' v node following hnode hindex hexit hopen hfollow rest ih =>
      have hvw := ne_of_not_reaches (hw v rfl)
      have hnext := htidy.exit_eq hnode hexit
      have htrim := trimmed_mark_next hnode (isJoint_of_final hnode hfinal) hnext
        ⟨rest.exists_node, hfollow⟩
      rw [ih (htrim.tidy htidy) (by rw [htrim.beyond?_eq]; exact hfollow) ?_, getElem?_setIndex,
        if_neg hvw]
      rintro u rfl hreaches
      have hstep : chart.Leads v (.node u) := ⟨node, hnode, Exit.mem_links_of_next hnext⟩
      exact hw v rfl (Relation.ReflTransGen.head hstep (htrim.reaches_of htidy hreaches))
  | @branch chart chart₁ chart₂ v node no yes hnode hindex hexit first second ihFirst ihSecond =>
      have hvw := ne_of_not_reaches (hw v rfl)
      have hbox := isJoint_of_final hnode hfinal
      have hbranch : node.exit.isBranch = true := by rw [htidy.exit_eq hnode hexit]; rfl
      -- The side of `no`.
      have hentry := trimmed_sideEntry htidy hnode hbox hbranch .no
      have hentryFinal := beyond?_sideEntry htidy hnode hbox hbranch .no
      have hfirst := ihFirst (hentry.tidy htidy) hentryFinal fun u hu hreaches =>
        hw v rfl (reaches_of_sideEntry htidy hnode hbox hbranch hu hreaches)
      have htrim := hentry.trans (first.swept (hentry.tidy htidy) hentryFinal).trimmed
      -- The side of `yes`, in the chart that the first walk has left.
      have htidy₁ := htrim.tidy htidy
      obtain ⟨node₁, hnode₁, htrims⟩ := htrim.nodes v node hnode
      have hbox₁ : node₁.box.isJoint = false := by rw [htrims.box_eq]; exact hbox
      have hbranch₁ := htrims.exit.isBranch_eq.trans hbranch
      have hentry₁ := trimmed_sideEntry htidy₁ hnode₁ hbox₁ hbranch₁ .yes
      have hentryFinal₁ := beyond?_sideEntry htidy₁ hnode₁ hbox₁ hbranch₁ .yes
      have hsecond := ihSecond (hentry₁.tidy htidy₁) hentryFinal₁ fun u hu hreaches => by
        have hreached := reaches_of_sideEntry htidy₁ hnode₁ hbox₁ hbranch₁ hu hreaches
        exact hw v rfl (htrim.reaches_of htidy hreached)
      rw [getElem?_setIndex, if_neg hvw, hsecond, htidy₁.getElem?_sideEntry hvw, hfirst,
        htidy.getElem?_sideEntry hvw]

/-! ### What becomes of a node -/

section FromStart

variable {chart chart' : Chart} {start : NodeId} (h : Prunes chart (.node start) chart')
  (htidy : chart.Tidy) (hfinal : chart.beyond? (.node start) = none)
  (hunmarked : ∀ v, ¬ chart.Marked v)

include h htidy hfinal hunmarked

/-- Pruning keeps the nodes that are reached, but for the joints among them. -/
theorem Prunes.reaches_iff (v : NodeId) :
    chart'.Reaches start v ↔ chart.Reaches start v ∧ chart.beyond? (.node v) = none := by
  constructor
  · intro hv
    exact ⟨(h.swept htidy hfinal).trimmed.reaches_of htidy hv,
      (h.settled_of_reached_after htidy hfinal hunmarked hv).2⟩
  · rintro ⟨hv, hlast⟩
    exact h.reaches_after htidy hfinal hunmarked hv hlast

/-- A node that is reached after pruning has the ends of its chains in the place of its links, and
is marked unless it leads nowhere. -/
theorem Prunes.contracted {v : NodeId} {node node' : Node} (hnode : chart[v]? = some node)
    (hnode' : chart'[v]? = some node') (hv : chart'.Reaches start v) :
    node.exit.Rel chart.EndsAt node'.exit ∧
      node'.index = if node'.exit = .next .nowhere then node.index else some 0 := by
  have htrimmed := (h.swept htidy hfinal).trimmed
  obtain ⟨old, hold, htrims⟩ := htrimmed.exists_old hnode'
  rw [hnode] at hold
  cases hold
  obtain ⟨⟨found, hfound, hsettled⟩, -⟩ := h.settled_of_reached_after htidy hfinal hunmarked hv
  rw [hnode'] at hfound
  cases hfound
  constructor
  · refine htrims.exit.imp_of_mem fun old hold new hnew hpass => ?_
    refine htidy.endsAt_of_passes hpass (htidy.within hnode old hold) ?_
    -- The links of a marked node lead to no joint, and an open link leads nowhere.
    rcases hsettled with hindex | hopen
    · exact (htrimmed.lands_of_marked ⟨node', hnode', hindex⟩ (hunmarked v) ⟨node', hnode', hnew⟩).2
    · rw [hopen] at hnew
      rw [List.mem_singleton.mp hnew]
      rfl
  · split
    · next hopen =>
        rcases htrims.index with hkept | ⟨-, hlands⟩
        · exact hkept
        · -- An open link does not lead to a node, so the node has not been marked.
          obtain ⟨⟨w, hw⟩, -⟩ := hlands .nowhere (Exit.mem_links_of_next hopen)
          exact nomatch hw
    · next hleads => exact hsettled.resolve_right hleads

end FromStart

/-- What pruning from a node does to a chart, if it comes back.  The chart is tidy, the node is no
joint, and no node is marked.  What is reached afterwards is what was reached before, without the
joints.  A node that is reached afterwards has, for each of its links, the end of the chain of
joints that began at that link; it is marked if it leads anywhere, and else keeps its number.
Joints and nodes that are not reached are unchanged, and no node has changed in anything but its
links and its number. -/
theorem prune_contracts_joints (depth : Nat) (chart chart' : Chart) (start : NodeId) (first : Node)
    (htidy : chart.Tidy)
    (hindex : ∀ (v : NodeId) (node : Node), chart[v]? = some node → node.index ≠ some 0)
    (hfirst : chart[start]? = some first) (hbox : first.box.isJoint = false)
    (hrun : (prune depth (.node start)).run chart = .ok () chart') :
    chart'.size = chart.size ∧
    (∀ v, chart'.Reaches start v ↔
      chart.Reaches start v ∧ ∃ node, chart[v]? = some node ∧ node.box.isJoint = false) ∧
    ∀ (v : NodeId) (node : Node), chart[v]? = some node → ∃ node', chart'[v]? = some node' ∧
      node' = { node with exit := node'.exit, index := node'.index } ∧
      (chart'.Reaches start v → node.exit.Rel chart.EndsAt node'.exit ∧
        node'.index = if node'.exit = .next .nowhere then node.index else some 0) ∧
      (node.box.isJoint = true ∨ ¬ chart'.Reaches start v → node' = node) := by
  have hprunes := prunes_of_run hrun
  have hfinal := beyond?_eq_none hfirst hbox
  have hunmarked : ∀ v, ¬ chart.Marked v := fun v ⟨node, hnode, hzero⟩ => hindex v node hnode hzero
  have htrimmed := (hprunes.swept htidy hfinal).trimmed
  have hreaches := hprunes.reaches_iff htidy hfinal hunmarked
  refine ⟨htrimmed.size, fun v => ?_, fun v node hnode => ?_⟩
  · rw [hreaches]
    refine and_congr_right fun hv => ⟨fun hlast => ?_, fun ⟨node, hnode, hjoint⟩ =>
      beyond?_eq_none hnode hjoint⟩
    obtain ⟨node, hnode⟩ := exists_node (htidy.lt_size_of_reaches (lt_size hfirst) hv)
    exact ⟨node, hnode, isJoint_of_final hnode hlast⟩
  · obtain ⟨node', hnode', htrims⟩ := htrimmed.nodes v node hnode
    refine ⟨node', hnode', htrims.same,
      fun hv => hprunes.contracted htidy hfinal hunmarked hnode hnode' hv, ?_⟩
    -- A node that is no joint is reached afterwards if it was reached before.
    intro hother
    cases hjoint : node.box.isJoint with
    | true => exact htrims.joint hjoint
    | false =>
        have hv : ¬ chart.Reaches start v := fun hv => by
          rcases hother with hbad | hnot
          · rw [hjoint] at hbad
            exact nomatch hbad
          · exact hnot ((hreaches v).mpr ⟨hv, beyond?_eq_none hnode hjoint⟩)
        have hsame := hprunes.untouched htidy hfinal (w := v) (by
          rintro u hu
          cases hu
          exact hv)
        rw [hnode', hnode] at hsame
        exact Option.some.inj hsame

/-- A loop with a joint at its top and one behind it, and a node that is not reached.  The links of
the condition go past joints on both of its sides, and the joint at the top is as before. -/
theorem prune_contracts_joints_loop :
    let chart : Chart := #[
      { box := .start, exit := .next (.node 1) },
      { box := .join, exit := .next (.node 2) },
      { box := .condition (.text "a"), exit := .branch (.node 3) (.node 4) },
      { box := .head, exit := .next (.node 6) },
      { box := .head, exit := .next (.node 5) },
      { box := .input "x", exit := .next (.node 1), index := some 4 },
      { box := .join, exit := .next (.node 7) },
      { box := .stop, exit := .next .nowhere },
      { box := .process "f()", exit := .next (.node 1), index := some 1 }]
    chart.Tidy ∧ ∃ chart', (prune 12 (.node 0)).run chart = .ok () chart' ∧ chart'.Reaches 0 2 ∧
      (∃ condition, chart'[2]? = some condition ∧ condition.index = some 0 ∧
        (Exit.branch (.node 3) (.node 4)).Rel chart.EndsAt condition.exit) ∧
      chart'[1]? = chart[1]? := by
  intro chart
  have htidy : chart.Tidy := by decide
  have hindex : ∀ node ∈ chart.toList, node.index ≠ some 0 := by decide
  obtain ⟨chart', hrun⟩ : ∃ chart', (prune 12 (.node 0)).run chart = .ok () chart' := by
    subst chart
    exact ⟨_, rfl⟩
  obtain ⟨-, hreaches, hnodes⟩ := prune_contracts_joints 12 chart chart' 0 _ htidy
    (fun v node hnode => hindex node (Array.mem_toList_iff.mpr (Array.mem_of_getElem? hnode)))
    rfl rfl hrun
  have hstart : chart.Leads 0 (.node 1) := ⟨_, rfl, List.mem_singleton_self _⟩
  have hjoint : chart.Leads 1 (.node 2) := ⟨_, rfl, List.mem_singleton_self _⟩
  have hbefore : chart.Reaches 0 2 := (Relation.ReflTransGen.single hstart).tail hjoint
  have hafter := (hreaches 2).mpr ⟨hbefore, _, rfl, rfl⟩
  refine ⟨htidy, chart', hrun, hafter, ?_, ?_⟩
  · obtain ⟨condition, hcondition, -, hcontracted, -⟩ := hnodes 2 _ rfl
    obtain ⟨hexit, hmark⟩ := hcontracted hafter
    refine ⟨condition, hcondition, ?_, hexit⟩
    -- A condition branches also after pruning, so it leads somewhere.
    rw [hmark, if_neg]
    intro hopen
    rw [hopen] at hexit
    exact hexit
  · obtain ⟨join, hjoin, -, -, hsame⟩ := hnodes 1 _ rfl
    rw [hjoin, hsame (Or.inl rfl)]
    rfl

end Flowchart.Chart
