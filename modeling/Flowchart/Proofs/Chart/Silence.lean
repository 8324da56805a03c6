import Flowchart.Proofs.Chart.Pruning
import Mathlib.Data.Finset.Card

/-!
# `Flowchart.Proofs.Chart.Silence`: when pruning comes back

The walk that prunes a chart marks a node with one link before it goes on from it, but a condition
only after both of its sides.  So the way of the walk through joints and conditions, the light
nodes, leaves no mark, and the walk can come to the same condition again.  A node is `Quiet` if no
way from it goes through light nodes for ever.

* `Prunes.quiet_of_branch`: if the walk comes back, the conditions that are reached are quiet.
* `comesBack`: if all nodes are quiet, the walk comes back.  The proof is an induction on the nodes
  that are not marked; while their number stays the same, on the way through light nodes; and while
  the walk stays at one node, on the joints that are bypassed there.
* `fault_eq_endless`: if no link of a light node is open, the depth is the only thing that can stop
  the walk.
-/

set_option autoImplicit false

namespace Flowchart.Chart

/-! ### Steps that leave no mark -/

/-- A joint or a branching node.  The walk goes on from it before it has marked it. -/
def Light (chart : Chart) (v : NodeId) : Prop :=
  ∃ node, chart[v]? = some node ∧ (node.box.isJoint = true ∨ node.exit.isBranch = true)

/-- The first node stands directly behind the second one, which is light. -/
def Behind (chart : Chart) (w v : NodeId) : Prop :=
  chart.Light v ∧ chart.Leads v (.node w)

/-- From the node on there is no endless way through light nodes. -/
def Quiet (chart : Chart) (v : NodeId) : Prop :=
  Acc chart.Behind v

/-- A node that is not light is quiet, since every way through light nodes ends there. -/
theorem quiet_of_not_light {chart : Chart} {v : NodeId} (h : ¬ chart.Light v) : chart.Quiet v :=
  Acc.intro v fun _ hw => absurd hw.1 h

/-- A quiet node is not behind itself. -/
theorem Quiet.not_behind_self {chart : Chart} {v : NodeId} (h : chart.Quiet v) :
    ¬ Relation.TransGen chart.Behind v v := by
  have hacc := Acc.transGen h
  clear h
  induction hacc with
  | intro v _ ih => exact fun hself => ih v hself hself

/-- Pruning makes no joints and no branches. -/
theorem Trimmed.not_light {origin chart : Chart} (h : origin.Trimmed chart) {v : NodeId}
    {node : Node} (hnode : chart[v]? = some node) (hbox : node.box.isJoint = false)
    (hexit : node.exit.isBranch = false) : ¬ origin.Light v := by
  rintro ⟨old, hold, hlight⟩
  obtain ⟨node', hnode', htrims⟩ := h.nodes v old hold
  rw [hnode] at hnode'
  cases hnode'
  rw [← htrims.box_eq, ← htrims.exit.isBranch_eq, hbox, hexit] at hlight
  rcases hlight with hlight | hlight <;> exact nomatch hlight

/-- What a joint leads on to stands behind it. -/
theorem Tidy.behind_of_beyond? {chart : Chart} (h : chart.Tidy) {v w : NodeId}
    (hjoint : chart.beyond? (.node v) = some (.node w)) : chart.Behind w v := by
  obtain ⟨u, node, hu, hnode, hbox, hexit⟩ := h.exit_of_beyond? hjoint
  cases hu
  exact ⟨⟨node, hnode, Or.inl hbox⟩, node, hnode, Exit.mem_links_of_next hexit⟩

/-- Joints that lead to a quiet node are quiet. -/
theorem Tidy.quiet_of_passes {chart : Chart} (h : chart.Tidy) {target last : Link}
    (hpass : chart.Passes target last) (hlast : ∀ w, last = .node w → chart.Quiet w) :
    ∀ w, target = .node w → chart.Quiet w := by
  induction hpass using Relation.ReflTransGen.head_induction_on with
  | refl => exact hlast
  | @head target further hjoint _ ih =>
      rintro w rfl
      obtain ⟨u, node, hu, hnode, -, hexit⟩ := h.exit_of_beyond? hjoint
      cases hu
      refine Acc.intro w fun x hx => ih x ?_
      exact (hx.2.eq_of_next hnode hexit).symm

/-! ### Where the walk comes back, the way is quiet -/

section Sides

variable {chart : Chart} {v : NodeId} {node : Node} (htidy : chart.Tidy)
  (hnode : chart[v]? = some node)

include htidy

/-- Before the walk goes on from a side no node is marked. -/
theorem marked_of_sideEntry {side : Branch} {u : NodeId} (h : (chart.sideEntry v side).1.Marked u) :
    chart.Marked u := by
  cases hjoint : chart.beyond? (chart.slot v side) with
  | none => rw [sideEntry_of_final hjoint] at h; exact h
  | some further => rw [sideEntry_of_joint hjoint] at h; exact htidy.marked_of_setSlot h

include hnode

/-- If the walk goes on from a side of a node at a quiet node, then that side was quiet from the
beginning, or the walk goes on at the node itself. -/
theorem quiet_side {origin : Chart} {old : Node} (horigin : origin.Tidy)
    (htrims : origin.Trims old node)
    (hbranch : old.exit.isBranch = true) {side : Branch}
    (hquiet : ∀ w, (chart.sideEntry v side).2 = .node w → origin.Quiet w) :
    origin.Quiet v ∨ ∀ w, old.exit.slot side = .node w → origin.Quiet w := by
  cases hjoint : chart.beyond? (chart.slot v side) with
  | some further =>
      rw [sideEntry_of_joint hjoint] at hquiet
      exact Or.inl (hquiet v rfl)
  | none =>
      rw [sideEntry_of_final hjoint] at hquiet
      simp only [htidy.slot_eq hnode] at hquiet
      exact Or.inr (horigin.quiet_of_passes (htrims.exit.slot hbranch side) hquiet)

end Sides

/-- A walk that comes back began at a quiet node and has marked quiet nodes only.  The induction is
on the walk.  A branching node is quiet since both walks from its sides came back, or since one of
them began at the node itself. -/
theorem Prunes.quiet {origin : Chart} (horigin : origin.Tidy) {chart chart' : Chart} {target : Link}
    (h : Prunes chart target chart') (htrim : origin.Trimmed chart)
    (hfinal : chart.beyond? target = none) (hmarks : ∀ v, chart.Marked v → origin.Quiet v) :
    (∀ v, target = .node v → origin.Quiet v) ∧ ∀ v, chart'.Marked v → origin.Quiet v := by
  induction h with
  | @marked chart v node hnode hindex =>
      refine ⟨?_, hmarks⟩
      rintro u hu
      cases hu
      exact hmarks v ⟨node, hnode, hindex⟩
  | @leaf chart v node hnode hindex hexit =>
      refine ⟨?_, hmarks⟩
      rintro u hu
      cases hu
      rw [(htrim.tidy horigin).exit?_eq, hnode] at hexit
      have hopen : node.exit = .next .nowhere := by simpa using hexit
      exact quiet_of_not_light
        (htrim.not_light hnode (isJoint_of_final hnode hfinal) (by rw [hopen]; rfl))
  | @bypass chart chart' v node following further hnode hindex hexit hjoint _ ih =>
      have hnext := (htrim.tidy horigin).exit_eq hnode hexit
      have hstep := trimmed_setNext hnode (isJoint_of_final hnode hfinal) hnext hjoint
      exact ih (htrim.trans hstep) (by rw [hstep.beyond?_eq]; exact hfinal)
        fun u hu => hmarks u (marked_of_setNext hu)
  | @follow chart chart' v node following hnode hindex hexit hopen hfollow rest ih =>
      have hbox := isJoint_of_final hnode hfinal
      have hnext := (htrim.tidy horigin).exit_eq hnode hexit
      have hquiet := quiet_of_not_light (htrim.not_light hnode hbox (by rw [hnext]; rfl))
      have hstep := trimmed_mark_next hnode hbox hnext ⟨rest.exists_node, hfollow⟩
      refine ⟨fun u hu => ?_, (ih (htrim.trans hstep) (by rw [hstep.beyond?_eq]; exact hfollow)
        fun u hu => ?_).2⟩
      · cases hu
        exact hquiet
      · rcases marked_of_setIndex hu with rfl | hold
        · exact hquiet
        · exact hmarks u hold
  | @branch chart chart₁ chart₂ v node no yes hnode hindex hexit first second ihFirst ihSecond =>
      have htidy := htrim.tidy horigin
      have hbox := isJoint_of_final hnode hfinal
      have hbranch : node.exit.isBranch = true := by rw [htidy.exit_eq hnode hexit]; rfl
      obtain ⟨old, hold, htrims⟩ := htrim.exists_old hnode
      have hbranchOld : old.exit.isBranch = true := htrims.exit.isBranch_eq.symm.trans hbranch
      have hentry := trimmed_sideEntry htidy hnode hbox hbranch .no
      have hentryFinal := beyond?_sideEntry htidy hnode hbox hbranch .no
      obtain ⟨hquiet, hmarks₁⟩ := ihFirst (htrim.trans hentry) hentryFinal
        fun u hu => hmarks u (marked_of_sideEntry htidy hu)
      -- The walk from `no` has left a chart in which the node still branches.
      have hswept := hentry.trans (first.swept (hentry.tidy htidy) hentryFinal).trimmed
      have htrim₁ := htrim.trans hswept
      have htidy₁ := htrim₁.tidy horigin
      obtain ⟨node₁, hnode₁, htrims₁⟩ := htrim₁.nodes v old hold
      have hbranch₁ := htrims₁.exit.isBranch_eq.trans hbranchOld
      have hbox₁ : node₁.box.isJoint = false := by rw [htrims₁.box_eq, ← htrims.box_eq]; exact hbox
      have hentry₁ := trimmed_sideEntry htidy₁ hnode₁ hbox₁ hbranch₁ .yes
      obtain ⟨hquiet₁, hmarks₂⟩ := ihSecond (htrim₁.trans hentry₁)
        (beyond?_sideEntry htidy₁ hnode₁ hbox₁ hbranch₁ .yes)
        fun u hu => hmarks₁ u (marked_of_sideEntry htidy₁ hu)
      have hv : origin.Quiet v := by
        rcases quiet_side htidy hnode horigin htrims hbranchOld hquiet with hv | hno
        · exact hv
        rcases quiet_side htidy₁ hnode₁ horigin htrims₁ hbranchOld hquiet₁ with hv | hyes
        · exact hv
        refine Acc.intro v fun w hw => ?_
        obtain ⟨side, hside⟩ := (Exit.mem_links_iff_slot hbranchOld).mp (hw.2.mem hold)
        cases side with
        | no => exact hno w hside
        | yes => exact hyes w hside
      refine ⟨fun u hu => ?_, fun u hu => ?_⟩
      · cases hu
        exact hv
      · rcases marked_of_setIndex hu with rfl | hold
        · exact hv
        · exact hmarks₂ u hold

/-! ### Where the way is quiet, the walk comes back -/

/-- No link of a light node is open. -/
def Firm (chart : Chart) : Prop :=
  ∀ v, chart.Light v → ¬ chart.Leads v .nowhere

/-- Bypassing joints does not come to an open link. -/
theorem Firm.ne_nowhere {chart : Chart} (hfirm : chart.Firm) (htidy : chart.Tidy)
    {target last : Link} (hpass : chart.Passes target last) (hne : target ≠ .nowhere) :
    last ≠ .nowhere := by
  induction hpass with
  | refl => exact hne
  | tail _ hjoint _ =>
      rintro rfl
      obtain ⟨v, node, -, hnode, hbox, hexit⟩ := htidy.exit_of_beyond? hjoint
      exact hfirm v ⟨node, hnode, Or.inl hbox⟩ ⟨node, hnode, Exit.mem_links_of_next hexit⟩

/-- A joint leads on to a node, which stands behind it. -/
theorem Firm.exists_behind {chart : Chart} (hfirm : chart.Firm) (htidy : chart.Tidy) {v : NodeId}
    {further : Link} (hjoint : chart.beyond? (.node v) = some further) :
    ∃ w, further = .node w ∧ chart.Behind w v := by
  obtain ⟨u, node, hu, hnode, hbox, hexit⟩ := htidy.exit_of_beyond? hjoint
  cases hu
  have hmem : further ∈ node.exit.links := Exit.mem_links_of_next hexit
  have hne : further ≠ .nowhere := by
    rintro rfl
    exact hfirm v ⟨node, hnode, Or.inl hbox⟩ ⟨node, hnode, hmem⟩
  obtain ⟨w, rfl, -⟩ := exists_of_within (htidy.within hnode further hmem) hne
  exact ⟨w, rfl, htidy.behind_of_beyond? hjoint⟩

/-- The node of which a side was turned. -/
theorem Tidy.getElem?_setSlot_self {chart : Chart} (htidy : chart.Tidy) {v : NodeId} {node : Node}
    (hnode : chart[v]? = some node) (side : Branch) (target : Link) :
    (chart.setSlot v side target)[v]?
      = some { node with exit := node.exit.setSlot side target } := by
  rw [htidy.setSlot_eq, if_pos rfl, hnode]
  rfl

/-- Where bypassing joints leads to stands behind them. -/
theorem Tidy.behind_of_passes {chart : Chart} (h : chart.Tidy) {v : NodeId} {last : Link}
    (hpass : chart.Passes (.node v) last) :
    ∀ w, last = .node w → Relation.ReflTransGen chart.Behind w v := by
  induction hpass with
  | refl =>
      intro w hw
      cases hw
      exact Relation.ReflTransGen.refl
  | tail _ hjoint ih =>
      rintro w rfl
      obtain ⟨u, -, rfl, -⟩ := h.exit_of_beyond? hjoint
      exact Relation.ReflTransGen.head (h.behind_of_beyond? hjoint) (ih u rfl)

/-- The mark is the number zero. -/
theorem marked_iff_index {chart : Chart} {v : NodeId} :
    chart.Marked v ↔ chart.index v = some 0 := by
  rw [Marked, index]
  exact Option.bind_eq_some_iff.symm

instance (chart : Chart) : DecidablePred chart.Marked := fun _ =>
  decidable_of_iff _ marked_iff_index.symm

/-- The nodes that are not marked. -/
def unmarked (chart : Chart) : Finset NodeId :=
  {v ∈ Finset.range chart.size | ¬ chart.Marked v}

/-- A node is among those not marked if it is there and has no mark. -/
theorem mem_unmarked {chart : Chart} {v : NodeId} :
    v ∈ chart.unmarked ↔ v < chart.size ∧ ¬ chart.Marked v := by
  simp [unmarked]

/-- Pruning takes no mark away. -/
theorem Trimmed.unmarked_subset {a b : Chart} (h : a.Trimmed b) : b.unmarked ⊆ a.unmarked := by
  intro v hv
  rw [mem_unmarked] at hv ⊢
  rw [h.size] at hv
  exact ⟨hv.1, fun hmarked => hv.2 (h.marked hmarked)⟩

/-- Marking a node leaves fewer nodes that are not marked. -/
theorem unmarked_setIndex_ssubset {chart : Chart} {v : NodeId} {node : Node}
    (hnode : chart[v]? = some node) (hindex : node.index ≠ some 0)
    (h : chart.Trimmed (chart.setIndex v 0)) : (chart.setIndex v 0).unmarked ⊂ chart.unmarked := by
  refine (Finset.ssubset_iff_of_subset h.unmarked_subset).mpr ⟨v, ?_, ?_⟩
  · exact mem_unmarked.mpr ⟨lt_size hnode, fun hmarked => hindex (hmarked.index_eq hnode)⟩
  · exact fun hv => (mem_unmarked.mp hv).2 (marked_setIndex hnode)

/-- The walk from a node comes back in every chart that pruning has left with no more than the given
nodes unmarked. -/
def ComesBack (origin : Chart) (rest : Finset NodeId) (v : NodeId) : Prop :=
  ∀ chart, origin.Trimmed chart → chart.unmarked ⊆ rest → ∃ chart', Prunes chart (.node v) chart'

section Return

variable {origin : Chart} (horigin : origin.Tidy) (hfirm : origin.Firm) {rest : Finset NodeId}
  {v : NodeId} (hfinal : origin.beyond? (.node v) = none)

include horigin hfirm hfinal

/-- From a node with one link the walk comes back, if it does so wherever fewer nodes are unmarked.
The induction is on the joints that the link bypasses. -/
theorem exists_prunes_next (hfewer : ∀ fewer, fewer ⊂ rest → ∀ w, w < origin.size →
      origin.beyond? (.node w) = none → ComesBack origin fewer w) {w : NodeId}
    (hquiet : origin.Quiet w) {chart : Chart} {node : Node} (htrim : origin.Trimmed chart)
    (hrest : chart.unmarked ⊆ rest) (hnode : chart[v]? = some node)
    (hexit : node.exit = .next (.node w)) : ∃ chart', Prunes chart (.node v) chart' := by
  induction hquiet generalizing chart node with
  | intro w _ ih =>
      by_cases hindex : node.index = some 0
      · exact ⟨chart, .marked hnode hindex⟩
      have htidy := htrim.tidy horigin
      have hbox := isJoint_of_final hnode (by rw [htrim.beyond?_eq]; exact hfinal)
      have hexit? : chart.exit? v = some (.next (.node w)) := by
        rw [htidy.exit?_eq, hnode, ← hexit]
        rfl
      have hwithin : w < chart.size :=
        htidy.within hnode (.node w) (Exit.mem_links_of_next hexit)
      cases hjoint : chart.beyond? (.node w) with
      -- A joint is bypassed, and the walk begins anew with the link to what is behind the joint.
      | some further =>
          have hstep := trimmed_setNext hnode hbox hexit hjoint
          have hjoint' := hjoint
          rw [htrim.beyond?_eq] at hjoint'
          obtain ⟨x, rfl, hbehind⟩ := hfirm.exists_behind horigin hjoint'
          obtain ⟨chart', hprunes⟩ := ih x hbehind (htrim.trans hstep)
            (hstep.unmarked_subset.trans hrest)
            (by rw [getElem?_setNext, if_pos rfl, hnode]; rfl) rfl
          exact ⟨chart', .bypass hnode hindex hexit? hjoint hprunes⟩
      -- Otherwise the node is marked, and fewer nodes are unmarked from there on.
      | none =>
          have hstep := trimmed_mark_next hnode hbox hexit ⟨⟨w, rfl⟩, hjoint⟩
          have hless := (unmarked_setIndex_ssubset hnode hindex hstep).trans_subset hrest
          obtain ⟨chart', hprunes⟩ := hfewer _ hless w (by rw [← htrim.size]; exact hwithin)
            (by rw [← htrim.beyond?_eq]; exact hjoint) _ (htrim.trans hstep) (subset_refl _)
          exact ⟨chart', .follow hnode hindex hexit? (fun h => nomatch h) hjoint hprunes⟩

omit hfinal in
/-- From a side of a branching node the walk comes back, if it does so from the nodes behind that
node, and from the node itself once a joint is bypassed there. -/
theorem exists_prunes_side
    (hbehind : ∀ w, Relation.TransGen origin.Behind w v → origin.beyond? (.node w) = none →
      ComesBack origin rest w) {chart : Chart} {node : Node} (htrim : origin.Trimmed chart)
    (hrest : chart.unmarked ⊆ rest) (hnode : chart[v]? = some node)
    (hbranch : node.exit.isBranch = true) {side : Branch} {x : NodeId}
    (hside : node.exit.slot side = .node x)
    (hagain : ∀ y, chart.beyond? (.node x) = some (.node y) → origin.Behind y x →
      ∃ chart', Prunes (chart.setSlot v side (.node y)) (.node v) chart') :
    ∃ chart', Prunes (chart.sideEntry v side).1 (chart.sideEntry v side).2 chart' := by
  have htidy := htrim.tidy horigin
  have hslot := htidy.slot_eq hnode side
  rw [hside] at hslot
  have hmem : Link.node x ∈ node.exit.links := (Exit.mem_links_iff_slot hbranch).mpr ⟨side, hside⟩
  cases hjoint : chart.beyond? (.node x) with
  | some further =>
      rw [sideEntry_of_joint (by rw [hslot]; exact hjoint)]
      have hjoint' := hjoint
      rw [htrim.beyond?_eq] at hjoint'
      obtain ⟨y, rfl, hy⟩ := hfirm.exists_behind horigin hjoint'
      exact hagain y hjoint hy
  | none =>
      rw [sideEntry_of_final (by rw [hslot]; exact hjoint), hslot]
      obtain ⟨old, hold, htrims⟩ := htrim.exists_old hnode
      obtain ⟨link, hlink, hpass⟩ := htrims.exit.exists_old hmem
      have hlight : origin.Light v :=
        ⟨old, hold, Or.inr (htrims.exit.isBranch_eq.symm.trans hbranch)⟩
      have hne : link ≠ .nowhere := fun h => hfirm v hlight ⟨old, hold, h ▸ hlink⟩
      obtain ⟨z, rfl, -⟩ := exists_of_within (horigin.within hold link hlink) hne
      have hpath := horigin.behind_of_passes hpass x rfl
      exact hbehind x (Relation.TransGen.tail' hpath ⟨hlight, old, hold, hlink⟩)
        (by rw [← htrim.beyond?_eq]; exact hjoint) chart htrim hrest

omit hfinal in
/-- The sides of a branching node lead to nodes, and so they did from the beginning. -/
theorem exists_sides {chart : Chart} {node : Node} (htrim : origin.Trimmed chart)
    (hnode : chart[v]? = some node) (hbranch : node.exit.isBranch = true) :
    ∃ a b, node.exit = .branch (.node a) (.node b) := by
  obtain ⟨old, hold, htrims⟩ := htrim.exists_old hnode
  have hlight : origin.Light v :=
    ⟨old, hold, Or.inr (htrims.exit.isBranch_eq.symm.trans hbranch)⟩
  have hlinks : ∀ target ∈ node.exit.links, ∃ w, target = .node w := by
    intro target ht
    obtain ⟨link, hlink, hpass⟩ := htrims.exit.exists_old ht
    have hne : link ≠ .nowhere := fun h => hfirm v hlight ⟨old, hold, h ▸ hlink⟩
    obtain ⟨w, hw, -⟩ := exists_of_within ((htrim.tidy horigin).within hnode target ht)
      (hfirm.ne_nowhere horigin hpass hne)
    exact ⟨w, hw⟩
  cases hexit : node.exit with
  | next target => rw [hexit] at hbranch; exact nomatch hbranch
  | branch no yes =>
      rw [hexit] at hlinks
      obtain ⟨a, rfl⟩ := hlinks no List.mem_cons_self
      obtain ⟨b, rfl⟩ := hlinks yes (List.mem_cons_of_mem _ List.mem_cons_self)
      exact ⟨a, b, rfl⟩

/-- From a branching node the walk comes back, if it does so from the nodes behind it.  The
induction is on the joints that its two sides bypass: the walk from `no` may have bypassed some at
either side before the walk from `yes` begins. -/
theorem exists_prunes_branch (hquiet : ∀ w, origin.Quiet w)
    (hbehind : ∀ w, Relation.TransGen origin.Behind w v → origin.beyond? (.node w) = none →
      ComesBack origin rest w) (a b : NodeId) :
    ∀ (chart : Chart) (node : Node), origin.Trimmed chart → chart.unmarked ⊆ rest →
      chart[v]? = some node → node.exit = .branch (.node a) (.node b) →
      ∃ chart', Prunes chart (.node v) chart' := by
  have hwf : WellFounded (Relation.TransGen origin.Behind) := ⟨fun w => Acc.transGen (hquiet w)⟩
  induction a using hwf.induction generalizing b with
  | _ a iha =>
    induction b using hwf.induction with
    | _ b ihb =>
      intro chart node htrim hrest hnode hexit
      by_cases hindex : node.index = some 0
      · exact ⟨chart, .marked hnode hindex⟩
      have htidy := htrim.tidy horigin
      have hbox := isJoint_of_final hnode (by rw [htrim.beyond?_eq]; exact hfinal)
      have hbranch : node.exit.isBranch = true := by rw [hexit]; rfl
      have hexit? : chart.exit? v = some (.branch (.node a) (.node b)) := by
        rw [htidy.exit?_eq, hnode, ← hexit]
        rfl
      obtain ⟨chart₁, first⟩ : ∃ chart', Prunes (chart.sideEntry v .no).1 (chart.sideEntry v .no).2
          chart' := by
        refine exists_prunes_side horigin hfirm hbehind htrim hrest hnode hbranch
          (by rw [hexit]; rfl) fun y hjoint hy => ?_
        have hstep := trimmed_setSlot htidy hnode hbox hbranch .no
          (by rw [hexit]; exact hjoint)
        exact iha y (Relation.TransGen.single hy) b _ _ (htrim.trans hstep)
          (hstep.unmarked_subset.trans hrest) (htidy.getElem?_setSlot_self hnode .no _)
          (by rw [hexit]; rfl)
      -- The walk from `no` may have trimmed both sides of the node, but it has moved them further
      -- behind.
      have hentry := trimmed_sideEntry htidy hnode hbox hbranch .no
      have hswept := hentry.trans (first.swept (hentry.tidy htidy)
        (beyond?_sideEntry htidy hnode hbox hbranch .no)).trimmed
      have htrim₁ := htrim.trans hswept
      have hrest₁ := hswept.unmarked_subset.trans hrest
      have htidy₁ := htrim₁.tidy horigin
      obtain ⟨node₁, hnode₁, htrims₁⟩ := hswept.nodes v node hnode
      have hbranch₁ := htrims₁.exit.isBranch_eq.trans hbranch
      have hbox₁ : node₁.box.isJoint = false := by rw [htrims₁.box_eq]; exact hbox
      obtain ⟨a₁, b₁, hexit₁⟩ := exists_sides horigin hfirm htrim₁ hnode₁ hbranch₁
      have hrel := htrims₁.exit
      rw [hexit, hexit₁, htrim.passes_eq] at hrel
      have ha : Relation.ReflTransGen origin.Behind a₁ a := horigin.behind_of_passes hrel.1 a₁ rfl
      have hb : Relation.ReflTransGen origin.Behind b₁ b := horigin.behind_of_passes hrel.2 b₁ rfl
      obtain ⟨chart₂, second⟩ : ∃ chart', Prunes (chart₁.sideEntry v .yes).1
          (chart₁.sideEntry v .yes).2 chart' := by
        refine exists_prunes_side horigin hfirm hbehind htrim₁ hrest₁ hnode₁ hbranch₁
          (by rw [hexit₁]; rfl) fun y hjoint hy => ?_
        have hstep := trimmed_setSlot htidy₁ hnode₁ hbox₁ hbranch₁ .yes
          (by rw [hexit₁]; exact hjoint)
        have hyb : Relation.TransGen origin.Behind y b := Relation.TransGen.head' hy hb
        have hget := htidy₁.getElem?_setSlot_self hnode₁ .yes (.node y)
        have htrim₂ := htrim₁.trans hstep
        have hrest₂ := hstep.unmarked_subset.trans hrest₁
        -- Either `no` is as it was, or it has bypassed a joint.
        rcases Relation.reflTransGen_iff_eq_or_transGen.mp ha with heq | hless
        · subst heq
          exact ihb y hyb _ _ htrim₂ hrest₂ hget (by rw [hexit₁]; rfl)
        · exact iha a₁ hless y _ _ htrim₂ hrest₂ hget (by rw [hexit₁]; rfl)
      exact ⟨_, .branch hnode hindex hexit? first second⟩

/-- From every node that is no joint the walk comes back, if there is no endless way through light
nodes. -/
theorem comesBack (hquiet : ∀ w, origin.Quiet w) (hv : v < origin.size) (rest : Finset NodeId) :
    ComesBack origin rest v := by
  have hwf : WellFounded (Relation.TransGen origin.Behind) := ⟨fun w => Acc.transGen (hquiet w)⟩
  -- A node that leads on is marked first, which leaves fewer nodes; from a node that branches the
  -- walk goes on without a mark, but to nodes behind it.
  induction rest using Finset.strongInduction generalizing v with
  | H rest ihRest =>
    induction v using hwf.induction with
    | _ v ihv =>
      intro chart htrim hrest
      obtain ⟨old, hold⟩ := exists_node hv
      obtain ⟨node, hnode, htrims⟩ := htrim.nodes v old hold
      by_cases hindex : node.index = some 0
      · exact ⟨chart, .marked hnode hindex⟩
      have htidy := htrim.tidy horigin
      cases hbranch : node.exit.isBranch with
      | true =>
          obtain ⟨a, b, hexit⟩ := exists_sides horigin hfirm htrim hnode hbranch
          have hbehind : ∀ w, Relation.TransGen origin.Behind w v →
              origin.beyond? (.node w) = none → ComesBack origin rest w := by
            intro w hw hlast
            obtain ⟨x, ⟨-, found, hfound, ht⟩, -⟩ := Relation.TransGen.head'_iff.mp hw
            exact ihv w hw hlast (horigin.within hfound _ ht)
          exact exists_prunes_branch horigin hfirm hfinal hquiet hbehind a b chart node htrim hrest
            hnode hexit
      | false =>
          cases hexit : node.exit with
          | branch no yes => rw [hexit] at hbranch; exact nomatch hbranch
          | next target =>
              by_cases hopen : target = .nowhere
              · refine ⟨chart, .leaf hnode hindex (Or.inr ?_)⟩
                rw [htidy.exit?_eq, hnode, ← hopen, ← hexit]
                rfl
              · obtain ⟨w, rfl, hw⟩ := exists_of_within (htidy.within hnode target
                  (Exit.mem_links_of_next hexit)) hopen
                exact exists_prunes_next horigin hfirm hfinal
                  (fun fewer hfewer x hx hlast => ihRest fewer hfewer hlast hx) (hquiet w) htrim
                  hrest hnode hexit

/-- From a side of a branching node the walk goes on at a node of the chart that is no joint. -/
theorem exists_sideEntry {chart : Chart} {node : Node} (htrim : origin.Trimmed chart)
    (hnode : chart[v]? = some node) (hbranch : node.exit.isBranch = true) (side : Branch) :
    origin.Trimmed (chart.sideEntry v side).1 ∧ ∃ x, (chart.sideEntry v side).2 = .node x ∧
      x < origin.size ∧ origin.beyond? (.node x) = none := by
  have htidy := htrim.tidy horigin
  have hbox := isJoint_of_final hnode (by rw [htrim.beyond?_eq]; exact hfinal)
  have hentry := htrim.trans (trimmed_sideEntry htidy hnode hbox hbranch side)
  have hlast := beyond?_sideEntry htidy hnode hbox hbranch side
  rw [hentry.beyond?_eq] at hlast
  refine ⟨hentry, ?_⟩
  cases hjoint : chart.beyond? (chart.slot v side) with
  | some further =>
      rw [sideEntry_of_joint hjoint] at hlast ⊢
      exact ⟨v, rfl, htrim.size ▸ lt_size hnode, hlast⟩
  | none =>
      rw [sideEntry_of_final hjoint, htidy.slot_eq hnode] at hlast ⊢
      have hwithin := htidy.within hnode _ ((Exit.mem_links_iff_slot hbranch).mpr ⟨side, rfl⟩)
      obtain ⟨a, b, hexit⟩ := exists_sides horigin hfirm htrim hnode hbranch
      obtain ⟨x, hx, hlt⟩ := exists_of_within hwithin (by rw [hexit]; cases side <;> exact nofun)
      exact ⟨x, hx, htrim.size ▸ hlt, hx ▸ hlast⟩

/-- The walk never fails but for its depth. -/
theorem fault_eq_endless (hv : v < origin.size) {depth : Nat} {chart : Chart}
    (htrim : origin.Trimmed chart) {fault : Fault} {chart' : Chart}
    (h : (prune depth (.node v)).run chart = .error fault chart') : fault = .endless := by
  induction depth generalizing v chart with
  | zero => cases h; rfl
  | succ depth ih =>
      have htidy := htrim.tidy horigin
      obtain ⟨old, hold⟩ := exists_node hv
      obtain ⟨node, hnode, htrims⟩ := htrim.nodes v old hold
      have hbox := isJoint_of_final hnode (by rw [htrim.beyond?_eq]; exact hfinal)
      by_cases hindex : node.index = some 0
      · rw [run_prune_node hnode, if_pos hindex] at h
        exact nomatch h
      have hexit? : chart.exit? v = some node.exit := by rw [htidy.exit?_eq, hnode]; rfl
      cases hexit : node.exit with
      | branch no yes =>
          -- The walk fails at one of the two sides, and what each side leads to is there.
          have hbranch : node.exit.isBranch = true := by rw [hexit]; rfl
          rw [run_prune_node hnode, if_neg hindex, hexit?, hexit] at h
          simp only at h
          obtain ⟨hentry, x, hx, hxlt, hxlast⟩ :=
            exists_sideEntry horigin hfirm hfinal htrim hnode hbranch .no
          rw [hx] at h
          cases hfirst : (prune depth (.node x)).run (chart.sideEntry v .no).1 with
          | error fault₁ chart₁ =>
              rw [hfirst] at h
              cases h
              exact ih hxlast hxlt hentry hfirst
          | ok _ chart₁ =>
              rw [hfirst] at h
              simp only at h
              have htrim₁ := hentry.trans ((prunes_of_run hfirst).swept (hentry.tidy horigin)
                (by rw [hentry.beyond?_eq]; exact hxlast)).trimmed
              obtain ⟨node₁, hnode₁, htrims₁⟩ := htrim₁.nodes v old hold
              have hbranch₁ := htrims₁.exit.isBranch_eq.trans
                (htrims.exit.isBranch_eq.symm.trans hbranch)
              obtain ⟨hentry₁, y, hy, hylt, hylast⟩ :=
                exists_sideEntry horigin hfirm hfinal htrim₁ hnode₁ hbranch₁ .yes
              rw [hy] at h
              cases hsecond : (prune depth (.node y)).run (chart₁.sideEntry v .yes).1 with
              | error fault₂ chart₂ =>
                  rw [hsecond] at h
                  cases h
                  exact ih hylast hylt hentry₁ hsecond
              | ok _ chart₂ =>
                  rw [hsecond] at h
                  exact nomatch h
      | next target =>
          rw [hexit] at hexit?
          by_cases hopen : target = .nowhere
          · rw [run_prune_node hnode, if_neg hindex, hexit?, hopen] at h
            exact nomatch h
          rw [run_prune_next hnode hindex hexit? hopen] at h
          obtain ⟨w, rfl, hw⟩ := exists_of_within (htidy.within hnode target
            (Exit.mem_links_of_next hexit)) hopen
          cases hjoint : chart.beyond? (.node w) with
          | some further =>
              rw [hjoint] at h
              exact ih hfinal hv (htrim.trans (trimmed_setNext hnode hbox hexit hjoint)) h
          | none =>
              rw [hjoint] at h
              exact ih (by rw [← htrim.beyond?_eq]; exact hjoint) (htrim.size ▸ hw)
                (htrim.trans (trimmed_mark_next hnode hbox hexit ⟨⟨w, rfl⟩, hjoint⟩)) h

end Return

/-- If the walk from the start comes back, the branching nodes that it could reach are quiet. -/
theorem Prunes.quiet_of_branch {chart chart' : Chart} {start : NodeId}
    (h : Prunes chart (.node start) chart') (htidy : chart.Tidy)
    (hfinal : chart.beyond? (.node start) = none) (hunmarked : ∀ v, ¬ chart.Marked v) {v : NodeId}
    {node : Node} (hnode : chart[v]? = some node) (hbranch : node.exit.isBranch = true)
    (hreaches : chart.Reaches start v) : chart.Quiet v := by
  have hlast := beyond?_eq_none hnode (htidy.isJoint_of_isBranch hnode hbranch)
  -- The walk has been at the node; it has marked it, since a branch does not lead nowhere.
  obtain ⟨node', hnode', hindex | hopen⟩ :=
    h.settled_of_reached_before htidy hfinal hunmarked hreaches hlast
  · exact (h.quiet htidy (Trimmed.refl chart) hfinal fun u hu => absurd hu (hunmarked u)).2 v
      ⟨node', hnode', hindex⟩
  · obtain ⟨old, hold, htrims⟩ := (h.swept htidy hfinal).trimmed.exists_old hnode'
    rw [hnode] at hold
    cases hold
    have hform := htrims.exit.isBranch_eq
    rw [hopen, hbranch] at hform
    exact nomatch hform

end Flowchart.Chart
