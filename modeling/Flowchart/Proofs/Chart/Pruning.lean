import Flowchart.Chart.Prune
import Flowchart.Proofs.Chart.Edits

/-!
# `Flowchart.Proofs.Chart.Pruning`: what pruning does to a chart

`prune` is a walk with a limited depth that changes the chart on its way.  `Prunes` says the same
without the depth, one rule for each way in which the walk comes back: `prunes_of_run` and
`Prunes.run` take the one to the other, and the second adds that a greater depth changes nothing.

The rest is about walks that come back.  The walk edits a node while it is still at it: after a
joint has been bypassed at one side of a condition it begins again at the condition, and that second
walk may do both sides and mark the node.  So what is proved of every walk is not what it has done
at a node, but how the charts before and after are related:

* `Trimmed`: links have bypassed joints, joints are as before, and a node may have got its mark once
  its links led to nodes that are no joints.  Such a node never changes again.
* `Closes`: the nodes that were marked on the way lead to nodes that are settled, which is to say
  that a further walk comes back from them at once.
* `Prunes.swept`: every walk that comes back has both properties, and has settled the node at which
  it began.

With no node marked at the beginning this gives both directions of what pruning is for:
`Prunes.settled_of_reached_after` (no joint is reached any more) and `Prunes.reaches_after` (every
other node that was reached still is), so that the walk has left no node out.
-/

set_option autoImplicit false

namespace Flowchart.Chart

/-! ### Pruning as a relation -/

/-- Where the walk goes on from one side of a branching node, and in which chart: at the node again
if a joint was bypassed there, and else at what the side leads to. -/
def sideEntry (chart : Chart) (v : NodeId) (side : Branch) : Chart × Link :=
  match chart.beyond? (chart.slot v side) with
  | some further => (chart.setSlot v side further, .node v)
  | none => (chart, chart.slot v side)

/-- Pruning what a link leads to turns the first chart into the second.  The rules are the ways in
which the walk comes back, whatever its depth. -/
inductive Prunes : Chart → Link → Chart → Prop
  | marked {chart : Chart} {v : NodeId} {node : Node} (hnode : chart[v]? = some node)
      (hindex : node.index = some 0) : Prunes chart (.node v) chart
  | leaf {chart : Chart} {v : NodeId} {node : Node} (hnode : chart[v]? = some node)
      (hindex : node.index ≠ some 0)
      (hexit : chart.exit? v = none ∨ chart.exit? v = some (.next .nowhere)) :
      Prunes chart (.node v) chart
  | bypass {chart chart' : Chart} {v : NodeId} {node : Node} {following further : Link}
      (hnode : chart[v]? = some node) (hindex : node.index ≠ some 0)
      (hexit : chart.exit? v = some (.next following))
      (hjoint : chart.beyond? following = some further)
      (rest : Prunes (chart.setNext v further) (.node v) chart') : Prunes chart (.node v) chart'
  | follow {chart chart' : Chart} {v : NodeId} {node : Node} {following : Link}
      (hnode : chart[v]? = some node) (hindex : node.index ≠ some 0)
      (hexit : chart.exit? v = some (.next following)) (hopen : following ≠ .nowhere)
      (hfinal : chart.beyond? following = none)
      (rest : Prunes (chart.setIndex v 0) following chart') : Prunes chart (.node v) chart'
  | branch {chart chart₁ chart₂ : Chart} {v : NodeId} {node : Node} {no yes : Link}
      (hnode : chart[v]? = some node) (hindex : node.index ≠ some 0)
      (hexit : chart.exit? v = some (.branch no yes))
      (first : Prunes (chart.sideEntry v .no).1 (chart.sideEntry v .no).2 chart₁)
      (second : Prunes (chart₁.sideEntry v .yes).1 (chart₁.sideEntry v .yes).2 chart₂) :
      Prunes chart (.node v) (chart₂.setIndex v 0)

/-- A joint at a side is bypassed, and the walk begins anew at the node. -/
theorem sideEntry_of_joint {chart : Chart} {v : NodeId} {side : Branch} {further : Link}
    (h : chart.beyond? (chart.slot v side) = some further) :
    chart.sideEntry v side = (chart.setSlot v side further, .node v) := by
  rw [sideEntry, h]

/-- Without a joint the walk goes on behind the side. -/
theorem sideEntry_of_final {chart : Chart} {v : NodeId} {side : Branch}
    (h : chart.beyond? (chart.slot v side) = none) :
    chart.sideEntry v side = (chart, chart.slot v side) := by
  rw [sideEntry, h]

/-- The walk from a side of a branch. -/
theorem run_pruneSide (walk : Link → Pass Unit) (v : NodeId) (side : Branch) (chart : Chart) :
    (pruneSide walk v side).run chart
      = (walk (chart.sideEntry v side).2).run (chart.sideEntry v side).1 := by
  simp only [pruneSide, EStateM.run_bind, EStateM.run_get]
  cases h : chart.beyond? (chart.slot v side) with
  | none => rw [sideEntry_of_final h]
  | some further => rw [sideEntry_of_joint h]; rfl

/-- One level of the walk, at a node of the chart. -/
theorem run_prune_node {chart : Chart} {v : NodeId} {node : Node} (hnode : chart[v]? = some node)
    (depth : Nat) :
    (prune (depth + 1) (.node v)).run chart
      = if node.index = some 0 then .ok () chart else
        match chart.exit? v with
        | some (.branch _ _) =>
          match (prune depth (chart.sideEntry v .no).2).run (chart.sideEntry v .no).1 with
          | .error fault chart => .error fault chart
          | .ok _ chart =>
            match (prune depth (chart.sideEntry v .yes).2).run (chart.sideEntry v .yes).1 with
            | .error fault chart => .error fault chart
            | .ok _ chart => .ok () (chart.setIndex v 0)
        | some (.next .nowhere) | none => .ok () chart
        | some (.next following) =>
          match chart.beyond? following with
          | some further => (prune depth (.node v)).run (chart.setNext v further)
          | none => (prune depth following).run (chart.setIndex v 0) := by
  rw [prune]
  simp only [EStateM.run_bind, EStateM.run_get, require, hnode, EStateM.run_pure]
  by_cases hindex : node.index = some 0
  · rw [if_pos hindex, if_pos hindex, EStateM.run_pure]
  · rw [if_neg hindex, if_neg hindex]
    simp only [EStateM.run_bind, EStateM.run_get]
    cases chart.exit? v with
    | none => rfl
    | some exit =>
        cases exit with
        | branch no yes =>
            simp only [EStateM.run_bind, run_pruneSide]
            cases (prune depth (chart.sideEntry v .no).2).run (chart.sideEntry v .no).1 with
            | error fault chart => rfl
            | ok _ chart₁ =>
                simp only
                cases (prune depth (chart₁.sideEntry v .yes).2).run (chart₁.sideEntry v .yes).1 with
                | error fault chart => rfl
                | ok _ chart => rfl
        | next following =>
            cases following with
            | nowhere => rfl
            | node w =>
                simp only [EStateM.run_bind, EStateM.run_get]
                cases chart.beyond? (.node w) with
                | none => rfl
                | some further => rfl
            | fork w =>
                simp only [EStateM.run_bind, EStateM.run_get]
                cases chart.beyond? (.fork w) with
                | none => rfl
                | some further => rfl

/-- One level of the walk, at an unmarked node that leads on to a link that is not open. -/
theorem run_prune_next {chart : Chart} {v : NodeId} {node : Node} {following : Link}
    (hnode : chart[v]? = some node) (hindex : node.index ≠ some 0)
    (hexit : chart.exit? v = some (.next following)) (hopen : following ≠ .nowhere) (depth : Nat) :
    (prune (depth + 1) (.node v)).run chart
      = match chart.beyond? following with
        | some further => (prune depth (.node v)).run (chart.setNext v further)
        | none => (prune depth following).run (chart.setIndex v 0) := by
  rw [run_prune_node hnode, if_neg hindex, hexit]
  cases following with
  | nowhere => exact absurd rfl hopen
  | node w => rfl
  | fork w => rfl

/-- A walk that comes back has found a node. -/
theorem exists_node_of_run_prune {depth : Nat} {target : Link} {chart chart' : Chart}
    (h : (prune (depth + 1) target).run chart = .ok () chart') :
    ∃ v node, target = .node v ∧ chart[v]? = some node := by
  cases target with
  | nowhere => exact nomatch h
  | fork owner => exact nomatch h
  | node v =>
      cases hnode : chart[v]? with
      | some node => exact ⟨v, node, rfl, hnode⟩
      | none =>
          rw [prune] at h
          simp only [EStateM.run_bind, EStateM.run_get, require, hnode] at h
          exact nomatch h

/-- A walk that comes back has gone by the rules. -/
theorem prunes_of_run {depth : Nat} {target : Link} {chart chart' : Chart}
    (h : (prune depth target).run chart = .ok () chart') : Prunes chart target chart' := by
  induction depth generalizing target chart chart' with
  | zero => exact nomatch h
  | succ depth ih =>
      obtain ⟨v, node, rfl, hnode⟩ := exists_node_of_run_prune h
      rw [run_prune_node hnode] at h
      by_cases hindex : node.index = some 0
      · rw [if_pos hindex] at h
        cases h
        exact .marked hnode hindex
      · rw [if_neg hindex] at h
        split at h
        · next no yes hexit =>
            cases hfirst : (prune depth (chart.sideEntry v .no).2).run
                (chart.sideEntry v .no).1 with
            | error fault chart₁ => rw [hfirst] at h; exact nomatch h
            | ok _ chart₁ =>
                rw [hfirst] at h
                simp only at h
                cases hsecond : (prune depth (chart₁.sideEntry v .yes).2).run
                    (chart₁.sideEntry v .yes).1 with
                | error fault chart₂ => rw [hsecond] at h; exact nomatch h
                | ok _ chart₂ =>
                    rw [hsecond] at h
                    cases h
                    exact .branch hnode hindex hexit (ih hfirst) (ih hsecond)
        · next hexit =>
            cases h
            exact .leaf hnode hindex (Or.inr hexit)
        · next hexit =>
            cases h
            exact .leaf hnode hindex (Or.inl hexit)
        · next following hopen hexit =>
            cases hjoint : chart.beyond? following with
            | some further =>
                rw [hjoint] at h
                exact .bypass hnode hindex hexit hjoint (ih h)
            | none =>
                rw [hjoint] at h
                exact .follow hnode hindex hexit hopen hjoint (ih h)

/-- A walk that comes back does so at every greater depth, with the same chart. -/
theorem Prunes.run {target : Link} {chart chart' : Chart} (h : Prunes chart target chart') :
    ∃ need, ∀ depth, need ≤ depth → (prune depth target).run chart = .ok () chart' := by
  -- One level is used up at the node, so that no walk comes back at depth zero.
  have level : ∀ {need : Nat} {p : Nat → Prop}, (∀ depth, need ≤ depth → p (depth + 1)) →
      ∀ depth, need + 1 ≤ depth → p depth := by
    intro need p h depth hdepth
    cases depth with
    | zero => exact absurd hdepth (Nat.not_succ_le_zero need)
    | succ depth => exact h depth (Nat.le_of_succ_le_succ hdepth)
  induction h with
  | marked hnode hindex =>
      refine ⟨1, level fun depth _ => ?_⟩
      rw [run_prune_node hnode, if_pos hindex]
  | leaf hnode hindex hexit =>
      refine ⟨1, level fun depth _ => ?_⟩
      rw [run_prune_node hnode, if_neg hindex]
      rcases hexit with hexit | hexit <;> rw [hexit]
  | bypass hnode hindex hexit hjoint _ ih =>
      obtain ⟨need, ih⟩ := ih
      refine ⟨need + 1, level fun depth hdepth => ?_⟩
      rw [run_prune_next hnode hindex hexit (by rintro rfl; exact nomatch hjoint), hjoint]
      exact ih depth hdepth
  | follow hnode hindex hexit hopen hfinal _ ih =>
      obtain ⟨need, ih⟩ := ih
      refine ⟨need + 1, level fun depth hdepth => ?_⟩
      rw [run_prune_next hnode hindex hexit hopen, hfinal]
      exact ih depth hdepth
  | branch hnode hindex hexit _ _ ihFirst ihSecond =>
      obtain ⟨needFirst, ihFirst⟩ := ihFirst
      obtain ⟨needSecond, ihSecond⟩ := ihSecond
      refine ⟨max needFirst needSecond + 1, level fun depth hdepth => ?_⟩
      rw [run_prune_node hnode, if_neg hindex, hexit]
      simp only
      rw [ihFirst depth (Nat.le_trans (Nat.le_max_left ..) hdepth)]
      simp only
      rw [ihSecond depth (Nat.le_trans (Nat.le_max_right ..) hdepth)]

/-! ### Past the joints -/

/-- The second link is what the first one becomes by bypassing joints, any number of them. -/
def Passes (chart : Chart) : Link → Link → Prop :=
  Relation.ReflTransGen fun target further => chart.beyond? target = some further

/-- The link leads to a node that is no joint. -/
def Lands (chart : Chart) (target : Link) : Prop :=
  (∃ v, target = .node v) ∧ chart.beyond? target = none

/-- A link that does not lead to a joint stays as it is. -/
theorem Passes.eq_of_final {chart : Chart} {target target' : Link} (h : chart.Passes target target')
    (hfinal : chart.beyond? target = none) : target' = target := by
  rcases Relation.ReflTransGen.cases_head h with heq | ⟨further, hfurther, -⟩
  · exact heq.symm
  · rw [hfinal] at hfurther
    exact nomatch hfurther

/-- Where bypassing ends does not depend on how far it has come. -/
theorem Passes.final_unique {chart : Chart} {target end₁ end₂ : Link}
    (h₁ : chart.Passes target end₁) (h₂ : chart.Passes target end₂)
    (hfinal₁ : chart.beyond? end₁ = none) (hfinal₂ : chart.beyond? end₂ = none) : end₁ = end₂ := by
  have hunique : Relator.RightUnique fun a b => chart.beyond? a = some b := by
    intro a b c hb hc
    exact Option.some.inj (hb.symm.trans hc)
  rcases Relation.ReflTransGen.total_of_right_unique hunique h₁ h₂ with h | h
  · exact (Passes.eq_of_final h hfinal₁).symm
  · exact Passes.eq_of_final h hfinal₂

/-- What stands behind a node: only a joint has anything behind it. -/
theorem beyond?_node {chart : Chart} {v : NodeId} {node : Node} (hnode : chart[v]? = some node) :
    chart.beyond? (.node v)
      = if node.box.isJoint = true then some (node.exit.behind v) else none := by
  simp [beyond?, Link.node?, hnode]

/-- Behind a joint of a tidy chart is the link that the joint leads on to. -/
theorem Tidy.exit_of_beyond? {chart : Chart} (h : chart.Tidy) {target further : Link}
    (hjoint : chart.beyond? target = some further) :
    ∃ v node, target = .node v ∧ chart[v]? = some node ∧ node.box.isJoint = true ∧
      node.exit = .next further := by
  cases target with
  | nowhere => exact nomatch hjoint
  | fork owner => exact nomatch hjoint
  | node v =>
      cases hnode : chart[v]? with
      | none => simp [beyond?, Link.node?, hnode] at hjoint
      | some node =>
          rw [beyond?_node hnode] at hjoint
          by_cases hbox : node.box.isJoint = true
          · obtain ⟨next, hnext⟩ := h.joint_exit hnode hbox
            rw [if_pos hbox, hnext] at hjoint
            cases hjoint
            exact ⟨v, node, rfl, hnode, hbox, hnext⟩
          · rw [if_neg hbox] at hjoint
            exact nomatch hjoint

/-- Bypassing joints does not leave the chart. -/
theorem Tidy.within_of_passes {chart : Chart} (h : chart.Tidy) {target target' : Link}
    (hpass : chart.Passes target target') (hwithin : target.Within chart.size) :
    target'.Within chart.size := by
  induction hpass with
  | refl => exact hwithin
  | tail _ hstep _ =>
      obtain ⟨v, node, -, hnode, -, hexit⟩ := h.exit_of_beyond? hstep
      exact h.within hnode _ (Exit.mem_links_of_next hexit)

/-! ### What pruning changes -/

/-- What a node becomes in pruning.  Its links bypass joints, and it may be marked once all of them
lead to nodes that are none; a joint stays as it is. -/
structure Trims (chart : Chart) (node node' : Node) : Prop where
  same : node' = { node with exit := node'.exit, index := node'.index }
  exit : node.exit.Rel chart.Passes node'.exit
  joint : node.box.isJoint = true → node' = node
  index : node'.index = node.index ∨
    node'.index = some 0 ∧ ∀ target ∈ node'.exit.links, chart.Lands target

/-- What a chart becomes in pruning. -/
structure Trimmed (chart chart' : Chart) : Prop where
  size : chart'.size = chart.size
  nodes : ∀ (v : NodeId) (node : Node), chart[v]? = some node → ∃ node', chart'[v]? = some node' ∧
    chart.Trims node node'

/-- A node that stays as it is. -/
theorem Trims.refl (chart : Chart) (node : Node) : chart.Trims node node where
  same := rfl
  exit := Exit.Rel.refl (fun _ => Relation.ReflTransGen.refl) _
  joint := fun _ => rfl
  index := Or.inl rfl

/-- Pruning changes no boxes. -/
theorem Trims.box_eq {chart : Chart} {node node' : Node} (h : chart.Trims node node') :
    node'.box = node.box := by
  rw [h.same]

/-- A chart that stays as it is. -/
theorem Trimmed.refl (chart : Chart) : chart.Trimmed chart where
  size := rfl
  nodes := fun _ node hnode => ⟨node, hnode, Trims.refl chart node⟩

/-- A chart is trimmed if one of its nodes is. -/
theorem trimmed_of_node {chart chart' : Chart} {v : NodeId} {node : Node} (node' : Node)
    (hsize : chart'.size = chart.size) (hnode : chart[v]? = some node)
    (hnode' : chart'[v]? = some node') (hother : ∀ w, v ≠ w → chart'[w]? = chart[w]?)
    (h : chart.Trims node node') : chart.Trimmed chart' where
  size := hsize
  nodes := by
    intro w old hold
    by_cases hvw : v = w
    · subst hvw
      rw [hnode] at hold
      cases hold
      exact ⟨node', hnode', h⟩
    · exact ⟨old, by rw [hother w hvw, hold], Trims.refl chart old⟩

namespace Trimmed

variable {a b c : Chart}

/-- What stands behind a link is the same before and after. -/
theorem beyond?_eq (h : a.Trimmed b) : b.beyond? = a.beyond? := by
  funext target
  cases target with
  | nowhere => rfl
  | fork owner => rfl
  | node v =>
      cases hnode : a[v]? with
      | none =>
          simp [beyond?, Link.node?, hnode, getElem?_eq_none_of_size h.size hnode]
      | some node =>
          obtain ⟨node', hnode', htrims⟩ := h.nodes v node hnode
          rw [beyond?_node hnode, beyond?_node hnode']
          by_cases hbox : node.box.isJoint = true
          · rw [htrims.joint hbox]
          · rw [htrims.box_eq, if_neg hbox, if_neg hbox]

/-- Where bypassing leads is the same in a trimmed chart. -/
theorem passes_eq (h : a.Trimmed b) : b.Passes = a.Passes := by
  unfold Passes
  rw [h.beyond?_eq]

/-- Whether a link leads to a node that is no joint is the same in a trimmed chart. -/
theorem lands_eq (h : a.Trimmed b) : b.Lands = a.Lands := by
  unfold Lands
  rw [h.beyond?_eq]

/-- Every node of the trimmed chart was there before. -/
theorem exists_old (h : a.Trimmed b) {v : NodeId} {node' : Node} (hnode' : b[v]? = some node') :
    ∃ node, a[v]? = some node ∧ a.Trims node node' := by
  have hlt : v < a.size := by
    rw [← h.size]
    exact lt_size hnode'
  obtain ⟨node, hnode⟩ := exists_node hlt
  obtain ⟨new, hnew, htrims⟩ := h.nodes v node hnode
  rw [hnode'] at hnew
  cases hnew
  exact ⟨node, hnode, htrims⟩

/-- Two walks, one after the other. -/
theorem trans (hab : a.Trimmed b) (hbc : b.Trimmed c) : a.Trimmed c where
  size := hbc.size.trans hab.size
  nodes := by
    intro v node hnode
    obtain ⟨node₁, hnode₁, h₁⟩ := hab.nodes v node hnode
    obtain ⟨node₂, hnode₂, h₂⟩ := hbc.nodes v node₁ hnode₁
    have hexit := h₂.exit
    rw [hab.passes_eq] at hexit
    have hpasses := Exit.Rel.trans (fun _ _ _ => Relation.ReflTransGen.trans) h₁.exit hexit
    refine ⟨node₂, hnode₂, ?_, hpasses, ?_, ?_⟩
    · rw [h₂.same, h₁.same]
    · intro hjoint
      have hsame := h₁.joint hjoint
      rw [hsame] at h₂
      exact h₂.joint hjoint
    · rcases h₂.index with hkept | ⟨hzero, hlands⟩
      · rcases h₁.index with hkept₁ | ⟨hzero, hlands⟩
        · exact Or.inl (hkept.trans hkept₁)
        · -- A node that was marked keeps its links.
          refine Or.inr ⟨hkept.trans hzero, fun target ht => ?_⟩
          obtain ⟨old, hold, hpass⟩ := hexit.exists_old ht
          rw [Passes.eq_of_final hpass (hlands old hold).2]
          exact hlands old hold
      · rw [hab.lands_eq] at hlands
        exact Or.inr ⟨hzero, hlands⟩

/-- A trimmed chart is as tidy as before. -/
theorem tidy (h : a.Trimmed b) (ha : a.Tidy) : b.Tidy where
  within := by
    intro v node' hnode' target ht
    obtain ⟨node, hnode, htrims⟩ := h.exists_old hnode'
    obtain ⟨old, hold, hpass⟩ := htrims.exit.exists_old ht
    rw [h.size]
    exact ha.within_of_passes hpass (ha.within hnode old hold)
  condition := by
    intro v node' hnode' hbranch
    obtain ⟨node, hnode, htrims⟩ := h.exists_old hnode'
    rw [htrims.exit.isBranch_eq] at hbranch
    rw [htrims.box_eq]
    exact ha.condition hnode hbranch

end Trimmed

section Steps

variable {chart : Chart} {v : NodeId} {node : Node}

/-- A joint behind a node that leads on may be bypassed. -/
theorem trimmed_setNext (hnode : chart[v]? = some node) (hbox : node.box.isJoint = false)
    {following further : Link} (hexit : node.exit = .next following)
    (hjoint : chart.beyond? following = some further) :
    chart.Trimmed (chart.setNext v further) := by
  refine trimmed_of_node { node with exit := .next further } (size_setNext ..) hnode ?_ ?_ ?_
  · rw [getElem?_setNext, if_pos rfl, hnode]
    rfl
  · intro w hvw
    rw [getElem?_setNext, if_neg hvw]
  · refine ⟨rfl, ?_, fun h => ?_, Or.inl rfl⟩
    · rw [hexit]
      exact Relation.ReflTransGen.single hjoint
    · rw [hbox] at h
      exact nomatch h

/-- A joint at a side of a branch may be bypassed. -/
theorem trimmed_setSlot (htidy : chart.Tidy) (hnode : chart[v]? = some node)
    (hbox : node.box.isJoint = false) (hbranch : node.exit.isBranch = true) (side : Branch)
    {further : Link} (hjoint : chart.beyond? (node.exit.slot side) = some further) :
    chart.Trimmed (chart.setSlot v side further) := by
  refine trimmed_of_node { node with exit := node.exit.setSlot side further }
    (size_setSlot ..) hnode ?_ ?_ ?_
  · rw [htidy.setSlot_eq, if_pos rfl, hnode]
    rfl
  · intro w hvw
    rw [htidy.setSlot_eq, if_neg hvw]
  · refine ⟨rfl, ?_, fun h => ?_, Or.inl rfl⟩
    · cases hexit : node.exit with
      | next target => rw [hexit] at hbranch; exact nomatch hbranch
      | branch no yes =>
          rw [hexit] at hjoint
          cases side with
          | no => exact ⟨Relation.ReflTransGen.single hjoint, Relation.ReflTransGen.refl⟩
          | yes => exact ⟨Relation.ReflTransGen.refl, Relation.ReflTransGen.single hjoint⟩
    · rw [hbox] at h
      exact nomatch h

/-- A node may be marked when all its links lead to nodes that are no joints. -/
theorem trimmed_setIndex (hnode : chart[v]? = some node) (hbox : node.box.isJoint = false)
    (hlands : ∀ target ∈ node.exit.links, chart.Lands target) :
    chart.Trimmed (chart.setIndex v 0) := by
  refine trimmed_of_node { node with index := some 0 } (size_setIndex ..) hnode ?_ ?_ ?_
  · rw [getElem?_setIndex, if_pos rfl, hnode]
    rfl
  · intro w hvw
    rw [getElem?_setIndex, if_neg hvw]
  · refine ⟨rfl, Exit.Rel.refl (fun _ => Relation.ReflTransGen.refl) _, fun h => ?_,
      Or.inr ⟨rfl, hlands⟩⟩
    rw [hbox] at h
    exact nomatch h

/-- A node with one link may be marked when that link leads to a node that is no joint. -/
theorem trimmed_mark_next (hnode : chart[v]? = some node) (hbox : node.box.isJoint = false)
    {following : Link} (hexit : node.exit = .next following) (hlands : chart.Lands following) :
    chart.Trimmed (chart.setIndex v 0) := by
  refine trimmed_setIndex hnode hbox fun target ht => ?_
  rw [hexit] at ht
  rw [List.mem_singleton.mp ht]
  exact hlands

end Steps

/-! ### What pruning achieves -/

/-- The node is marked. -/
def Marked (chart : Chart) (v : NodeId) : Prop :=
  ∃ node, chart[v]? = some node ∧ node.index = some 0

/-- The mark is the number zero. -/
theorem Marked.index_eq {chart : Chart} {v : NodeId} {node : Node} (h : chart.Marked v)
    (hnode : chart[v]? = some node) : node.index = some 0 := by
  obtain ⟨found, hfound, hindex⟩ := h
  rw [hnode] at hfound
  cases hfound
  exact hindex

/-- The walk comes back from the node at once: the node is marked or leads nowhere. -/
def Settled (chart : Chart) (v : NodeId) : Prop :=
  ∃ node, chart[v]? = some node ∧ (node.index = some 0 ∨ node.exit = .next .nowhere)

/-- Turning a link marks no node. -/
theorem marked_of_setNext {chart : Chart} {u v : NodeId} {target : Link}
    (h : (chart.setNext u target).Marked v) : chart.Marked v := by
  obtain ⟨node, hnode, hindex⟩ := h
  rw [getElem?_setNext] at hnode
  by_cases huv : u = v
  · rw [if_pos huv] at hnode
    obtain ⟨old, hold, rfl⟩ := Option.map_eq_some_iff.mp hnode
    exact ⟨old, hold, hindex⟩
  · rw [if_neg huv] at hnode
    exact ⟨node, hnode, hindex⟩

/-- Turning a side of a branch marks no node. -/
theorem Tidy.marked_of_setSlot {chart : Chart} (htidy : chart.Tidy) {u v : NodeId} {side : Branch}
    {target : Link} (h : (chart.setSlot u side target).Marked v) : chart.Marked v := by
  obtain ⟨node, hnode, hindex⟩ := h
  rw [htidy.setSlot_eq] at hnode
  by_cases huv : u = v
  · rw [if_pos huv] at hnode
    obtain ⟨old, hold, rfl⟩ := Option.map_eq_some_iff.mp hnode
    exact ⟨old, hold, hindex⟩
  · rw [if_neg huv] at hnode
    exact ⟨node, hnode, hindex⟩

/-- Marking a node marks no other. -/
theorem marked_of_setIndex {chart : Chart} {u v : NodeId} {index : Int}
    (h : (chart.setIndex u index).Marked v) : v = u ∨ chart.Marked v := by
  obtain ⟨node, hnode, hindex⟩ := h
  rw [getElem?_setIndex] at hnode
  by_cases huv : u = v
  · exact Or.inl huv.symm
  · rw [if_neg huv] at hnode
    exact Or.inr ⟨node, hnode, hindex⟩

/-- The node that was marked is marked. -/
theorem marked_setIndex {chart : Chart} {v : NodeId} {node : Node} (hnode : chart[v]? = some node) :
    (chart.setIndex v 0).Marked v := by
  refine ⟨{ node with index := some 0 }, ?_, rfl⟩
  rw [getElem?_setIndex, if_pos rfl, hnode]
  rfl

/-- Marking a node turns no link. -/
theorem leads_of_setIndex {chart : Chart} {u v : NodeId} {index : Int} {target : Link}
    (h : (chart.setIndex u index).Leads v target) : chart.Leads v target := by
  obtain ⟨node, hnode, ht⟩ := h
  rw [getElem?_setIndex] at hnode
  by_cases huv : u = v
  · rw [if_pos huv] at hnode
    obtain ⟨old, hold, rfl⟩ := Option.map_eq_some_iff.mp hnode
    exact ⟨old, hold, ht⟩
  · rw [if_neg huv] at hnode
    exact ⟨node, hnode, ht⟩

/-- From a marked node the walk comes back at once. -/
theorem Marked.settled {chart : Chart} {v : NodeId} (h : chart.Marked v) : chart.Settled v := by
  obtain ⟨node, hnode, hindex⟩ := h
  exact ⟨node, hnode, Or.inl hindex⟩

namespace Trimmed

variable {a b : Chart} {v : NodeId}

/-- Marks stay. -/
theorem marked (h : a.Trimmed b) (hv : a.Marked v) : b.Marked v := by
  obtain ⟨node, hnode, hindex⟩ := hv
  obtain ⟨node', hnode', htrims⟩ := h.nodes v node hnode
  rcases htrims.index with hkept | ⟨hzero, -⟩
  · exact ⟨node', hnode', hkept.trans hindex⟩
  · exact ⟨node', hnode', hzero⟩

/-- What is settled stays settled. -/
theorem settled (h : a.Trimmed b) (hv : a.Settled v) : b.Settled v := by
  obtain ⟨node, hnode, hindex | hopen⟩ := hv
  · obtain ⟨node', hnode', hzero⟩ := h.marked ⟨node, hnode, hindex⟩
    exact ⟨node', hnode', Or.inl hzero⟩
  · obtain ⟨node', hnode', htrims⟩ := h.nodes v node hnode
    refine ⟨node', hnode', Or.inr ?_⟩
    have hrel := htrims.exit
    rw [hopen] at hrel
    cases hexit : node'.exit with
    | branch no yes => rw [hexit] at hrel; exact hrel.elim
    | next target =>
        rw [hexit] at hrel
        rw [Passes.eq_of_final hrel rfl]

/-- The links of a node that has been marked lead to nodes that are no joints. -/
theorem lands_of_marked (h : a.Trimmed b) (hmarked : b.Marked v) (hnew : ¬ a.Marked v)
    {target : Link} (ht : b.Leads v target) : a.Lands target := by
  obtain ⟨node', hnode', hindex⟩ := hmarked
  obtain ⟨node, hnode, htrims⟩ := h.exists_old hnode'
  rcases htrims.index with hkept | ⟨-, hlands⟩
  · exact absurd ⟨node, hnode, hkept.symm.trans hindex⟩ hnew
  · exact hlands target (ht.mem hnode')

/-- Each link of the trimmed chart comes from one of the same node. -/
theorem exists_leads (h : a.Trimmed b) {target : Link} (ht : b.Leads v target) :
    ∃ old, a.Leads v old ∧ a.Passes old target := by
  obtain ⟨node', hnode', htarget⟩ := ht
  obtain ⟨node, hnode, htrims⟩ := h.exists_old hnode'
  obtain ⟨old, hold, hpass⟩ := htrims.exit.exists_old htarget
  exact ⟨old, ⟨node, hnode, hold⟩, hpass⟩

end Trimmed

/-- Each node that has been marked leads to nodes from which the walk comes back at once. -/
def Closes (chart chart' : Chart) : Prop :=
  ∀ v, chart'.Marked v → ¬ chart.Marked v → ∀ w, chart'.Leads v (.node w) → chart'.Settled w

/-- Two walks, one after the other.  A node that the first one has marked keeps its links in the
second. -/
theorem Closes.trans {a b c : Chart} (hab : a.Closes b) (hbc : b.Closes c) (htrim : a.Trimmed b)
    (htrim' : b.Trimmed c) : a.Closes c := by
  intro v hmarked hnew w hw
  by_cases hold : b.Marked v
  · -- Such a node keeps its links, and what was settled stays so.
    obtain ⟨old, hleads, hpass⟩ := htrim'.exists_leads hw
    have hlands := htrim.lands_of_marked hold hnew hleads
    rw [← htrim.lands_eq] at hlands
    have hsame := hpass.eq_of_final hlands.2
    rw [← hsame] at hleads
    exact htrim'.settled (hab v hold hnew w hleads)
  · exact hbc v hmarked hold w hw

/-- What a walk that comes back has done. -/
structure Swept (chart : Chart) (target : Link) (chart' : Chart) : Prop where
  trimmed : chart.Trimmed chart'
  closes : chart.Closes chart'
  settled : ∃ v, target = .node v ∧ chart'.Settled v

/-- A node that is no joint is where bypassing ends. -/
theorem beyond?_eq_none {chart : Chart} {v : NodeId} {node : Node} (hnode : chart[v]? = some node)
    (hbox : node.box.isJoint = false) : chart.beyond? (.node v) = none := by
  rw [beyond?_node hnode, hbox]
  rfl

/-- Where bypassing ends there is no joint. -/
theorem isJoint_of_final {chart : Chart} {v : NodeId} {node : Node} (hnode : chart[v]? = some node)
    (hfinal : chart.beyond? (.node v) = none) : node.box.isJoint = false := by
  rw [beyond?_node hnode] at hfinal
  cases hbox : node.box.isJoint with
  | false => rfl
  | true => rw [hbox] at hfinal; exact nomatch hfinal

/-- The exit that a walk finds at a node of a tidy chart is the node's own. -/
theorem Tidy.exit_eq {chart : Chart} (h : chart.Tidy) {v : NodeId} {node : Node} {exit : Exit}
    (hnode : chart[v]? = some node) (hexit : chart.exit? v = some exit) : node.exit = exit := by
  rw [h.exit?_eq, hnode] at hexit
  exact Option.some.inj hexit

/-- A walk begins at a node. -/
theorem Prunes.exists_node {chart chart' : Chart} {target : Link} (h : Prunes chart target chart') :
    ∃ v, target = .node v := by
  cases h <;> exact ⟨_, rfl⟩

section Sides

variable {chart : Chart} {v : NodeId} {node : Node} (htidy : chart.Tidy)
  (hnode : chart[v]? = some node) (hbox : node.box.isJoint = false)
  (hbranch : node.exit.isBranch = true) (side : Branch)

include htidy hnode hbox hbranch

/-- The chart in which the walk goes on from a side has been trimmed at most. -/
theorem trimmed_sideEntry : chart.Trimmed (chart.sideEntry v side).1 := by
  cases hjoint : chart.beyond? (chart.slot v side) with
  | none =>
      rw [sideEntry_of_final hjoint]
      exact Trimmed.refl chart
  | some further =>
      rw [sideEntry_of_joint hjoint]
      rw [htidy.slot_eq hnode] at hjoint
      exact trimmed_setSlot htidy hnode hbox hbranch side hjoint

/-- The walk goes on from a side at a node that is no joint, if there is one. -/
theorem beyond?_sideEntry :
    (chart.sideEntry v side).1.beyond? (chart.sideEntry v side).2 = none := by
  rw [(trimmed_sideEntry htidy hnode hbox hbranch side).beyond?_eq]
  cases hjoint : chart.beyond? (chart.slot v side) with
  | none => rw [sideEntry_of_final hjoint]; exact hjoint
  | some further => rw [sideEntry_of_joint hjoint]; exact beyond?_eq_none hnode hbox

/-- After the walk from one side of a node, that side leads to a node that is no joint, and from
there the walk comes back at once. -/
theorem swept_side (hlands : chart.Marked v → ∀ target, chart.Leads v target → chart.Lands target)
    {chart' : Chart} (h : Swept (chart.sideEntry v side).1 (chart.sideEntry v side).2 chart') :
    chart.Trimmed chart' ∧ chart.Closes chart' ∧
      ∃ node' w, chart'[v]? = some node' ∧ chart.Trims node node' ∧
        node'.exit.slot side = .node w ∧ chart.Lands (.node w) ∧ chart'.Settled w := by
  have htrim := (trimmed_sideEntry htidy hnode hbox hbranch side).trans h.trimmed
  obtain ⟨node', hnode', htrims⟩ := htrim.nodes v node hnode
  have hpass := htrims.exit.slot hbranch side
  cases hjoint : chart.beyond? (chart.slot v side) with
  | none =>
      -- The side leads to no joint, so the walk has settled what it leads to.
      rw [sideEntry_of_final hjoint] at h
      obtain ⟨w, hw, hsettled⟩ : ∃ w, chart.slot v side = .node w ∧ chart'.Settled w := h.settled
      rw [htidy.slot_eq hnode] at hjoint hw
      rw [hw] at hjoint hpass
      exact ⟨htrim, h.closes, node', w, hnode', htrims, hpass.eq_of_final hjoint,
        ⟨⟨w, rfl⟩, hjoint⟩, hsettled⟩
  | some further =>
      rw [sideEntry_of_joint hjoint] at h
      rw [htidy.slot_eq hnode] at hjoint
      -- The links of a marked node lead to no joint, so the node is marked during the walk only.
      have hunmarked : ¬ chart.Marked v := by
        intro hmarked
        have hside : node.exit.slot side ∈ node.exit.links :=
          (Exit.mem_links_iff_slot hbranch).mpr ⟨side, rfl⟩
        rw [(hlands hmarked _ ⟨node, hnode, hside⟩).2] at hjoint
        exact nomatch hjoint
      have hcloses : chart.Closes chart' := fun u hmarked hnew =>
        h.closes u hmarked fun hold => hnew (htidy.marked_of_setSlot hold)
      have hmarked : chart'.Marked v := by
        obtain ⟨u, hu, node'', hnode'', hindex | hopen⟩ := h.settled
        · cases hu
          exact ⟨node'', hnode'', hindex⟩
        · cases hu
          rw [hnode'] at hnode''
          cases hnode''
          have hform := htrims.exit.isBranch_eq
          rw [hopen, hbranch] at hform
          exact nomatch hform
      have hbranch' : node'.exit.isBranch = true := htrims.exit.isBranch_eq.trans hbranch
      have hleads : chart'.Leads v (node'.exit.slot side) :=
        ⟨node', hnode', (Exit.mem_links_iff_slot hbranch').mpr ⟨side, rfl⟩⟩
      have hland := htrim.lands_of_marked hmarked hunmarked hleads
      obtain ⟨w, hw⟩ := hland.1
      rw [hw] at hleads hland
      exact ⟨htrim, hcloses, node', w, hnode', htrims, hw, hland,
        hcloses v hmarked hunmarked w hleads⟩

omit htidy in
/-- A branching node may be marked when both of its sides are done. -/
theorem swept_branch {before : Chart} (htrim : before.Trimmed chart) (hcloses : before.Closes chart)
    (hsides : ∀ side,
      ∃ w, node.exit.slot side = .node w ∧ chart.Lands (.node w) ∧ chart.Settled w) :
    Swept before (.node v) (chart.setIndex v 0) := by
  have hlinks : ∀ target, chart.Leads v target → ∃ side, node.exit.slot side = target :=
    fun target ht => (Exit.mem_links_iff_slot hbranch).mp (ht.mem hnode)
  have hmark : chart.Trimmed (chart.setIndex v 0) := by
    refine trimmed_setIndex hnode hbox fun target ht => ?_
    obtain ⟨side, rfl⟩ := hlinks target ⟨node, hnode, ht⟩
    obtain ⟨w, hw, hland, -⟩ := hsides side
    rw [hw]
    exact hland
  refine ⟨htrim.trans hmark, ?_, v, rfl, (marked_setIndex hnode).settled⟩
  intro u hu hnew w hw
  have hleads := leads_of_setIndex hw
  -- The node itself, or one that was marked before it.
  rcases marked_of_setIndex hu with rfl | hold
  · obtain ⟨side, hside⟩ := hlinks _ hleads
    obtain ⟨x, hx, -, hsettled⟩ := hsides side
    rw [hside] at hx
    cases hx
    exact hmark.settled hsettled
  · exact hmark.settled (hcloses u hold hnew w hleads)

end Sides

/-- A node that leads on is marked before the walk goes on, and is done when the walk comes back. -/
theorem swept_follow {chart chart' : Chart} {v : NodeId} {node : Node} {following : Link}
    (hnode : chart[v]? = some node) (hnext : node.exit = .next following)
    (hfollow : chart.beyond? following = none) (htrim : chart.Trimmed (chart.setIndex v 0))
    (h : Swept (chart.setIndex v 0) following chart') : Swept chart (.node v) chart' where
  trimmed := htrim.trans h.trimmed
  closes := by
    intro u hu hnew w hw
    by_cases hold : (chart.setIndex v 0).Marked u
    · -- Only the node itself has been marked before the walk goes on.
      obtain rfl := (marked_of_setIndex hold).resolve_right hnew
      obtain ⟨old, hleads, hpass⟩ := h.trimmed.exists_leads hw
      rw [(leads_of_setIndex hleads).eq_of_next hnode hnext, htrim.passes_eq] at hpass
      obtain ⟨x, hx, hsettled⟩ := h.settled
      rw [← hpass.eq_of_final hfollow] at hx
      cases hx
      exact hsettled
    · exact h.closes u hu hold w hw
  settled := ⟨v, rfl, (h.trimmed.marked (marked_setIndex hnode)).settled⟩

/-- A walk that comes back has trimmed the chart, and the nodes that it has marked lead to nodes
from which a further walk comes back at once.  The induction is on the walk; the chart that a node
is left with may have been trimmed at that node again, in a walk within the walk. -/
theorem Prunes.swept {chart chart' : Chart} {target : Link} (h : Prunes chart target chart')
    (htidy : chart.Tidy) (hfinal : chart.beyond? target = none) : Swept chart target chart' := by
  induction h with
  | @marked chart v node hnode hindex =>
      exact ⟨Trimmed.refl _, fun u hu hnew => absurd hu hnew, v, rfl, node, hnode, Or.inl hindex⟩
  | @leaf chart v node hnode hindex hexit =>
      rw [htidy.exit?_eq, hnode] at hexit
      have hopen : node.exit = .next .nowhere := by simpa using hexit
      exact ⟨Trimmed.refl _, fun u hu hnew => absurd hu hnew, v, rfl, node, hnode, Or.inr hopen⟩
  | @bypass chart chart' v node following further hnode hindex hexit hjoint _ ih =>
      have hbox := isJoint_of_final hnode hfinal
      have htrim := trimmed_setNext hnode hbox (htidy.exit_eq hnode hexit) hjoint
      rw [← htrim.beyond?_eq] at hfinal
      have hswept := ih (htrim.tidy htidy) hfinal
      exact ⟨htrim.trans hswept.trimmed, fun u hu hnew => hswept.closes u hu fun hold =>
        hnew (marked_of_setNext hold), hswept.settled⟩
  | @follow chart chart' v node following hnode hindex hexit hopen hfollow rest ih =>
      have hbox := isJoint_of_final hnode hfinal
      have hnext := htidy.exit_eq hnode hexit
      have htrim := trimmed_mark_next hnode hbox hnext ⟨rest.exists_node, hfollow⟩
      exact swept_follow hnode hnext hfollow htrim
        (ih (htrim.tidy htidy) (by rw [htrim.beyond?_eq]; exact hfollow))
  | @branch chart chart₁ chart₂ v node no yes hnode hindex hexit _ _ ihFirst ihSecond =>
      have hbox := isJoint_of_final hnode hfinal
      have hbranch : node.exit.isBranch = true := by rw [htidy.exit_eq hnode hexit]; rfl
      have hunmarked : ¬ chart.Marked v := fun hmarked => hindex (hmarked.index_eq hnode)
      -- The side of `no`.
      have hentry := trimmed_sideEntry htidy hnode hbox hbranch .no
      have hfirst := ihFirst (hentry.tidy htidy) (beyond?_sideEntry htidy hnode hbox hbranch .no)
      obtain ⟨htrim, hcloses, node₁, w₁, hnode₁, htrims, hno, hland, hsettled⟩ :=
        swept_side htidy hnode hbox hbranch .no (fun h => absurd h hunmarked) hfirst
      have htidy₁ := htrim.tidy htidy
      have hbox₁ : node₁.box.isJoint = false := by rw [htrims.box_eq]; exact hbox
      have hbranch₁ := htrims.exit.isBranch_eq.trans hbranch
      -- The side of `yes`.  The node may have been marked by now.
      have hlands : chart₁.Marked v → ∀ target, chart₁.Leads v target → chart₁.Lands target := by
        intro hmarked target ht
        rw [htrim.lands_eq]
        exact htrim.lands_of_marked hmarked hunmarked ht
      have hentry₁ := trimmed_sideEntry htidy₁ hnode₁ hbox₁ hbranch₁ .yes
      have hsecond := ihSecond (hentry₁.tidy htidy₁)
        (beyond?_sideEntry htidy₁ hnode₁ hbox₁ hbranch₁ .yes)
      obtain ⟨htrim₁, hcloses₁, node₂, w₂, hnode₂, htrims₁, hyes, hland₁, hsettled₁⟩ :=
        swept_side htidy₁ hnode₁ hbox₁ hbranch₁ .yes hlands hsecond
      have hbox₂ : node₂.box.isJoint = false := by rw [htrims₁.box_eq]; exact hbox₁
      have hbranch₂ := htrims₁.exit.isBranch_eq.trans hbranch₁
      refine swept_branch hnode₂ hbox₂ hbranch₂ (htrim.trans htrim₁)
        (hcloses.trans hcloses₁ htrim htrim₁) fun side => ?_
      rw [htrim₁.lands_eq]
      cases side with
      | no =>
          have hpass := htrims₁.exit.slot hbranch₁ .no
          rw [← htrim.lands_eq] at hland
          rw [hno] at hpass
          exact ⟨w₁, hpass.eq_of_final hland.2, hland, htrim₁.settled hsettled⟩
      | yes => exact ⟨w₂, hyes, hland₁, hsettled₁⟩

section FromStart

variable {chart chart' : Chart} {start : NodeId} (h : Prunes chart (.node start) chart')
  (htidy : chart.Tidy) (hfinal : chart.beyond? (.node start) = none)
  (hunmarked : ∀ v, ¬ chart.Marked v)

include h htidy hfinal hunmarked

/-- In the pruned chart no joint is reached, and the walk has been everywhere. -/
theorem Prunes.settled_of_reached_after {v : NodeId} (hv : chart'.Reaches start v) :
    chart'.Settled v ∧ chart.beyond? (.node v) = none := by
  have hswept := h.swept htidy hfinal
  induction hv with
  | refl =>
      obtain ⟨u, hu, hsettled⟩ := hswept.settled
      cases hu
      exact ⟨hsettled, hfinal⟩
  | @tail u w _ hw ih =>
      obtain ⟨⟨node, hnode, hindex | hopen⟩, -⟩ := ih
      · have hmarked : chart'.Marked u := ⟨node, hnode, hindex⟩
        exact ⟨hswept.closes u hmarked (hunmarked u) w hw,
          (hswept.trimmed.lands_of_marked hmarked (hunmarked u) hw).2⟩
      · exact nomatch hw.eq_of_next hnode hopen

/-- A node that was reached before and is no joint is still reached. -/
theorem Prunes.reaches_after {v : NodeId} (hv : chart.Reaches start v)
    (hlast : chart.beyond? (.node v) = none) : chart'.Reaches start v := by
  have hswept := h.swept htidy hfinal
  -- A joint is no longer reached; what is reached instead is where bypassing joints leads from it.
  have key : ∀ target, chart.Passes (.node v) target → chart.beyond? target = none →
      ∀ w, target = .node w → chart'.Reaches start w := by
    clear hlast
    induction hv with
    | refl =>
        intro target hpass _ w hw
        rw [hpass.eq_of_final hfinal] at hw
        cases hw
        exact Relation.ReflTransGen.refl
    | @tail u x _ hx ih =>
        intro target hpass hlast w hw
        obtain ⟨node, hnode, hlink⟩ := hx
        -- From a joint the way goes on by bypassing it; from any other node it goes along the link
        -- that the node has instead.
        by_cases hbox : node.box.isJoint = true
        · obtain ⟨next, hnext⟩ := htidy.joint_exit hnode hbox
          rw [hnext] at hlink
          have hbeyond : chart.beyond? (.node u) = some (.node x) := by
            rw [beyond?_node hnode, if_pos hbox, hnext, List.mem_singleton.mp hlink]
            rfl
          exact ih target (Relation.ReflTransGen.head hbeyond hpass) hlast w hw
        · have hu := beyond?_eq_none hnode (Bool.eq_false_iff.mpr hbox)
          have hreaches := ih _ Relation.ReflTransGen.refl hu u rfl
          obtain ⟨⟨node', hnode', hdone⟩, -⟩ :=
            h.settled_of_reached_after htidy hfinal hunmarked hreaches
          obtain ⟨old, hold, htrims⟩ := hswept.trimmed.exists_old hnode'
          rw [hnode] at hold
          cases hold
          obtain ⟨link', hlink', hpass'⟩ := htrims.exit.exists_new hlink
          rcases hdone with hindex | hopen
          · have hleads : chart'.Leads u link' := ⟨node', hnode', hlink'⟩
            have hlands :=
              hswept.trimmed.lands_of_marked ⟨node', hnode', hindex⟩ (hunmarked u) hleads
            rw [Passes.final_unique hpass' hpass hlands.2 hlast, hw] at hleads
            exact hreaches.tail hleads
          · rw [hopen] at hlink'
            rw [List.mem_singleton.mp hlink'] at hpass'
            rw [← Passes.final_unique hpass' hpass rfl hlast] at hw
            exact nomatch hw
  exact key _ Relation.ReflTransGen.refl hlast v rfl

/-- The walk has been at every node that was reached before and is no joint. -/
theorem Prunes.settled_of_reached_before {v : NodeId} (hv : chart.Reaches start v)
    (hlast : chart.beyond? (.node v) = none) : chart'.Settled v :=
  (h.settled_of_reached_after htidy hfinal hunmarked
    (h.reaches_after htidy hfinal hunmarked hv hlast)).1

end FromStart

end Flowchart.Chart
