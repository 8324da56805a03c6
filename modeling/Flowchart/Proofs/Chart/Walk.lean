import Flowchart.Proofs.Chart.Numbers
import Flowchart.Proofs.Chart.Pruning

/-!
# `Flowchart.Proofs.Chart.Walk`: walking along a chart

A walk begins at a link.  It passes joints without a word, shows the text of every other box, and
takes the next of a list of outcomes where a node branches.  It ends at an open link, or at a node
that branches when there is no outcome left.

* `Prunes.walk`: a walk in a chart is one in the pruned chart, from where bypassing joints leads.
* `Renumbers.walk`: numbers have no part in a walk.
-/

set_option autoImplicit false

namespace Flowchart.Chart

/-- The walk from a link on, with the outcomes it takes where a node branches and the texts it
shows. -/
inductive Walk (chart : Chart) : Link → (outcomes : List Branch) → (labels : List String) → Prop
  -- outcomes that are left over do not matter
  | stop {outcomes : List Branch} : Walk chart .nowhere outcomes []
  | pass {v : NodeId} {node : Node} {target : Link} {outcomes : List Branch} {labels : List String}
      (hnode : chart[v]? = some node) (hbox : node.box.isJoint = true)
      (hexit : node.exit = .next target) (rest : Walk chart target outcomes labels) :
      Walk chart (.node v) outcomes labels
  | step {v : NodeId} {node : Node} {target : Link} {outcomes : List Branch} {labels : List String}
      (hnode : chart[v]? = some node) (hbox : node.box.isJoint = false)
      (hexit : node.exit = .next target) (rest : Walk chart target outcomes labels) :
      Walk chart (.node v) outcomes (node.box.text :: labels)
  | pause {v : NodeId} {node : Node} (hnode : chart[v]? = some node)
      (hbranch : node.exit.isBranch = true) : Walk chart (.node v) [] [node.box.text]
  | turn {v : NodeId} {node : Node} {side : Branch} {outcomes : List Branch} {labels : List String}
      (hnode : chart[v]? = some node) (hbranch : node.exit.isBranch = true)
      (rest : Walk chart (node.exit.slot side) outcomes labels) :
      Walk chart (.node v) (side :: outcomes) (node.box.text :: labels)

/-- Numbers have no part in a walk. -/
theorem Renumbers.walk {a b : Chart} (h : a.Renumbers b) {target : Link} {outcomes : List Branch}
    {labels : List String} (hwalk : a.Walk target outcomes labels) :
    b.Walk target outcomes labels := by
  induction hwalk with
  | stop => exact .stop
  | pass hnode hbox hexit _ ih => exact .pass (h.nodes _ _ hnode) hbox hexit ih
  | step hnode hbox hexit _ ih =>
      have hstep := Walk.step (h.nodes _ _ hnode) hbox hexit ih
      exact hstep
  | pause hnode hbranch =>
      have hpause := Walk.pause (h.nodes _ _ hnode) hbranch
      exact hpause
  | turn hnode hbranch _ ih =>
      have hturn := Walk.turn (h.nodes _ _ hnode) hbranch ih
      exact hturn

/-! ### Walks in a pruned chart -/

/-- The link is open or leads to a node that is reached from the start. -/
def Meets (chart : Chart) (start : NodeId) (target : Link) : Prop :=
  target = .nowhere ∨ ∃ v, target = .node v ∧ chart.Reaches start v

/-- A node is met exactly if it is reached. -/
theorem meets_node {chart : Chart} {start v : NodeId} :
    chart.Meets start (.node v) ↔ chart.Reaches start v := by
  simp [Meets]

/-- The links of a node that is reached are met. -/
theorem Tidy.meets_of_mem {chart : Chart} (h : chart.Tidy) {start v : NodeId} {node : Node}
    (hv : chart.Reaches start v) (hnode : chart[v]? = some node) {target : Link}
    (ht : target ∈ node.exit.links) : chart.Meets start target := by
  by_cases hopen : target = .nowhere
  · exact Or.inl hopen
  · obtain ⟨w, rfl, -⟩ := exists_of_within (h.within hnode target ht) hopen
    exact Or.inr ⟨w, rfl, Relation.ReflTransGen.tail hv ⟨node, hnode, ht⟩⟩

section FromStart

variable {chart chart' : Chart} {start : NodeId} (h : Prunes chart (.node start) chart')
  (htidy : chart.Tidy) (hfinal : chart.beyond? (.node start) = none)
  (hunmarked : ∀ v, ¬ chart.Marked v)

include h htidy hfinal

/-- A node of the pruned chart holds the same box as before, and its links bypass joints. -/
theorem Prunes.exists_met {v : NodeId} {node : Node} (hnode : chart[v]? = some node)
    (hv : chart'.Reaches start v) :
    ∃ node', chart'[v]? = some node' ∧ node'.box = node.box ∧
      node.exit.Rel chart.Passes node'.exit ∧
      ∀ target ∈ node'.exit.links, chart'.Meets start target := by
  have htrimmed := (h.swept htidy hfinal).trimmed
  obtain ⟨node', hnode', htrims⟩ := htrimmed.nodes v node hnode
  exact ⟨node', hnode', htrims.box_eq, htrims.exit,
    fun target ht => (htrimmed.tidy htidy).meets_of_mem hv hnode' ht⟩

include hunmarked

/-- No joint is met in the pruned chart. -/
theorem Prunes.final_of_meets {target : Link} (ht : chart'.Meets start target) :
    chart.beyond? target = none := by
  rcases ht with rfl | ⟨v, rfl, hv⟩
  · rfl
  · exact (h.settled_of_reached_after htidy hfinal hunmarked hv).2

/-- A walk in a chart is one in the pruned chart, from where bypassing joints leads. -/
theorem Prunes.walk {target : Link} {outcomes : List Branch} {labels : List String}
    (hwalk : chart.Walk target outcomes labels) :
    ∀ last, chart.Passes target last → chart'.Meets start last →
      chart'.Walk last outcomes labels := by
  induction hwalk with
  | stop =>
      intro last hpass _
      rw [hpass.eq_of_final rfl]
      exact .stop
  | @pass v node target _ _ hnode hbox hexit _ ih =>
      intro last hpass hmeets
      have hbeyond : chart.beyond? (.node v) = some target := by
        rw [beyond?_node hnode, if_pos hbox, hexit]
        rfl
      -- Bypassing does not end at a joint, so it has gone on to the link behind this one.
      rcases Relation.ReflTransGen.cases_head hpass with rfl | ⟨further, hfurther, hrest⟩
      · rw [h.final_of_meets htidy hfinal hunmarked hmeets] at hbeyond
        exact nomatch hbeyond
      · rw [hbeyond] at hfurther
        cases hfurther
        exact ih last hrest hmeets
  | @step v node target _ _ hnode hbox hexit _ ih =>
      intro last hpass hmeets
      obtain rfl := hpass.eq_of_final (beyond?_eq_none hnode hbox)
      obtain ⟨node', hnode', hbox', hrel, hlinks⟩ :=
        h.exists_met htidy hfinal hnode (meets_node.mp hmeets)
      rw [hexit] at hrel
      cases hexit' : node'.exit with
      | branch no yes => rw [hexit'] at hrel; exact hrel.elim
      | next target' =>
          rw [hexit'] at hrel hlinks
          rw [← hbox'] at hbox ⊢
          exact .step hnode' hbox hexit' (ih target' hrel (hlinks _ (List.mem_singleton_self _)))
  | @pause v node hnode hbranch =>
      intro last hpass hmeets
      have hbox := htidy.isJoint_of_isBranch hnode hbranch
      obtain rfl := hpass.eq_of_final (beyond?_eq_none hnode hbox)
      obtain ⟨node', hnode', hbox', hrel, -⟩ :=
        h.exists_met htidy hfinal hnode (meets_node.mp hmeets)
      rw [← hbox']
      exact .pause hnode' (hrel.isBranch_eq.trans hbranch)
  | @turn v node side _ _ hnode hbranch _ ih =>
      intro last hpass hmeets
      have hbox := htidy.isJoint_of_isBranch hnode hbranch
      obtain rfl := hpass.eq_of_final (beyond?_eq_none hnode hbox)
      obtain ⟨node', hnode', hbox', hrel, hlinks⟩ :=
        h.exists_met htidy hfinal hnode (meets_node.mp hmeets)
      have hbranch' := hrel.isBranch_eq.trans hbranch
      rw [← hbox']
      exact .turn hnode' hbranch' (ih _ (hrel.slot hbranch side)
        (hlinks _ ((Exit.mem_links_iff_slot hbranch').mpr ⟨side, rfl⟩)))

end FromStart

end Flowchart.Chart
