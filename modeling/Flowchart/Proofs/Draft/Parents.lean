import Flowchart.Proofs.Draft.Invariant

/-!
# `Flowchart.Proofs.Draft.Parents`: parents and the links that lead from them

A node keeps the number of its parent, the node from which it was drawn; a join keeps the end of the
other path too.  Its own number stands at the links of these nodes, which are turned to it once it
is there.  `Chart.Reciprocal` says that the two sides agree: a node leads to another if and only if
the other was drawn from it, the start alone has no parent, and a join has two.

On a console each change of a draft adds one node and turns to it the links of its parents, and no
others (`Chart.Sprouts`).  That keeps a chart reciprocal (`Chart.Reciprocal.sprout`), so every
statement does, be it refused or not (`Stmt.retraceable_draw`), and every series of calls
(`Draft.parents_match_links_afterAll`).

A graph has loops, and there it fails: the top of a loop is a join with one parent only, and the
link that leads back to it comes from a node which is not its parent.
-/

set_option autoImplicit false

namespace Flowchart

/-- The node was drawn from the given one: this is its parent or, for a join, the end of the other
path. -/
def Node.DrawnFrom (node : Node) (p : NodeId) : Prop :=
  node.parent = some p ∨ node.box = .join ∧ node.otherParent = some p

namespace Chart

/-! ### Links that a change adds -/

/-- Where a node leads is told by its links. -/
theorem leads_iff_mem {chart : Chart} {v : NodeId} {node : Node} (hnode : chart[v]? = some node)
    {target : Link} : chart.Leads v target ↔ target ∈ node.exit.links :=
  ⟨fun h => h.mem hnode, fun h => ⟨node, hnode, h⟩⟩

/-- A node that leads somewhere is one of the chart. -/
theorem Leads.lt_size {chart : Chart} {v : NodeId} {target : Link} (h : chart.Leads v target) :
    v < chart.size := by
  obtain ⟨node, hnode, -⟩ := h
  exact Chart.lt_size hnode

/-- A new node leads nowhere. -/
theorem leads_add_iff {chart : Chart} {node : Node} (hexit : node.exit = (Node.ofBox node.box).exit)
    {p v : NodeId} : (chart.add node).Leads p (.node v) ↔ chart.Leads p (.node v) := by
  constructor
  · rintro ⟨found, hfound, hlink⟩
    rw [getElem?_add] at hfound
    split at hfound
    · cases hfound
      rw [hexit] at hlink
      -- The links of a new box are open.
      cases eq_nowhere_of_mem_ofBox hlink
    · exact ⟨found, hfound, hlink⟩
  · exact (extends_add chart node).leads

/-- One more link at one node. -/
theorem leads_turned_iff {chart chart' : Chart} {u w : NodeId} {node : Node}
    (hu : chart[u]? = some node) (exit : Exit)
    (hlinks : ∀ v, Link.node v ∈ exit.links ↔ Link.node v ∈ node.exit.links ∨ v = w)
    (hnew : ∀ v, chart'[v]? = if u = v then some { node with exit } else chart[v]?) {p v : NodeId} :
    chart'.Leads p (.node v) ↔ chart.Leads p (.node v) ∨ p = u ∧ v = w := by
  by_cases hp : u = p
  · subst hp
    have hturned : chart'[u]? = some { node with exit } := by rw [hnew, if_pos rfl]
    rw [leads_iff_mem hturned, leads_iff_mem hu, hlinks]
    simp
  · -- Any other node leads where it led before.
    have hsame : chart'[p]? = chart[p]? := by rw [hnew, if_neg hp]
    simp [Leads, hsame, Ne.symm hp]

/-- Turning the open link of a node adds a link from it, and no other. -/
theorem leads_setNext_iff {chart : Chart} {u w : NodeId} {node : Node} (hu : chart[u]? = some node)
    (hopen : node.exit = .next .nowhere) {p v : NodeId} :
    (chart.setNext u (.node w)).Leads p (.node v) ↔ chart.Leads p (.node v) ∨ p = u ∧ v = w := by
  refine leads_turned_iff hu (.next (.node w)) ?_ (getElem?_setNext_of_some hu _)
  intro v
  simp [hopen, Exit.links]

/-- Turning an open side of a condition adds a link from it, and no other. -/
theorem leads_setSlot_iff {chart : Chart} (htidy : chart.Tidy) {u w : NodeId} {node : Node}
    (hu : chart[u]? = some node) {side : Branch} (hbranch : node.exit.isBranch = true)
    (hopen : node.exit.slot side = .nowhere) {p v : NodeId} :
    (chart.setSlot u side (.node w)).Leads p (.node v) ↔
      chart.Leads p (.node v) ∨ p = u ∧ v = w := by
  refine leads_turned_iff hu (node.exit.setSlot side (.node w)) ?_
    (htidy.setSlot_of_some hu side _)
  intro v
  cases hexit : node.exit with
  | next target =>
      rw [hexit] at hbranch
      cases hbranch
  | branch no yes =>
      rw [hexit] at hopen
      -- The side that was open leads to the new target, and the other one where it led.
      cases side with
      | no =>
          have hno : no = .nowhere := hopen
          simp [Exit.setSlot, Exit.links, hno, or_comm]
      | yes =>
          have hyes : yes = .nowhere := hopen
          simp [Exit.setSlot, Exit.links, hyes]

/-! ### Reciprocal charts -/

/-- The chart begins with a start, which has no parent; every other node has one, and a join two;
and a node leads to another if and only if the other was drawn from it. -/
structure Reciprocal (chart : Chart) : Prop where
  start : ∃ node, chart[0]? = some node ∧ node.box = .start ∧ node.parent = none
  parent : ∀ {v : NodeId} {node : Node}, chart[v]? = some node → v ≠ 0 → ∃ p, node.parent = some p
  join : ∀ {v : NodeId} {node : Node}, chart[v]? = some node → node.box = .join →
    ∃ q, node.otherParent = some q ∧ chart.Next q v
  leads_iff : ∀ {p v : NodeId}, chart.Leads p (.node v) ↔
    ∃ node, chart[v]? = some node ∧ node.DrawnFrom p

/-- The second chart has one more node than the first one, which has a parent, and two if it is a
join.  Its parents lead to it, and there is no other new link. -/
structure Sprouts (chart : Chart) (node : Node) (chart' : Chart) : Prop where
  grown : chart.Extends chart'
  size_eq : chart'.size = chart.size + 1
  new : chart'[chart.size]? = some node
  parent : ∃ p, node.parent = some p
  join : node.box = .join → ∃ q, node.otherParent = some q ∧ chart'.Next q chart.size
  leads_iff : ∀ {p v : NodeId}, chart'.Leads p (.node v) ↔
    chart.Leads p (.node v) ∨ v = chart.size ∧ node.DrawnFrom p

section Sprout
variable {chart chart' : Chart} {node : Node}

/-- An old node differs at most by its links. -/
theorem Sprouts.exists_old (h : chart.Sprouts node chart') {v : NodeId} {found : Node}
    (hv : chart'[v]? = some found) (hne : v ≠ chart.size) :
    ∃ old exit, chart[v]? = some old ∧ found = { old with exit } := by
  have hlt : v < chart.size := by
    have hsize := lt_size hv
    rw [h.size_eq] at hsize
    exact Nat.lt_of_le_of_ne (Nat.le_of_lt_succ hsize) hne
  obtain ⟨old, hold⟩ := exists_node hlt
  obtain ⟨exit, hexit, -⟩ := h.grown v old hold
  rw [hv] at hexit
  exact ⟨old, exit, hold, Option.some.inj hexit⟩

/-- One more node, to which its parents lead, keeps a chart reciprocal. -/
theorem Reciprocal.sprout (hchart : chart.Reciprocal) (h : chart.Sprouts node chart') :
    chart'.Reciprocal where
  start := by
    obtain ⟨start, hstart, hbox, hparent⟩ := hchart.start
    obtain ⟨exit, hstart', -⟩ := h.grown 0 start hstart
    exact ⟨_, hstart', hbox, hparent⟩
  parent := by
    intro v found hv hne
    -- The new node has the parents that `Sprouts` says, and every other node has its own still.
    by_cases hnew : v = chart.size
    · subst hnew
      rw [h.new] at hv
      cases hv
      exact h.parent
    · obtain ⟨old, exit, hold, rfl⟩ := h.exists_old hv hnew
      have hparent := hchart.parent hold hne
      exact hparent
  join := by
    intro v found hv hbox
    by_cases hnew : v = chart.size
    · subst hnew
      rw [h.new] at hv
      cases hv
      exact h.join hbox
    · obtain ⟨old, exit, hold, rfl⟩ := h.exists_old hv hnew
      obtain ⟨q, hq, hnext⟩ := hchart.join hold hbox
      exact ⟨q, hq, h.grown.next hnext⟩
  leads_iff := by
    intro p v
    rw [h.leads_iff, hchart.leads_iff]
    constructor
    · rintro (⟨old, hold, hfrom⟩ | ⟨rfl, hfrom⟩)
      · obtain ⟨exit, hnode, -⟩ := h.grown v old hold
        exact ⟨_, hnode, hfrom⟩
      · exact ⟨node, h.new, hfrom⟩
    · rintro ⟨found, hv, hfrom⟩
      -- Old nodes have the parents they had, since nothing but links is changed at them.
      by_cases hnew : v = chart.size
      · subst hnew
        rw [h.new] at hv
        cases hv
        exact Or.inr ⟨rfl, hfrom⟩
      · obtain ⟨old, exit, hold, rfl⟩ := h.exists_old hv hnew
        exact Or.inl ⟨old, hold, hfrom⟩

end Sprout

end Chart

namespace Draft

/-! ### One change of a draft -/

/-- A box other than a start or a join is drawn from the current node. -/
theorem sprouts_append {draft : Draft} (h : draft.Sound) {box : Box} (hstart : box ≠ .start)
    (hjoin : box ≠ .join) :
    draft.chart.Sprouts { Node.ofBox box with parent := some draft.current }
      (draft.append box).chart where
  grown := extends_append h box
  size_eq := size_append draft box
  new := by rw [getElem?_append_new h.current_lt, if_neg hstart]
  parent := ⟨draft.current, rfl⟩
  join hbox := absurd hbox hjoin
  leads_iff := by
    intro p v
    obtain ⟨node, hnode, hopen⟩ := h.ready
    have hfrom : Node.DrawnFrom { Node.ofBox box with parent := some draft.current } p ↔
        p = draft.current := by
      simp [Node.DrawnFrom, Node.ofBox, hjoin, eq_comm]
    rw [append, Chart.leads_setNext_iff (Chart.getElem?_add_of_some hnode _) hopen,
      Chart.leads_add_iff rfl, hfrom, and_comm]

/-- The head of a branch is drawn from the condition. -/
theorem sprouts_openBranch {draft : Draft} (h : draft.chart.Built)
    {condition : NodeId} {node : Node} (hnode : draft.chart[condition]? = some node) {side : Branch}
    (hbranch : node.exit.isBranch = true) (hopen : node.exit.slot side = .nowhere) :
    draft.chart.Sprouts { Node.ofBox .head with parent := some condition }
      (draft.openBranch condition side).chart where
  grown := extends_openBranch h hnode hbranch hopen
  size_eq := size_openBranch draft condition side
  new := getElem?_openBranch_new h hnode side
  parent := ⟨condition, rfl⟩
  join hbox := by cases hbox
  leads_iff := by
    intro p v
    have hfrom : Node.DrawnFrom { Node.ofBox .head with parent := some condition } p ↔
        p = condition := by
      simp [Node.DrawnFrom, Node.ofBox, eq_comm]
    rw [openBranch, Chart.leads_setSlot_iff (tidy_add_head h condition)
      (Chart.getElem?_add_of_some hnode _) hbranch hopen, Chart.leads_add_iff rfl, hfrom, and_comm]

/-- A join is drawn from the ends of both paths. -/
theorem sprouts_joinWith {draft : Draft} (h : draft.Sound) {other : NodeId} {node : Node}
    (hnode : draft.chart[other]? = some node) (hopen : node.exit = .next .nowhere)
    (hne : other ≠ draft.current) :
    draft.chart.Sprouts { Node.ofBox .join with
      parent := some draft.current, otherParent := some other } (draft.joinWith other).chart where
  grown := extends_joinWith h hnode hopen hne
  size_eq := size_joinWith draft other
  new := getElem?_joinWith_new h hnode
  parent := ⟨draft.current, rfl⟩
  join _ := ⟨other, rfl, next_joinWith h hnode other (Or.inl rfl)⟩
  leads_iff := by
    intro p v
    obtain ⟨last, hlast, hlastOpen⟩ := h.ready
    have hfrom : Node.DrawnFrom { Node.ofBox .join with
        parent := some draft.current, otherParent := some other } p ↔
        p = other ∨ p = draft.current := by
      simp [Node.DrawnFrom, Node.ofBox, eq_comm, or_comm]
    -- Two links are turned, one at the end of each path.
    rw [joinWith, Chart.leads_setNext_iff (getElem?_joinWith_half hne hlast _) hlastOpen,
      Chart.leads_setNext_iff (Chart.getElem?_add_of_some hnode _) hopen, Chart.leads_add_iff rfl,
      hfrom, or_assoc, ← or_and_right, and_comm]

/-- A sound draft whose chart is reciprocal. -/
structure Retraceable (draft : Draft) : Prop extends Sound draft where
  reciprocal : draft.chart.Reciprocal

/-- The chart of an empty draft is a start without a parent. -/
theorem retraceable_empty : empty.Retraceable where
  toSound := sound_empty
  reciprocal := {
    start := ⟨_, rfl, rfl, rfl⟩
    parent := by
      intro v node hv hne
      exact absurd (getElem?_empty hv).1 hne
    join := by
      intro v node hv hbox
      obtain ⟨rfl, rfl⟩ := getElem?_empty hv
      cases hbox
    leads_iff := by
      intro p v
      constructor
      · rintro ⟨node, hnode, hlink⟩
        obtain ⟨rfl, rfl⟩ := getElem?_empty hnode
        cases Chart.eq_nowhere_of_mem_ofBox hlink
      · -- The start is no join and has no parent.
        rintro ⟨node, hnode, hfrom⟩
        obtain ⟨rfl, rfl⟩ := getElem?_empty hnode
        rcases hfrom with hparent | ⟨hbox, -⟩
        · cases hparent
        · cases hbox }

/-- A box other than a condition, a start or a join keeps a draft retraceable. -/
theorem Retraceable.append {draft : Draft} (h : draft.Retraceable) {box : Box}
    (hcondition : box.isCondition = false) (hstart : box ≠ .start) (hjoin : box ≠ .join) :
    (draft.append box).Retraceable where
  toSound := h.toSound.append box hcondition
  reciprocal := h.reciprocal.sprout (sprouts_append h.toSound hstart hjoin)

/-- A condition is drawn from the current node, and the head of its side for `yes` from the
condition. -/
theorem Retraceable.entered {draft : Draft} (h : draft.Retraceable) {box : Box}
    (hbox : box.isCondition = true) : (draft.entered box).Retraceable where
  toSound := sound_entered h.toSound hbox
  reciprocal := by
    have hstart : box ≠ .start := by rintro rfl; cases hbox
    have hjoin : box ≠ .join := by rintro rfl; cases hbox
    -- Two nodes are added here, one drawn from the other.
    obtain ⟨node, hnode, -, hexit⟩ := getElem?_append_condition h.toSound hbox
    exact (h.reciprocal.sprout (sprouts_append h.toSound hstart hjoin)).sprout
      (sprouts_openBranch (built_append h.toSound box) hnode (by rw [hexit]; rfl)
        (by rw [hexit]; rfl))

/-- Within a condition, the head of its side for `no` is drawn from the condition. -/
theorem Retraceable.openNo {draft inner : Draft} {condition yes : NodeId} (h : inner.Retraceable)
    (hwithin : draft.Within inner condition yes) :
    (inner.openBranch condition .no).Retraceable where
  toSound := hwithin.leaves_openNo.sound
  reciprocal := by
    obtain ⟨node, hnode, hexit⟩ := hwithin.half
    exact h.reciprocal.sprout
      (sprouts_openBranch hwithin.built hnode (by rw [hexit]; rfl) (by rw [hexit]; rfl))

/-- Joining two open paths keeps a draft retraceable. -/
theorem Retraceable.joinWith {draft : Draft} (h : draft.Retraceable) {other : NodeId} {node : Node}
    (hnode : draft.chart[other]? = some node) (hopen : node.exit = .next .nowhere)
    (hne : other ≠ draft.current) : (draft.joinWith other).Retraceable where
  toSound := sound_joinWith h.toSound hnode hopen hne
  reciprocal := h.reciprocal.sprout (sprouts_joinWith h.toSound hnode hopen hne)

end Draft

namespace Stmt

open Draft

/-! ### Whole statements -/

/-- A statement that is drawn as one box keeps a draft retraceable. -/
theorem retraceable_single {stmt : Stmt} {box : Except Refusal Box} (hbox : stmt.box? = some box) :
    KeptBy Retraceable (stmt.draw .console) := by
  intro draft hdraft
  rw [run_draw_single .console hbox]
  cases box with
  | error refusal => exact hdraft
  | ok box =>
      have hplain := box?_plain hbox
      refine hdraft.append hplain.1 ?_ ?_
      · rcases box?_cases hbox with ⟨_, rfl⟩ | ⟨_, _, rfl⟩ | ⟨_, rfl⟩ | ⟨_, rfl⟩ <;> simp
      · rintro rfl
        cases hplain.2

/-- A refusal may come in either side of a condition. -/
theorem retraceable_ifElse {test : Expr} {body orelse : List Stmt}
    (hbody : KeptBy Retraceable (drawAll .console body))
    (horelse : KeptBy Retraceable (drawAll .console orelse)) :
    KeptBy Retraceable (draw .console (.ifElse test body orelse)) := by
  intro draft hdraft
  rw [run_draw_ifElse]
  cases hbox : conditionBox test with
  | error refusal => exact hdraft
  | ok box =>
      have hcond := isCondition_conditionBox hbox
      have hentered := hdraft.entered hcond
      simp only
      cases hrun : (drawAll .console body).run (draft.entered box) with
      | error refusal draft₁ => exact hbody.error hentered hrun
      | ok _ draft₁ =>
          have hyes := hbody.ok hentered hrun
          have hwithin := (within_entered hdraft.toSound hcond).leaves
            (completes_drawAll hentered.toSound hrun).toLeaves
          have hopened := hyes.openNo hwithin
          simp only
          cases hrun' : (drawAll .console orelse).run
              (draft₁.openBranch draft.chart.size .no) with
          | error refusal draft₂ => exact horelse.error hopened hrun'
          | ok _ draft₂ =>
              have hleaves := (completes_drawAll hopened.toSound hrun').toLeaves
              -- The end of the side for `yes` has waited for the join all the while.
              obtain ⟨last, hlast, hopen, hne⟩ := hwithin.other_end hyes.toSound hleaves
              exact (horelse.ok hopened hrun').joinWith hlast hopen hne

/-- What a drawing on a console leaves behind can be retraced, be it refused or not. -/
theorem retraceable_draw (stmt : Stmt) : KeptBy Retraceable (stmt.draw .console) := by
  induction stmt using nestedInduction with
  | single stmt box hbox => exact retraceable_single hbox
  | ifElse test body orelse hbody horelse =>
      exact retraceable_ifElse (keptBy_drawAll hbody) (keptBy_drawAll horelse)
  | whileLoop test body orelse refusal hbody =>
      rw [draw]
      exact keptBy_throw refusal
  | skip =>
      rw [draw]
      exact keptBy_pure ()
  | program body hbody =>
      rw [draw]
      exact .bind (keptBy_drawAll hbody) fun _ => keptBy_pure ()
  | refused refusal =>
      rw [draw]
      exact keptBy_throw refusal

end Stmt

namespace Draft

/-! ### Series of calls -/

/-- The chart on a console after any series of calls, each of which may succeed or be refused at any
depth.  The start has no parent.  Every other node that is reached has a parent, which is reached
and has a link to it, and every join is also what the end of its other path leads on to.  Conversely
a link is open or leads to a node drawn from the one it belongs to: that one is the parent or, for a
join, the end of the other path. -/
theorem parents_match_links_afterAll (calls : List Stmt) :
    let chart := (afterAll .console calls).chart
    (∃ node, chart[0]? = some node ∧ node.box = .start ∧ node.parent = none) ∧
    (∀ v, chart.Reaches 0 v → v ≠ 0 → ∃ node p, chart[v]? = some node ∧ node.parent = some p ∧
      chart.Reaches 0 p ∧ chart.Leads p (.node v)) ∧
    (∀ v node, chart[v]? = some node → node.box = .join →
      ∃ q, node.otherParent = some q ∧ chart.Reaches 0 q ∧ chart.Next q v) ∧
    (∀ p target, chart.Leads p target → target = .nowhere ∨
      ∃ v node, target = .node v ∧ chart[v]? = some node ∧
        (node.parent = some p ∨ node.box = .join ∧ node.otherParent = some p)) := by
  intro chart
  have hdraft : (afterAll .console calls).Retraceable :=
    Stmt.KeptBy.afterAll Stmt.retraceable_draw retraceable_empty calls
  have hbuilt : chart.Built := hdraft.built
  have hreciprocal : chart.Reciprocal := hdraft.reciprocal
  refine ⟨hreciprocal.start, ?_, ?_, ?_⟩
  · intro v hreached hne
    obtain ⟨start, hstart, -⟩ := hreciprocal.start
    obtain ⟨node, hnode⟩ :=
      Chart.exists_node (hbuilt.toTidy.lt_size_of_reaches (Chart.lt_size hstart) hreached)
    obtain ⟨p, hp⟩ := hreciprocal.parent hnode hne
    have hleads : chart.Leads p (.node v) := hreciprocal.leads_iff.mpr ⟨node, hnode, Or.inl hp⟩
    exact ⟨node, p, hnode, hp, hbuilt.connected hleads.lt_size, hleads⟩
  · intro v node hnode hbox
    obtain ⟨q, hq, hnext⟩ := hreciprocal.join hnode hbox
    have hleads : chart.Leads q (.node v) :=
      hreciprocal.leads_iff.mpr ⟨node, hnode, Or.inr ⟨hbox, hq⟩⟩
    exact ⟨q, hq, hbuilt.connected hleads.lt_size, hnext⟩
  · intro p target hleads
    by_cases hopen : target = .nowhere
    · exact Or.inl hopen
    · -- A link that is not open leads to a node, which was drawn from here.
      have hwithin : target.Within chart.size := by
        obtain ⟨parent, hparent, hlink⟩ := hleads
        exact hbuilt.within hparent target hlink
      obtain ⟨v, rfl, -⟩ := Chart.exists_of_within hwithin hopen
      obtain ⟨node, hnode, hfrom⟩ := hreciprocal.leads_iff.mp hleads
      exact Or.inr ⟨v, node, rfl, hnode, hfrom⟩

end Draft

end Flowchart
