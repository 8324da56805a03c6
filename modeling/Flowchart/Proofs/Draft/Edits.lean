import Flowchart.Chart.Draft
import Flowchart.Proofs.Chart.Edits

/-!
# `Flowchart.Proofs.Draft.Edits`: one change of a draft

A draft is changed in four ways: a box is drawn after the current node (`append`), a side of a
condition is opened (`openBranch`), two paths are joined (`joinWith`) and a path is led back to an
earlier node (`closeLoop`).  For each of them this module says which nodes are changed and how, that
the chart is extended (`extends_append` and so on), and what is still true of it afterwards:

* `Chart.Built`: the chart is tidy, exactly the conditions branch, no node has a number, and every
  node is reached from the start.
* `Sound`: the chart is built, and the current node has one link, which is open.
-/

set_option autoImplicit false

namespace Flowchart

namespace Chart

/-! ### Built charts -/

/-- A tidy chart in which every condition branches and no node has a number yet. -/
structure Formed (chart : Chart) : Prop extends Tidy chart where
  branches : ∀ {v : NodeId} {node : Node}, chart[v]? = some node →
    node.box.isCondition = true → node.exit.isBranch = true
  fresh : ∀ {v : NodeId} {node : Node}, chart[v]? = some node → node.index = none

/-- A formed chart that begins with a start, from which every node is reached. -/
structure Built (chart : Chart) : Prop extends Formed chart where
  start : chart.Holds 0 .start
  connected : ∀ {v : NodeId}, v < chart.size → chart.Reaches 0 v

/-- A condition branches at once, and every other box leads on; all links are open. -/
theorem isBranch_ofBox (box : Box) : (Node.ofBox box).exit.isBranch = box.isCondition := by
  cases box <;> rfl

/-- The links of a new node are open. -/
theorem eq_nowhere_of_mem_ofBox {box : Box} {target : Link}
    (h : target ∈ (Node.ofBox box).exit.links) : target = .nowhere := by
  cases box <;> simp_all [Node.ofBox, Exit.links]

/-- A new node keeps a chart formed. -/
theorem Formed.add {chart : Chart} (h : chart.Formed) (node : Node)
    (hexit : node.exit = (Node.ofBox node.box).exit) (hindex : node.index = none) :
    (chart.add node).Formed where
  within := by
    intro v old hv target ht
    rw [getElem?_add] at hv
    rw [size_add]
    split at hv
    · cases hv
      rw [hexit] at ht
      rw [eq_nowhere_of_mem_ofBox ht]
      trivial
    · exact (h.within hv target ht).mono (Nat.le_succ _)
  condition := by
    intro v old hv hb
    rw [getElem?_add] at hv
    split at hv
    · cases hv
      rwa [hexit, isBranch_ofBox] at hb
    · exact h.condition hv hb
  branches := by
    intro v old hv hb
    rw [getElem?_add] at hv
    split at hv
    · cases hv
      rwa [hexit, isBranch_ofBox]
    · exact h.branches hv hb
  fresh := by
    intro v old hv
    rw [getElem?_add] at hv
    split at hv
    · cases hv
      exact hindex
    · exact h.fresh hv

/-- Another exit of the same form at one node keeps a chart formed. -/
theorem Formed.withExit {chart chart' : Chart} (h : chart.Formed) (hsize : chart'.size = chart.size)
    {u : NodeId} {node : Node} (hu : chart[u]? = some node) (exit : Exit)
    (hform : exit.isBranch = node.exit.isBranch)
    (hwithin : ∀ target ∈ exit.links, target.Within chart.size)
    (hnew : ∀ v, chart'[v]? = if u = v then some { node with exit } else chart[v]?) :
    chart'.Formed := by
  -- A node of the new chart is one of the old ones, or the one with the other exit.
  have hcases : ∀ {v : NodeId} {new : Node}, chart'[v]? = some new →
      chart[v]? = some new ∨ new = { node with exit } := by
    intro v new hv
    rw [hnew] at hv
    split at hv
    · cases hv
      exact Or.inr rfl
    · exact Or.inl hv
  refine { within := ?_, condition := ?_, branches := ?_, fresh := ?_ }
  · intro v new hv target ht
    rw [hsize]
    rcases hcases hv with hv | rfl
    · exact h.within hv target ht
    · exact hwithin target ht
  · intro v new hv hb
    rcases hcases hv with hv | rfl
    · exact h.condition hv hb
    · have hold : node.exit.isBranch = true := hform.symm.trans hb
      exact (h.condition hu hold :)
  · intro v new hv hb
    rcases hcases hv with hv | rfl
    · exact h.branches hv hb
    · exact hform.trans (h.branches hu hb)
  · intro v new hv
    rcases hcases hv with hv | rfl
    · exact h.fresh hv
    · exact (h.fresh hu :)

/-- Turning the link of a node that leads on keeps a chart formed. -/
theorem Formed.setNext {chart : Chart} (h : chart.Formed) {u : NodeId} {node : Node}
    (hu : chart[u]? = some node) (hnext : node.exit.isBranch = false) {target : Link}
    (ht : target.Within chart.size) : (chart.setNext u target).Formed := by
  refine h.withExit (size_setNext ..) hu (.next target) hnext.symm ?_
    (getElem?_setNext_of_some hu target)
  intro l hl
  rw [List.mem_singleton.mp hl]
  exact ht

/-- Turning a side of a branch keeps a chart formed. -/
theorem Formed.setSlot {chart : Chart} (h : chart.Formed) {u : NodeId} {node : Node}
    (hu : chart[u]? = some node) (side : Branch) {target : Link}
    (ht : target.Within chart.size) : (chart.setSlot u side target).Formed := by
  refine h.withExit (size_setSlot ..) hu (node.exit.setSlot side target) ?_ ?_
    (h.setSlot_of_some hu side target)
  · cases node.exit <;> cases side <;> rfl
  · intro l hl
    have hold := h.within hu
    cases he : node.exit <;> cases side <;> simp_all [Exit.setSlot, Exit.links] <;>
      rcases hl with rfl | rfl <;> simp_all

/-- A chart stays built when it is extended by nodes to which old ones lead. -/
theorem Built.extend {chart chart' : Chart} (h : chart.Built) (hformed : chart'.Formed)
    (hext : chart.Extends chart')
    (hnew : ∀ v, chart.size ≤ v → v < chart'.size →
      ∃ u, u < chart.size ∧ chart'.Leads u (.node v)) :
    chart'.Built where
  toFormed := hformed
  start := hext.holds h.start
  connected := by
    intro v hv
    -- The way to a new node goes along the old links and then along one new link.
    rcases Nat.lt_or_ge v chart.size with hold | hge
    · exact hext.reaches (h.connected hold)
    · obtain ⟨u, hu, hlead⟩ := hnew v hge hv
      exact (hext.reaches (h.connected hu)).tail hlead

end Chart

namespace Draft

/-- The only node of the empty draft is its start. -/
theorem getElem?_empty {v : NodeId} {node : Node} (h : empty.chart[v]? = some node) :
    v = 0 ∧ node = Node.ofBox .start := by
  have hv : v = 0 := Nat.lt_one_iff.mp (Chart.lt_size h)
  subst hv
  exact ⟨rfl, (Option.some.inj h).symm⟩

/-- A box that is drawn is one more node. -/
@[simp] theorem size_append (draft : Draft) (box : Box) :
    (draft.append box).chart.size = draft.chart.size + 1 := by
  simp [append]

/-- The head of a side is one more node. -/
@[simp] theorem size_openBranch (draft : Draft) (condition : NodeId) (side : Branch) :
    (draft.openBranch condition side).chart.size = draft.chart.size + 1 := by
  simp [openBranch]

/-- The head of a side becomes the current node. -/
theorem current_openBranch (draft : Draft) (condition : NodeId) (side : Branch) :
    (draft.openBranch condition side).current = draft.chart.size :=
  rfl

/-- A join is one more node. -/
@[simp] theorem size_joinWith (draft : Draft) (other : NodeId) :
    (draft.joinWith other).chart.size = draft.chart.size + 1 := by
  simp [joinWith]

/-- A path that is led back needs no node. -/
@[simp] theorem size_closeLoop (draft : Draft) (top : NodeId) :
    (draft.closeLoop top).chart.size = draft.chart.size := by
  simp [closeLoop]

/-! ### One change of a draft -/

/-- A draft with a built chart whose current node has one open link. -/
structure Sound (draft : Draft) : Prop where
  built : draft.chart.Built
  ready : ∃ node, draft.chart[draft.current]? = some node ∧ node.exit = .next .nowhere

/-- The current node is there. -/
theorem Sound.current_lt {draft : Draft} (h : draft.Sound) : draft.current < draft.chart.size := by
  obtain ⟨node, hnode, -⟩ := h.ready
  exact Chart.lt_size hnode

/-- The draft that holds a start only is sound. -/
theorem sound_empty : empty.Sound where
  built := {
    within := by
      intro v node hv target ht
      obtain ⟨rfl, rfl⟩ := getElem?_empty hv
      rw [Chart.eq_nowhere_of_mem_ofBox ht]
      trivial
    condition := by
      intro v node hv hb
      obtain ⟨rfl, rfl⟩ := getElem?_empty hv
      exact nomatch hb
    branches := by
      intro v node hv hb
      obtain ⟨rfl, rfl⟩ := getElem?_empty hv
      exact nomatch hb
    fresh := by
      intro v node hv
      obtain ⟨rfl, rfl⟩ := getElem?_empty hv
      rfl
    start := ⟨_, rfl, rfl⟩
    connected := by
      intro v hv
      have hzero : v = 0 := Nat.lt_one_iff.mp hv
      subst hzero
      exact .refl }
  ready := ⟨_, rfl, rfl⟩

/-- What a box that is drawn becomes: a node whose parent is the former current one. -/
theorem getElem?_append_new {draft : Draft} (h : draft.current < draft.chart.size) (box : Box) :
    (draft.append box).chart[draft.chart.size]? = some { Node.ofBox box with
      parent := if box = .start then none else some draft.current } := by
  rw [append, Chart.getElem?_setNext, if_neg (Nat.ne_of_lt h), Chart.getElem?_add, if_pos rfl]

section Append
variable {draft : Draft} (h : draft.Sound) (box : Box)
include h

/-- The new node stands behind all others, with its links open. -/
theorem getElem?_append_size :
    ∃ node, (draft.append box).chart[draft.chart.size]? = some node ∧ node.box = box ∧
      node.exit = (Node.ofBox box).exit :=
  ⟨_, getElem?_append_new h.current_lt box, rfl, rfl⟩

omit h in
/-- Only the current node is changed. -/
theorem getElem?_append_of_ne {v : NodeId} (hv : v < draft.chart.size) (hne : v ≠ draft.current) :
    (draft.append box).chart[v]? = draft.chart[v]? := by
  rw [append, Chart.getElem?_setNext, if_neg (Ne.symm hne), Chart.getElem?_add,
    if_neg (Nat.ne_of_lt hv)]

/-- The former current node leads on to the new one. -/
theorem next_append : (draft.append box).chart.Next draft.current draft.chart.size := by
  obtain ⟨node, hnode, -⟩ := h.ready
  refine ⟨{ node with exit := .next (.node draft.chart.size) }, ?_, rfl⟩
  rw [append, Chart.getElem?_setNext, if_pos rfl, Chart.getElem?_add_of_some hnode]
  rfl

/-- Drawing a box extends the chart. -/
theorem extends_append : draft.chart.Extends (draft.append box).chart := by
  obtain ⟨node, hnode, hopen⟩ := h.ready
  exact (Chart.extends_add draft.chart _).trans
    (Chart.extends_setNext (Chart.getElem?_add_of_some hnode _) hopen _)

/-- The chart stays built when a box is drawn, even a condition. -/
theorem built_append : (draft.append box).chart.Built := by
  obtain ⟨node, hnode, hopen⟩ := h.ready
  refine h.built.extend ?_ (extends_append h box) ?_
  · refine (h.built.toFormed.add _ rfl rfl).setNext (Chart.getElem?_add_of_some hnode _)
      (by rw [hopen]; rfl) ?_
    rw [Chart.size_add]
    exact Nat.lt_succ_self _
  · intro v hge hlt
    rw [size_append] at hlt
    have hv : v = draft.chart.size := by omega
    subst hv
    exact ⟨draft.current, h.current_lt, (next_append h box).leads⟩

/-- A draft stays sound when a box other than a condition is drawn. -/
theorem Sound.append (hbox : box.isCondition = false) : (draft.append box).Sound where
  built := built_append h box
  ready := by
    obtain ⟨node, hnode, -, hexit⟩ := getElem?_append_size h box
    refine ⟨node, hnode, ?_⟩
    rw [hexit]
    cases box <;> first | rfl | exact nomatch hbox

end Append

/-- A chart stays tidy when the head of a branch is added. -/
theorem tidy_add_head {chart : Chart} (h : chart.Built) (condition : NodeId) :
    (chart.add { Node.ofBox .head with parent := some condition }).Tidy :=
  (h.toFormed.add _ rfl rfl).toTidy

section OpenBranch
variable {draft : Draft} (h : draft.chart.Built) {condition : NodeId} {node : Node}
  (hnode : draft.chart[condition]? = some node) (side : Branch)
include h hnode

/-- The parent of the head of a branch is the condition. -/
theorem getElem?_openBranch_new :
    (draft.openBranch condition side).chart[draft.chart.size]? =
      some { Node.ofBox .head with parent := some condition } := by
  have hne : condition ≠ draft.chart.size := Nat.ne_of_lt (Chart.lt_size hnode)
  have htidy := tidy_add_head h condition
  rw [openBranch, htidy.setSlot_eq, if_neg hne, Chart.getElem?_add, if_pos rfl]

/-- The head of the branch stands behind all other nodes, with its link open. -/
theorem getElem?_openBranch_size :
    ∃ head, (draft.openBranch condition side).chart[draft.chart.size]? = some head ∧
      head.box = .head ∧ head.exit = .next .nowhere :=
  ⟨_, getElem?_openBranch_new h hnode side, rfl, rfl⟩

/-- Only the condition is changed, at the side that is opened. -/
theorem getElem?_openBranch (v : NodeId) (hv : v < draft.chart.size) :
    (draft.openBranch condition side).chart[v]?
      = if condition = v then some { node with
          exit := node.exit.setSlot side (.node draft.chart.size) }
        else draft.chart[v]? := by
  have htidy := tidy_add_head h condition
  rw [openBranch, htidy.setSlot_of_some (Chart.getElem?_add_of_some hnode _), Chart.getElem?_add,
    if_neg (Nat.ne_of_lt hv)]

variable {side} (hbranch : node.exit.isBranch = true) (hopen : node.exit.slot side = .nowhere)
include hbranch hopen

/-- Opening a side that was open extends the chart. -/
theorem extends_openBranch :
    draft.chart.Extends (draft.openBranch condition side).chart := by
  have htidy := tidy_add_head h condition
  exact (Chart.extends_add draft.chart _).trans
    (Chart.extends_setSlot htidy (Chart.getElem?_add_of_some hnode _) hbranch hopen _)

/-- A draft becomes sound when an open side of a condition is opened. -/
theorem sound_openBranch : (draft.openBranch condition side).Sound where
  built := by
    have hlt := Chart.lt_size hnode
    refine h.extend ?_ (extends_openBranch h hnode hbranch hopen) ?_
    · refine (h.toFormed.add _ rfl rfl).setSlot (Chart.getElem?_add_of_some hnode _) side ?_
      rw [Chart.size_add]
      exact Nat.lt_succ_self _
    · intro v hge hv
      rw [size_openBranch] at hv
      have hsize : v = draft.chart.size := by omega
      subst hsize
      have hnew := getElem?_openBranch h hnode side condition hlt
      rw [if_pos rfl] at hnew
      refine ⟨condition, hlt, _, hnew, ?_⟩
      cases he : node.exit with
      | next target => rw [he] at hbranch; exact nomatch hbranch
      | branch no yes => cases side <;> simp [Exit.setSlot, Exit.links]
  ready := by
    obtain ⟨head, hhead, -, hexit⟩ := getElem?_openBranch_size h hnode side
    exact ⟨head, hhead, hexit⟩

end OpenBranch

/-- With the other path turned to the join, the current node still is as it was. -/
theorem getElem?_joinWith_half {draft : Draft} {other : NodeId} (hne : other ≠ draft.current)
    {last : Node} (hlast : draft.chart[draft.current]? = some last) (join : Node) :
    (Chart.setNext (draft.chart.add join) other (.node draft.chart.size))[draft.current]? =
      some last := by
  rw [Chart.getElem?_setNext, if_neg hne, Chart.getElem?_add_of_some hlast]

section JoinWith
variable {draft : Draft} (h : draft.Sound) {other : NodeId} {node : Node}
  (hnode : draft.chart[other]? = some node)
include h hnode

/-- The parents of a join are the ends of the two paths. -/
theorem getElem?_joinWith_new :
    (draft.joinWith other).chart[draft.chart.size]? = some { Node.ofBox .join with
      parent := some draft.current, otherParent := some other } := by
  have hne : other ≠ draft.chart.size := Nat.ne_of_lt (Chart.lt_size hnode)
  have hcurrent : draft.current ≠ draft.chart.size := Nat.ne_of_lt h.current_lt
  rw [joinWith, Chart.getElem?_setNext, if_neg hcurrent, Chart.getElem?_setNext, if_neg hne,
    Chart.getElem?_add, if_pos rfl]

/-- The join stands behind all other nodes, with its link open. -/
theorem getElem?_joinWith_size :
    ∃ join, (draft.joinWith other).chart[draft.chart.size]? = some join ∧
      join.box = .join ∧ join.exit = .next .nowhere :=
  ⟨_, getElem?_joinWith_new h hnode, rfl, rfl⟩

omit h hnode in
/-- Only the ends of the two paths are changed. -/
theorem getElem?_joinWith_of_ne {v : NodeId} (hv : v < draft.chart.size)
    (hother : v ≠ other) (hcurrent : v ≠ draft.current) :
    (draft.joinWith other).chart[v]? = draft.chart[v]? := by
  rw [joinWith, Chart.getElem?_setNext, if_neg (Ne.symm hcurrent), Chart.getElem?_setNext,
    if_neg (Ne.symm hother), Chart.getElem?_add, if_neg (Nat.ne_of_lt hv)]

/-- Both paths lead to the join. -/
theorem next_joinWith (u : NodeId) (hu : u = other ∨ u = draft.current) :
    (draft.joinWith other).chart.Next u draft.chart.size := by
  have hlt : u < draft.chart.size := by
    rcases hu with rfl | rfl
    · exact Chart.lt_size hnode
    · exact h.current_lt
  obtain ⟨old, hold⟩ := Chart.exists_node hlt
  refine ⟨{ old with exit := .next (.node draft.chart.size) }, ?_, rfl⟩
  rw [joinWith, Chart.getElem?_setNext, Chart.getElem?_setNext, Chart.getElem?_add,
    if_neg (Nat.ne_of_lt hlt), hold]
  rcases hu with rfl | rfl
  · rw [if_pos rfl]
    split <;> rfl
  · rw [if_pos rfl]
    split <;> rfl

variable (hopen : node.exit = .next .nowhere) (hne : other ≠ draft.current)
include hopen hne

/-- Joining two open paths extends the chart. -/
theorem extends_joinWith : draft.chart.Extends (draft.joinWith other).chart := by
  obtain ⟨last, hlast, hlastOpen⟩ := h.ready
  -- The join is added, then the other path is turned to it, and then the current one.
  exact ((Chart.extends_add draft.chart _).trans (Chart.extends_setNext
    (Chart.getElem?_add_of_some hnode _) hopen (.node draft.chart.size))).trans
    (Chart.extends_setNext (getElem?_joinWith_half hne hlast _) hlastOpen _)

/-- A draft stays sound when its path is joined with another open one. -/
theorem sound_joinWith : (draft.joinWith other).Sound where
  built := by
    obtain ⟨last, hlast, hlastOpen⟩ := h.ready
    have hwithin : (Link.node draft.chart.size).Within (draft.chart.size + 1) := Nat.lt_succ_self _
    refine h.built.extend ?_ (extends_joinWith h hnode hopen hne) ?_
    · have hadd := h.built.toFormed.add { Node.ofBox .join with
        parent := some draft.current, otherParent := some other } rfl rfl
      have hfirst := hadd.setNext (Chart.getElem?_add_of_some hnode _) (by rw [hopen]; rfl)
        (by rw [Chart.size_add]; exact hwithin)
      exact hfirst.setNext (getElem?_joinWith_half hne hlast _) (by rw [hlastOpen]; rfl)
        (by rw [Chart.size_setNext, Chart.size_add]; exact hwithin)
    · intro v hge hlt
      rw [size_joinWith] at hlt
      have hv : v = draft.chart.size := by omega
      subst hv
      exact ⟨draft.current, h.current_lt,
        (next_joinWith h hnode draft.current (Or.inr rfl)).leads⟩
  ready := by
    obtain ⟨join, hjoin, -, hexit⟩ := getElem?_joinWith_size h hnode
    exact ⟨join, hjoin, hexit⟩

end JoinWith

section CloseLoop
variable {draft : Draft} (h : draft.Sound) {top : NodeId}

/-- Only the current node is changed. -/
theorem getElem?_closeLoop_of_ne {v : NodeId} (hne : v ≠ draft.current) :
    (draft.closeLoop top).chart[v]? = draft.chart[v]? := by
  rw [closeLoop, Chart.getElem?_setNext, if_neg (Ne.symm hne)]

include h

/-- The path leads back to the given node. -/
theorem next_closeLoop : (draft.closeLoop top).chart.Next draft.current top := by
  obtain ⟨node, hnode, -⟩ := h.ready
  refine ⟨{ node with exit := .next (.node top) }, ?_, rfl⟩
  rw [closeLoop, Chart.getElem?_setNext, if_pos rfl, hnode]
  rfl

/-- Leading an open path back extends the chart. -/
theorem extends_closeLoop : draft.chart.Extends (draft.closeLoop top).chart := by
  obtain ⟨node, hnode, hopen⟩ := h.ready
  exact Chart.extends_setNext hnode hopen _

/-- A chart stays built when its path leads back to one of its nodes. -/
theorem built_closeLoop (htop : top < draft.chart.size) : (draft.closeLoop top).chart.Built := by
  obtain ⟨node, hnode, hopen⟩ := h.ready
  refine h.built.extend ?_ (extends_closeLoop h) ?_
  · exact h.built.toFormed.setNext hnode (by rw [hopen]; rfl) htop
  · intro v hge hlt
    rw [size_closeLoop] at hlt
    omega

end CloseLoop

end Draft

end Flowchart
