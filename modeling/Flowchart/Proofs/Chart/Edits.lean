import Flowchart.Chart.Basic
import Mathlib.Logic.Relation

/-!
# `Flowchart.Proofs.Chart.Edits`: reading a chart after it was changed

A chart is changed by adding a node, by turning a link and by recording a number.  The first part of
this module says what `chart[v]?` is after each of these changes.  The rest names the facts that
the passes over a chart rest on:

* `Tidy`: every link is open or leads to a node of the chart, and only conditions branch.  In such a
  chart no node shares the branches of another, so that `exit?` reads the node itself
  (`Tidy.exit?_eq`) and `setSlot` writes to it (`Tidy.setSlot_eq`).
* `Leads` and `Reaches`: one step, and any number of steps, along the links.
* `Extends`: the second chart has the nodes of the first one and maybe more, and differs at the old
  nodes only by links that were open.  `Extends.trans` composes changes, `Extends.reaches` carries
  paths over, and `Holds`, `Next` and `Forks` are facts about a chart that survive every extension.
-/

set_option autoImplicit false

namespace Flowchart

/-! ### Links and exits -/

/-- A link that is open or leads to one of the first `size` nodes. -/
def Link.Within (size : Nat) : Link → Prop
  | nowhere => True
  | node v => v < size
  | fork _ => False

instance (size : Nat) : DecidablePred (Link.Within size)
  | .nowhere => isTrue trivial
  | .node v => inferInstanceAs (Decidable (v < size))
  | .fork _ => isFalse id

/-- A link within a chart stays within every larger one. -/
theorem Link.Within.mono {size size' : Nat} (h : size ≤ size') :
    ∀ {target : Link}, target.Within size → target.Within size'
  | .nowhere, _ => trivial
  | .node _, hv => Nat.lt_of_lt_of_le hv h
  | .fork _, hv => hv.elim

/-- The second link is what became of the first one when at most an open link was turned. -/
def Link.Fills (old new : Link) : Prop :=
  old = .nowhere ∨ new = old

/-- A link that was turned is not turned again. -/
theorem Link.Fills.trans {a b c : Link} (hab : a.Fills b) (hbc : b.Fills c) : a.Fills c := by
  rcases hab with ha | hb
  · exact Or.inl ha
  · rw [hb] at hbc
    exact hbc

/-- A link to a node stays as it is. -/
theorem Link.Fills.eq_node {v : NodeId} {new : Link} (h : (Link.node v).Fills new) :
    new = .node v := by
  rcases h with h | h
  · exact nomatch h
  · exact h

namespace Exit

/-- The links of an exit, the one for `no` first. -/
def links : Exit → List Link
  | next target => [target]
  | branch no yes => [no, yes]

/-- Whether an exit has two sides. -/
def isBranch : Exit → Bool
  | next _ => false
  | branch _ _ => true

/-- An exit that leads on has the link it leads to. -/
theorem mem_links_of_next {exit : Exit} {target : Link} (h : exit = .next target) :
    target ∈ exit.links := by
  rw [h]
  exact List.mem_singleton_self _

/-- Two exits of one form whose links are related side by side. -/
def Rel (r : Link → Link → Prop) : Exit → Exit → Prop
  | next old, next new => r old new
  | branch no yes, branch no' yes' => r no no' ∧ r yes yes'
  | _, _ => False

/-- An exit is related to itself if every link is. -/
theorem Rel.refl {r : Link → Link → Prop} (h : ∀ target, r target target) (exit : Exit) :
    exit.Rel r exit := by
  cases exit with
  | next target => exact h target
  | branch no yes => exact ⟨h no, h yes⟩

/-- Relations of exits compose as those of links do. -/
theorem Rel.trans {r : Link → Link → Prop} (h : ∀ a b c, r a b → r b c → r a c) {a b c : Exit}
    (hab : a.Rel r b) (hbc : b.Rel r c) : a.Rel r c := by
  cases a <;> cases b <;> cases c <;> simp only [Rel] at hab hbc ⊢
  · exact h _ _ _ hab hbc
  · exact ⟨h _ _ _ hab.1 hbc.1, h _ _ _ hab.2 hbc.2⟩

/-- Another relation holds if it holds of all links that are there. -/
theorem Rel.imp_of_mem {r r' : Link → Link → Prop} {old new : Exit} (h : old.Rel r new)
    (himp : ∀ a ∈ old.links, ∀ b ∈ new.links, r a b → r' a b) : old.Rel r' new := by
  cases old <;> cases new <;> simp_all [Rel, links]

/-- Related exits have the same form. -/
theorem Rel.isBranch_eq {r : Link → Link → Prop} {old new : Exit} (h : old.Rel r new) :
    new.isBranch = old.isBranch := by
  cases old <;> cases new <;> simp_all [Rel, isBranch]

/-- Every link of the first exit has its counterpart in the second one. -/
theorem Rel.exists_new {r : Link → Link → Prop} {old new : Exit} (h : old.Rel r new)
    {target : Link} (ht : target ∈ old.links) : ∃ target' ∈ new.links, r target target' := by
  cases old <;> cases new <;> simp only [Rel, links, List.mem_cons, List.not_mem_nil,
    or_false, exists_eq_or_imp, exists_eq_left] at h ht ⊢
  · rw [ht]
    exact h
  · rcases ht with ht | ht
    · rw [ht]
      exact Or.inl h.1
    · rw [ht]
      exact Or.inr h.2

/-- Exits can be related the other way round. -/
theorem Rel.swap {r : Link → Link → Prop} {old new : Exit} (h : old.Rel r new) :
    new.Rel (Function.swap r) old := by
  cases old <;> cases new <;> exact h

/-- Every link of the second of two related exits has its counterpart in the first. -/
theorem Rel.exists_old {r : Link → Link → Prop} {old new : Exit} (h : old.Rel r new)
    {target : Link} (ht : target ∈ new.links) : ∃ target' ∈ old.links, r target' target :=
  h.swap.exists_new ht

/-- The sides of related exits are related. -/
theorem Rel.slot {r : Link → Link → Prop} {old new : Exit} (h : old.Rel r new)
    (hbranch : old.isBranch = true) (side : Branch) : r (old.slot side) (new.slot side) := by
  cases old with
  | next target => exact nomatch hbranch
  | branch no yes =>
      cases new with
      | next target => exact h.elim
      | branch no' yes' =>
          cases side with
          | no => exact h.1
          | yes => exact h.2

/-- The links of a branch are its sides. -/
theorem mem_links_iff_slot {exit : Exit} (hbranch : exit.isBranch = true) {target : Link} :
    target ∈ exit.links ↔ ∃ side, exit.slot side = target := by
  cases exit with
  | next target => exact nomatch hbranch
  | branch no yes =>
      simp only [links, List.mem_cons, List.not_mem_nil, or_false]
      constructor
      · rintro (rfl | rfl)
        · exact ⟨.no, rfl⟩
        · exact ⟨.yes, rfl⟩
      · rintro ⟨side, rfl⟩
        cases side with
        | no => exact Or.inl rfl
        | yes => exact Or.inr rfl

/-- The second exit is what became of the first one when at most open links were turned. -/
abbrev Fills : Exit → Exit → Prop :=
  Rel Link.Fills

/-- An exit of which no link was turned. -/
theorem Fills.refl (exit : Exit) : exit.Fills exit :=
  Rel.refl (fun _ => Or.inr rfl) exit

/-- Links may be turned one after the other. -/
theorem Fills.trans {a b c : Exit} (hab : a.Fills b) (hbc : b.Fills c) : a.Fills c :=
  Rel.trans (r := Link.Fills) (fun _ _ _ h h' => h.trans h') hab hbc

/-- A link to a node stays among the links of an exit. -/
theorem Fills.node_mem {old new : Exit} {v : NodeId} (h : old.Fills new)
    (hv : Link.node v ∈ old.links) : Link.node v ∈ new.links := by
  obtain ⟨target, ht, hfill⟩ := Rel.exists_new h hv
  rw [← hfill.eq_node]
  exact ht

end Exit

/-- Whether a box is a condition. -/
def Box.isCondition : Box → Bool
  | condition _ => true
  | _ => false

/-- A joint is no condition. -/
theorem Box.isCondition_of_isJoint {box : Box} (h : box.isJoint = true) :
    box.isCondition = false := by
  cases box <;> simp_all [isJoint, isCondition]

namespace Chart

/-! ### What a changed chart holds -/

/-- The nodes of a chart with one more. -/
theorem getElem?_add (chart : Chart) (node : Node) (v : NodeId) :
    (chart.add node)[v]? = if v = chart.size then some node else chart[v]? :=
  Array.getElem?_push

/-- Turning the link of a node changes that node only. -/
theorem getElem?_setNext (chart : Chart) (u : NodeId) (target : Link) (v : NodeId) :
    (chart.setNext u target)[v]?
      = if u = v then chart[v]?.map ({ · with exit := .next target }) else chart[v]? :=
  Array.getElem?_modify

/-- A link that is turned at a node which is there. -/
theorem getElem?_setNext_of_some {chart : Chart} {u : NodeId} {node : Node}
    (hu : chart[u]? = some node) (target : Link) (v : NodeId) :
    (chart.setNext u target)[v]?
      = if u = v then some { node with exit := .next target } else chart[v]? := by
  rw [getElem?_setNext]
  split
  · subst u
    rw [hu]
    rfl
  · rfl

/-- Recording a number changes the node that gets it, and no other. -/
theorem getElem?_setIndex (chart : Chart) (u : NodeId) (index : Int) (v : NodeId) :
    (chart.setIndex u index)[v]?
      = if u = v then chart[v]?.map ({ · with index := some index }) else chart[v]? :=
  Array.getElem?_modify

/-- A node that is there has a number below the size. -/
theorem lt_size {chart : Chart} {v : NodeId} {node : Node} (h : chart[v]? = some node) :
    v < chart.size := by
  obtain ⟨hv, -⟩ := Array.getElem?_eq_some_iff.mp h
  exact hv

/-- A new node leaves the others where they are. -/
theorem getElem?_add_of_some {chart : Chart} {v : NodeId} {old : Node} (h : chart[v]? = some old)
    (node : Node) : (chart.add node)[v]? = some old := by
  rw [getElem?_add, if_neg (Nat.ne_of_lt (lt_size h)), h]

/-- Every number below the size has a node. -/
theorem exists_node {chart : Chart} {v : NodeId} (h : v < chart.size) :
    ∃ node, chart[v]? = some node :=
  ⟨chart[v], Array.getElem?_eq_getElem h⟩

/-- A link that is not open leads to a node of the chart. -/
theorem exists_of_within {size : Nat} {target : Link} (h : target.Within size)
    (hne : target ≠ .nowhere) : ∃ w, target = .node w ∧ w < size := by
  cases target with
  | nowhere => exact absurd rfl hne
  | node w => exact ⟨w, rfl, h⟩
  | fork owner => exact h.elim

/-- Charts of one size have nodes under the same numbers. -/
theorem getElem?_eq_none_of_size {chart chart' : Chart} (h : chart'.size = chart.size) {v : NodeId}
    (hnone : chart[v]? = none) : chart'[v]? = none := by
  rw [Array.getElem?_eq_none_iff] at hnone ⊢
  rw [h]
  exact hnone

/-! ### Tidy charts -/

/-- Every link is open or leads to a node of the chart, and only conditions branch. -/
structure Tidy (chart : Chart) : Prop where
  within : ∀ {v : NodeId} {node : Node}, chart[v]? = some node →
    ∀ target ∈ node.exit.links, target.Within chart.size
  condition : ∀ {v : NodeId} {node : Node}, chart[v]? = some node →
    node.exit.isBranch = true → node.box.isCondition = true

/-- Whether a chart is tidy can be looked up node by node. -/
theorem tidy_iff {chart : Chart} : chart.Tidy ↔ ∀ node ∈ chart.toList,
    (∀ target ∈ node.exit.links, target.Within chart.size) ∧
      (node.exit.isBranch = true → node.box.isCondition = true) := by
  constructor
  · intro h node hnode
    obtain ⟨v, hv⟩ := List.mem_iff_getElem?.mp hnode
    rw [Array.getElem?_toList] at hv
    exact ⟨h.within hv, h.condition hv⟩
  · intro h
    have hmem : ∀ {v : NodeId} {node : Node}, chart[v]? = some node → node ∈ chart.toList :=
      fun hv => Array.mem_toList_iff.mpr (Array.mem_of_getElem? hv)
    exact ⟨fun hv => (h _ (hmem hv)).1, fun hv => (h _ (hmem hv)).2⟩

instance (chart : Chart) : Decidable chart.Tidy :=
  decidable_of_iff _ tidy_iff.symm

/-- No node of a tidy chart shares the branches of another. -/
theorem Tidy.owner_eq {chart : Chart} (h : chart.Tidy) (v : NodeId) : chart.owner v = v := by
  unfold owner
  cases hv : chart[v]? with
  | none => rfl
  | some node =>
      have hw := h.within hv
      cases he : node.exit with
      | branch no yes => simp [he]
      | next target =>
          cases target with
          | nowhere => simp [he]
          | node w => simp [he]
          | fork w =>
              -- A link to bare branches is not within the chart.
              exact ((hw (.fork w) (by simp [he, Exit.links])) : False).elim

/-- In a tidy chart a node leads where its own exit says. -/
theorem Tidy.exit?_eq {chart : Chart} (h : chart.Tidy) (v : NodeId) :
    chart.exit? v = chart[v]?.map Node.exit := by
  rw [exit?, h.owner_eq]

/-- In a tidy chart a side of a branching node is a side of its exit. -/
theorem Tidy.slot_eq {chart : Chart} (h : chart.Tidy) {v : NodeId} {node : Node}
    (hnode : chart[v]? = some node) (side : Branch) : chart.slot v side = node.exit.slot side := by
  rw [slot, h.exit?_eq, hnode]
  rfl

/-- In a tidy chart a side of a node is turned at the node itself. -/
theorem Tidy.setSlot_eq {chart : Chart} (h : chart.Tidy) (u : NodeId) (side : Branch)
    (target : Link) (v : NodeId) :
    (chart.setSlot u side target)[v]?
      = if u = v then chart[v]?.map fun node => { node with exit := node.exit.setSlot side target }
        else chart[v]? := by
  rw [setSlot, h.owner_eq, Array.getElem?_modify]

/-- A side that is turned at a node which is there. -/
theorem Tidy.setSlot_of_some {chart : Chart} (h : chart.Tidy) {u : NodeId} {node : Node}
    (hu : chart[u]? = some node) (side : Branch) (target : Link) (v : NodeId) :
    (chart.setSlot u side target)[v]?
      = if u = v then some { node with exit := node.exit.setSlot side target } else chart[v]? := by
  rw [h.setSlot_eq]
  split
  · subst u
    rw [hu]
    rfl
  · rfl

/-- A joint of a tidy chart leads on to one link. -/
theorem Tidy.joint_exit {chart : Chart} (h : chart.Tidy) {v : NodeId} {node : Node}
    (hv : chart[v]? = some node) (hj : node.box.isJoint = true) :
    ∃ target, node.exit = .next target := by
  cases he : node.exit with
  | next target => exact ⟨target, rfl⟩
  | branch no yes =>
      have hc := h.condition hv (by simp [he, Exit.isBranch])
      rw [Box.isCondition_of_isJoint hj] at hc
      exact nomatch hc

/-- A node that branches is no joint. -/
theorem Tidy.isJoint_of_isBranch {chart : Chart} (h : chart.Tidy) {v : NodeId} {node : Node}
    (hv : chart[v]? = some node) (hbranch : node.exit.isBranch = true) :
    node.box.isJoint = false := by
  cases hj : node.box.isJoint with
  | false => rfl
  | true =>
      obtain ⟨target, htarget⟩ := h.joint_exit hv hj
      rw [htarget] at hbranch
      exact nomatch hbranch

/-! ### Steps along the links -/

/-- The node has the given link. -/
def Leads (chart : Chart) (v : NodeId) (target : Link) : Prop :=
  ∃ node, chart[v]? = some node ∧ target ∈ node.exit.links

/-- A link of a node is among those of its exit. -/
theorem Leads.mem {chart : Chart} {v : NodeId} {target : Link} {node : Node}
    (h : chart.Leads v target) (hnode : chart[v]? = some node) : target ∈ node.exit.links := by
  obtain ⟨found, hfound, ht⟩ := h
  rw [hnode] at hfound
  cases hfound
  exact ht

/-- A node that leads on has one link. -/
theorem Leads.eq_of_next {chart : Chart} {v : NodeId} {target next : Link} {node : Node}
    (h : chart.Leads v target) (hnode : chart[v]? = some node) (hexit : node.exit = .next next) :
    target = next := by
  have ht := h.mem hnode
  rw [hexit] at ht
  exact List.mem_singleton.mp ht

/-- The second node is reached from the first one along the links. -/
def Reaches (chart : Chart) : NodeId → NodeId → Prop :=
  Relation.ReflTransGen fun v w => chart.Leads v (.node w)

/-- Steps along the links of a tidy chart do not leave it. -/
theorem Tidy.lt_size_of_reaches {chart : Chart} (h : chart.Tidy) {v w : NodeId}
    (hv : v < chart.size) (hw : chart.Reaches v w) : w < chart.size := by
  induction hw with
  | refl => exact hv
  | tail _ hstep _ =>
      obtain ⟨node, hnode, hlink⟩ := hstep
      exact (h.within hnode _ hlink :)

/-! ### Extensions -/

/-- The second chart has the nodes of the first one and maybe more.  The old nodes differ at most by
links that were open. -/
def Extends (chart chart' : Chart) : Prop :=
  ∀ (v : NodeId) (node : Node), chart[v]? = some node →
    ∃ exit, chart'[v]? = some { node with exit } ∧ node.exit.Fills exit

/-- Every chart extends itself. -/
theorem Extends.refl (chart : Chart) : chart.Extends chart := by
  intro v node hv
  exact ⟨node.exit, hv, Exit.Fills.refl _⟩

/-- One change after another. -/
theorem Extends.trans {a b c : Chart} (hab : a.Extends b) (hbc : b.Extends c) : a.Extends c := by
  intro v node hv
  obtain ⟨exit, hb, hfill⟩ := hab v node hv
  obtain ⟨exit', hc, hfill'⟩ := hbc v _ hb
  exact ⟨exit', hc, hfill.trans hfill'⟩

/-- No node is lost. -/
theorem Extends.size_le {chart chart' : Chart} (h : chart.Extends chart') :
    chart.size ≤ chart'.size := by
  -- Otherwise the number of the new chart's end would have a node in the old one.
  refine Nat.le_of_not_lt fun hlt => ?_
  obtain ⟨node, hnode⟩ := exists_node hlt
  obtain ⟨exit, hnone, -⟩ := h _ node hnode
  exact absurd (lt_size hnone) (Nat.lt_irrefl _)

/-- Links to nodes stay. -/
theorem Extends.leads {chart chart' : Chart} (h : chart.Extends chart') {v w : NodeId}
    (hv : chart.Leads v (.node w)) : chart'.Leads v (.node w) := by
  obtain ⟨node, hnode, hw⟩ := hv
  obtain ⟨exit, hnode', hfill⟩ := h _ node hnode
  exact ⟨_, hnode', hfill.node_mem hw⟩

/-- Paths along links to nodes stay. -/
theorem Extends.reaches {chart chart' : Chart} (h : chart.Extends chart') {v w : NodeId}
    (hv : chart.Reaches v w) : chart'.Reaches v w :=
  Relation.ReflTransGen.mono (fun _ _ hstep => h.leads hstep) _ _ hv

/-- A new node changes none of the old ones. -/
theorem extends_add (chart : Chart) (node : Node) : chart.Extends (chart.add node) := by
  intro v old hv
  exact ⟨old.exit, getElem?_add_of_some hv node, Exit.Fills.refl _⟩

/-- Turning an open link extends a chart. -/
theorem extends_setNext {chart : Chart} {u : NodeId} {node : Node} (hu : chart[u]? = some node)
    (hopen : node.exit = .next .nowhere) (target : Link) :
    chart.Extends (chart.setNext u target) := by
  intro v old hv
  rw [getElem?_setNext]
  by_cases huv : u = v
  · subst huv
    rw [hu] at hv
    cases hv
    refine ⟨.next target, by simp [hu], ?_⟩
    rw [hopen]
    exact Or.inl rfl
  · exact ⟨old.exit, by rw [if_neg huv, hv], Exit.Fills.refl _⟩

/-- Turning an open side of a branch extends a chart. -/
theorem extends_setSlot {chart : Chart} (htidy : chart.Tidy) {u : NodeId} {node : Node}
    (hu : chart[u]? = some node) {side : Branch} (hbranch : node.exit.isBranch = true)
    (hopen : node.exit.slot side = .nowhere) (target : Link) :
    chart.Extends (chart.setSlot u side target) := by
  intro v old hv
  rw [htidy.setSlot_eq]
  by_cases huv : u = v
  · subst huv
    rw [hu] at hv
    cases hv
    -- One side was open and is turned, and the other side stays as it is.
    refine ⟨node.exit.setSlot side target, by simp [hu], ?_⟩
    cases he : node.exit with
    | next l => simp [he, Exit.isBranch] at hbranch
    | branch no yes =>
        rw [he] at hopen
        cases side with
        | no => exact ⟨Or.inl hopen, Or.inr rfl⟩
        | yes => exact ⟨Or.inr rfl, Or.inl hopen⟩
  · exact ⟨old.exit, by rw [if_neg huv, hv], Exit.Fills.refl _⟩

/-! ### Facts that survive extensions -/

/-- A box stands at a node. -/
def Holds (chart : Chart) (v : NodeId) (box : Box) : Prop :=
  ∃ node, chart[v]? = some node ∧ node.box = box

/-- One box stands at a node. -/
theorem Holds.box_eq {chart : Chart} {v : NodeId} {box : Box} {node : Node} (h : chart.Holds v box)
    (hnode : chart[v]? = some node) : node.box = box := by
  obtain ⟨found, hfound, hbox⟩ := h
  rw [hnode] at hfound
  cases hfound
  exact hbox

/-- A node leads on to another. -/
def Next (chart : Chart) (u v : NodeId) : Prop :=
  ∃ node, chart[u]? = some node ∧ node.exit = .next (.node v)

/-- A node that leads on to another has a link to it. -/
theorem Next.leads {chart : Chart} {u v : NodeId} (h : chart.Next u v) :
    chart.Leads u (.node v) := by
  obtain ⟨node, hnode, hexit⟩ := h
  exact ⟨node, hnode, Exit.mem_links_of_next hexit⟩

/-- A node that leads on to another leads nowhere else. -/
theorem Next.eq_of_leads {chart : Chart} {u v : NodeId} (h : chart.Next u v) {target : Link}
    (ht : chart.Leads u target) : target = .node v := by
  obtain ⟨node, hnode, hexit⟩ := h
  exact ht.eq_of_next hnode hexit

/-- A node branches to two others. -/
def Forks (chart : Chart) (u no yes : NodeId) : Prop :=
  ∃ node, chart[u]? = some node ∧ node.exit = .branch (.node no) (.node yes)

/-- Boxes stay where they are. -/
theorem Extends.holds {chart chart' : Chart} (h : chart.Extends chart') {v : NodeId} {box : Box}
    (hv : chart.Holds v box) : chart'.Holds v box := by
  obtain ⟨node, hnode, hbox⟩ := hv
  obtain ⟨exit, hnode', -⟩ := h _ node hnode
  exact ⟨_, hnode', hbox⟩

/-- A node that leads on to another keeps doing so. -/
theorem Extends.next {chart chart' : Chart} (h : chart.Extends chart') {u v : NodeId}
    (hu : chart.Next u v) : chart'.Next u v := by
  obtain ⟨node, hnode, hexit⟩ := hu
  obtain ⟨exit, hnode', hfill⟩ := h _ node hnode
  rw [hexit] at hfill
  cases exit with
  | branch no yes => exact hfill.elim
  | next target =>
      refine ⟨_, hnode', ?_⟩
      show Exit.next target = _
      rw [Link.Fills.eq_node hfill]

/-- A node that branches to two others keeps doing so. -/
theorem Extends.forks {chart chart' : Chart} (h : chart.Extends chart') {u no yes : NodeId}
    (hu : chart.Forks u no yes) : chart'.Forks u no yes := by
  obtain ⟨node, hnode, hexit⟩ := hu
  obtain ⟨exit, hnode', hfill⟩ := h _ node hnode
  rw [hexit] at hfill
  cases exit with
  | next target => exact hfill.elim
  | branch no' yes' =>
      refine ⟨_, hnode', ?_⟩
      show Exit.branch no' yes' = _
      rw [Link.Fills.eq_node hfill.1, Link.Fills.eq_node hfill.2]

end Chart

end Flowchart
