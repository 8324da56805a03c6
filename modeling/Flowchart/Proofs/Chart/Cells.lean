import Flowchart.Chart.Layout
import Flowchart.Proofs.Chart.Edits

/-!
# `Flowchart.Proofs.Chart.Cells`: giving cells to the nodes of a chart

The layout goes through a chart, gives a cell to every node it comes to for the first time and leads
the sides of a condition past their heads on the way.  All it leaves behind is determined by the
cells given so far: this is `placed`.  A layout is thus a passage from some `Cells` to others.

* `run_layOut_done`, `run_layOut_new` and `run_layOut_branch` are the steps of the layout.
* `Lays` is the layout of all that a link leads to, at every depth that is enough.  `lays_done`,
  `lays_box` and `lays_condition` are its cases.
* `Arranged` is what a chart with cells is like, as far as a drawing of it depends on that.
-/

set_option autoImplicit false

namespace Flowchart

/-- A place on a console. -/
structure Cell where
  row : Nat
  column : Nat
deriving Repr, DecidableEq

/-- Cells for some of the nodes. -/
abbrev Cells := NodeId → Option Cell

namespace Cells

/-- No cell for any node. -/
def empty : Cells :=
  fun _ => none

/-- A cell for one node. -/
def single (v : NodeId) (cell : Cell) : Cells :=
  fun w => if w = v then some cell else none

/-- The cells of the first kind, and where there is none those of the second kind. -/
def or (cells more : Cells) : Cells :=
  fun v => (cells v).or (more v)

/-- What `or` gives to a single node. -/
theorem or_apply (cells more : Cells) (v : NodeId) : cells.or more v = (cells v).or (more v) :=
  rfl

/-- No cells besides change nothing. -/
theorem or_empty (cells : Cells) : cells.or empty = cells :=
  funext fun _ => Option.or_none

/-- No cells in front change nothing. -/
theorem empty_or (cells : Cells) : empty.or cells = cells :=
  funext fun _ => Option.none_or

/-- Cells of three kinds, the first of which that is there. -/
theorem or_assoc (a b c : Cells) : (a.or b).or c = a.or (b.or c) :=
  funext fun _ => Option.or_assoc

/-- Cells for different nodes can be given in any order. -/
theorem or_comm {a b : Cells} (h : ∀ v, a v = none ∨ b v = none) : a.or b = b.or a := by
  funext v
  rcases h v with hv | hv <;> simp [or, hv]

/-- The node that has the cell. -/
theorem single_self (v : NodeId) (cell : Cell) : single v cell v = some cell :=
  if_pos rfl

/-- Other nodes have none. -/
theorem single_of_ne {v w : NodeId} (h : w ≠ v) (cell : Cell) : single v cell w = none :=
  if_neg h

end Cells

namespace Chart

/-- Where a link leads past the head of a side. -/
def pastHead (chart : Chart) (target : Link) : Link :=
  match target with
  | .node w =>
    match chart[w]? with
    | some node => if node.box = .head then node.exit.behind w else target
    | none => target
  | _ => target

/-- An exit whose sides lead past their heads. -/
def pastHeads (chart : Chart) : Exit → Exit
  | .next target => .next target
  | .branch no yes => .branch (chart.pastHead no) (chart.pastHead yes)

/-- A node with its cell, from where it leads past the heads of its sides. -/
def placedNode (chart : Chart) (node : Node) (cell : Cell) : Node :=
  { node with exit := chart.pastHeads node.exit, row := some cell.row, column := some cell.column }

/-- The chart with cells for some of its nodes. -/
def placed (chart : Chart) (cells : Cells) : Chart :=
  chart.mapIdx fun v node => match cells v with
    | some cell => chart.placedNode node cell
    | none => node

/-- No node has a cell. -/
def Blank (chart : Chart) : Prop :=
  ∀ (v : NodeId) (node : Node), chart[v]? = some node → node.row = none ∧ node.column = none

/-- A node of the chart with cells. -/
theorem getElem?_placed (chart : Chart) (cells : Cells) (v : NodeId) :
    (chart.placed cells)[v]? = chart[v]?.map fun node => match cells v with
      | some cell => chart.placedNode node cell
      | none => node := by
  rw [placed, Array.getElem?_mapIdx]

/-- A node that gets no cell is as before. -/
theorem getElem?_placed_of_none {chart : Chart} {cells : Cells} {v : NodeId} (h : cells v = none) :
    (chart.placed cells)[v]? = chart[v]? := by
  rw [getElem?_placed, h]
  exact Option.map_id'

/-- A node that gets a cell leads past the heads of its sides from then on. -/
theorem getElem?_placed_of_some {chart : Chart} {cells : Cells} {v : NodeId} {cell : Cell}
    (h : cells v = some cell) :
    (chart.placed cells)[v]? = chart[v]?.map (chart.placedNode · cell) := by
  rw [getElem?_placed, h]

/-! ### One step of the layout -/

section Steps
variable {chart : Chart} {v : NodeId} {node : Node} (hnode : chart[v]? = some node)
include hnode

/-- To change a node that is there is to put another one in its place. -/
theorem modify_eq (f : Node → Node) : chart.modify v f = chart.setIfInBounds v (f node) := by
  refine Array.ext_getElem? fun w => ?_
  rw [Array.getElem?_modify, Array.getElem?_setIfInBounds]
  by_cases hw : v = w
  · subst hw
    rw [if_pos rfl, if_pos rfl, if_pos (lt_size hnode), hnode, Option.map_some]
  · rw [if_neg hw, if_neg hw]

/-- The node that was put there is found there. -/
theorem getElem?_reset (new : Node) : (chart.setIfInBounds v new)[v]? = some new := by
  rw [Array.getElem?_setIfInBounds, if_pos rfl, if_pos (lt_size hnode)]

/-- A node leads where its own exit says, unless it shares the branches of another. -/
theorem exit?_of_own (hown : ∀ owner, node.exit ≠ .next (.fork owner)) :
    chart.owner v = v ∧ chart.exit? v = some node.exit := by
  have howner : chart.owner v = v := by
    rw [owner, hnode, Option.map_some]
    split
    · next w hw => exact absurd (Option.some.inj hw) (hown w)
    · rfl
  exact ⟨howner, by rw [exit?, howner, hnode, Option.map_some]⟩

/-- The sides of a condition are those of its exit. -/
theorem slot_of_branch {no yes : Link} (hexit : node.exit = .branch no yes) (side : Branch) :
    chart.slot v side = (Exit.branch no yes).slot side := by
  rw [slot, (exit?_of_own hnode (by simp [hexit])).2, hexit]

/-- A side of a condition is led past its head. -/
theorem run_skipHead (side : Branch) {no yes target : Link} (hexit : node.exit = .branch no yes)
    {w : NodeId} {head : Node} (hside : (Exit.branch no yes).slot side = .node w)
    (hhead : chart[w]? = some head) (hbox : head.box = .head) (hnext : head.exit = .next target) :
    (skipHead v side).run chart = .ok () (chart.setIfInBounds v
      { node with exit := (Exit.branch no yes).setSlot side target }) := by
  rw [skipHead]
  have howner := (exit?_of_own hnode (by simp [hexit])).1
  simp only [EStateM.run_bind, EStateM.run_get, slot_of_branch hnode hexit, hside, hhead, hbox,
    if_true, EStateM.run_modify, setSlot, howner, hnext, Exit.behind, modify_eq hnode, hexit]

/-- A node that has a cell keeps it, and nothing behind it is looked at. -/
theorem run_layOut_done (hcell : node.column.isSome = true) (depth : Nat) (row column : Int) :
    (layOut (depth + 1) (.node v) row column).run chart = .ok () chart := by
  rw [layOut]
  simp only [EStateM.run_bind, EStateM.run_get, require, hnode, EStateM.run_pure, hcell, if_true]

/-- A node without a cell gets one, and then its links are followed. -/
theorem run_layOut_new (hcell : node.column = none) {exit : Exit} (hexit : node.exit = exit)
    (hown : ∀ owner, exit ≠ .next (.fork owner)) (depth : Nat) (row column : Int) :
    (layOut (depth + 1) (.node v) row column).run chart
      = EStateM.run (match exit with
          | .branch _ _ => do
            skipHead v .no
            skipHead v .yes
            layOut depth ((← get).slot v .no) (row + 1) column
            layOut depth ((← get).slot v .yes) row (column + 1)
          | .next .nowhere => return
          | .next following => layOut depth following (row + 1) column)
        (chart.setIfInBounds v { node with exit, row := some row, column := some column }) := by
  have hset : chart.setCell v row column
      = chart.setIfInBounds v { node with exit, row := some row, column := some column } := by
    rw [← hexit]
    exact modify_eq hnode _
  have hleads : (chart.setCell v row column).exit? v = some exit := by
    rw [hset]
    exact (exit?_of_own (getElem?_reset hnode
      { node with exit, row := some row, column := some column }) hown).2
  rw [layOut]
  simp only [EStateM.run_bind, EStateM.run_get, require, hnode, EStateM.run_pure, hcell,
    Option.isSome_none, Bool.false_eq_true, if_false, EStateM.run_modify, hleads]
  rw [hset]
  cases exit with
  | branch no yes => rfl
  | next target => cases target <;> rfl

/-- A condition gets a cell, its sides are led past their heads, and they are followed, the one for
`no` first. -/
theorem run_layOut_branch (hcell : node.column = none) {no yes : NodeId}
    (hexit : node.exit = .branch (.node no) (.node yes)) {noHead yesHead : Node}
    {noTarget yesTarget : Link} (hno : chart[no]? = some noHead) (hnoBox : noHead.box = .head)
    (hnoNext : noHead.exit = .next noTarget) (hyes : chart[yes]? = some yesHead)
    (hyesBox : yesHead.box = .head) (hyesNext : yesHead.exit = .next yesTarget) (depth : Nat)
    (row column : Int) :
    (layOut (depth + 1) (.node v) row column).run chart
      = match (layOut depth noTarget (row + 1) column).run (chart.setIfInBounds v { node with
          exit := .branch noTarget yesTarget, row := some row, column := some column }) with
        | .ok _ chart => (layOut depth (chart.slot v .yes) row (column + 1)).run chart
        | .error fault chart => .error fault chart := by
  -- The heads stay as they are, since a head does not branch.
  have hother : ∀ {w : NodeId} {head : Node} {target : Link} (new : Node), chart[w]? = some head →
      head.exit = .next target → (chart.setIfInBounds v new)[w]? = some head := by
    intro w head target new hhead hnext
    have hne : v ≠ w := by
      rintro rfl
      rw [hnode] at hhead
      cases hhead
      rw [hexit] at hnext
      cases hnext
    rw [Array.getElem?_setIfInBounds, if_neg hne, hhead]
  have hskipNo := run_skipHead (getElem?_reset hnode { node with
    exit := .branch (.node no) (.node yes), row := some row, column := some column })
    .no rfl rfl (hother _ hno hnoNext) hnoBox hnoNext
  have hskipYes := run_skipHead (getElem?_reset hnode { node with
    exit := .branch noTarget (.node yes), row := some row, column := some column })
    .yes rfl rfl (hother _ hyes hyesNext) hyesBox hyesNext
  have hslot := slot_of_branch (getElem?_reset hnode { node with
    exit := .branch noTarget yesTarget, row := some row, column := some column }) rfl .no
  rw [Array.setIfInBounds_setIfInBounds] at hskipNo hskipYes
  -- Both sides are led past their heads before any of them is followed.
  rw [run_layOut_new hnode hcell hexit (by simp)]
  simp only [EStateM.run_bind, EStateM.run_get]
  rw [hskipNo]
  simp only [Exit.setSlot]
  rw [hskipYes]
  simp only [Exit.setSlot]
  rw [hslot]
  simp only [Exit.slot]
  cases (layOut depth noTarget (row + 1) column).run _ <;> rfl

end Steps

/-! ### The layout of what a link leads to -/

/-- Everything a link leads to can be given cells in addition to those that some nodes have, and
this is what comes of it. -/
def Lays (chart : Chart) (cells : Cells) (target : Link) (row column : Nat)
    (cells' : Cells) : Prop :=
  ∃ need, ∀ depth, need ≤ depth →
    (layOut depth target row column).run (chart.placed cells) = .ok () (chart.placed cells')

/-- Everything behind a node, which need not be anything, can be given cells in addition to those
that some nodes have, and this is what comes of it. -/
def LaysBehind (chart : Chart) (cells : Cells) (v : NodeId) (row column : Nat) (cells' : Cells) :
    Prop :=
  (∃ node, chart[v]? = some node ∧ node.exit = .next .nowhere ∧ cells' = cells) ∨
    ∃ w, chart.Next v w ∧ chart.Lays cells (.node w) row column cells'

section
variable {chart : Chart} {cells cells' : Cells} {v : NodeId}

/-- One more cell changes one node of the chart. -/
theorem placed_or_single {node : Node} (hnode : chart[v]? = some node) (hnone : cells v = none)
    (cell : Cell) : chart.placed (cells.or (.single v cell))
      = (chart.placed cells).setIfInBounds v (chart.placedNode node cell) := by
  refine Array.ext_getElem? fun w => ?_
  rw [Array.getElem?_setIfInBounds]
  by_cases hw : v = w
  · subst hw
    have hcell : cells.or (.single v cell) v = some cell := by
      rw [Cells.or_apply, hnone, Cells.single_self]
      rfl
    have hlt : v < (chart.placed cells).size := by
      rw [placed, Array.size_mapIdx]
      exact lt_size hnode
    rw [if_pos rfl, if_pos hlt, getElem?_placed_of_some hcell, hnode, Option.map_some]
  · have hcell : cells.or (.single v cell) w = cells w := by
      rw [Cells.or_apply, Cells.single_of_ne (Ne.symm hw), Option.or_none]
    rw [if_neg hw, getElem?_placed, getElem?_placed, hcell]

/-- Where a node leads on, it does so with and without a cell. -/
theorem Next.placed {w : NodeId} (h : chart.Next v w) (cells : Cells) :
    (chart.placed cells).Next v w := by
  obtain ⟨node, hnode, hexit⟩ := h
  cases hcell : cells v with
  | none => exact ⟨node, (getElem?_placed_of_none hcell).trans hnode, hexit⟩
  | some cell =>
      refine ⟨chart.placedNode node cell, ?_, ?_⟩
      · rw [getElem?_placed_of_some hcell, hnode, Option.map_some]
      · show chart.pastHeads node.exit = _
        rw [hexit, pastHeads]

/-- Cells change no boxes. -/
theorem Holds.placed {box : Box} (h : chart.Holds v box) (cells : Cells) :
    (chart.placed cells).Holds v box := by
  obtain ⟨node, hnode, hbox⟩ := h
  cases hcell : cells v with
  | none => exact ⟨node, (getElem?_placed_of_none hcell).trans hnode, hbox⟩
  | some cell =>
      refine ⟨chart.placedNode node cell, ?_, hbox⟩
      rw [getElem?_placed_of_some hcell, hnode, Option.map_some]

/-- A head is led past to the node behind it. -/
theorem pastHead_of_next {w : NodeId} (hbox : chart.Holds v .head) (hnext : chart.Next v w) :
    chart.pastHead (.node v) = .node w := by
  obtain ⟨node, hnode, hexit⟩ := hnext
  simp only [pastHead, hnode, hbox.box_eq hnode, if_true, hexit, Exit.behind]

/-- What is behind a node that leads on is laid out from the node it leads to. -/
theorem LaysBehind.lays {w row column : Nat} (h : chart.LaysBehind cells v row column cells')
    (hnext : chart.Next v w) : chart.Lays cells (.node w) row column cells' := by
  obtain ⟨node, hnode, hexit⟩ := hnext
  rcases h with ⟨node', hnode', hexit', -⟩ | ⟨w', ⟨node', hnode', hexit'⟩, hlays⟩
  · rw [hnode] at hnode'
    cases hnode'
    rw [hexit] at hexit'
    cases hexit'
  · rw [hnode] at hnode'
    cases hnode'
    rw [hexit] at hexit'
    cases hexit'
    exact hlays

/-- A node that has its cell is not laid out again. -/
theorem lays_done {node : Node} (hnode : chart[v]? = some node) {cell : Cell}
    (hcell : cells v = some cell) (row column : Nat) :
    chart.Lays cells (.node v) row column cells := by
  refine ⟨1, fun depth hdepth => ?_⟩
  obtain ⟨depth, rfl⟩ : ∃ less, depth = less + 1 := ⟨depth - 1, by omega⟩
  have hplaced : (chart.placed cells)[v]? = some (chart.placedNode node cell) := by
    rw [getElem?_placed_of_some hcell, hnode, Option.map_some]
  exact run_layOut_done hplaced rfl depth row column

variable (hblank : chart.Blank) (hnone : cells v = none) {row column : Nat}
include hblank hnone

/-- A box gets a cell, and then what is behind it is followed in the next row. -/
theorem lays_box
    (h : chart.LaysBehind (cells.or (.single v ⟨row, column⟩)) v (row + 1) column cells') :
    chart.Lays cells (.node v) row column cells' := by
  -- Behind the box there is nothing, or a node that needs some depth.
  rcases h with ⟨node, hnode, hexit, rfl⟩ | ⟨w, ⟨node, hnode, hexit⟩, need, hlays⟩
  · refine ⟨1, fun depth hdepth => ?_⟩
    obtain ⟨depth, rfl⟩ : ∃ less, depth = less + 1 := ⟨depth - 1, by omega⟩
    rw [run_layOut_new ((getElem?_placed_of_none hnone).trans hnode) (hblank v node hnode).2 hexit
      (by simp), placed_or_single hnode hnone, placedNode, hexit]
    rfl
  · refine ⟨need + 1, fun depth hdepth => ?_⟩
    obtain ⟨depth, rfl⟩ : ∃ less, depth = less + 1 := ⟨depth - 1, by omega⟩
    rw [run_layOut_new ((getElem?_placed_of_none hnone).trans hnode) (hblank v node hnode).2 hexit
      (by simp), ← hlays depth (by omega), placed_or_single hnode hnone, placedNode, hexit]
    rfl

/-- A condition gets a cell, what is behind its head for `no` is followed in the next row, and then
what is behind its head for `yes` in the next column. -/
theorem lays_condition {no yes noNext yesNext : NodeId} (hforks : chart.Forks v no yes)
    (hno : chart.Holds no .head) (hnoNext : chart.Next no noNext) (hyes : chart.Holds yes .head)
    (hyesNext : chart.Next yes yesNext) {cells₁ : Cells}
    (hleft : chart.Lays (cells.or (.single v ⟨row, column⟩)) (.node noNext) (row + 1) column cells₁)
    {cell : Cell} (hcell : cells₁ v = some cell)
    (hright : chart.Lays cells₁ (.node yesNext) row (column + 1) cells') :
    chart.Lays cells (.node v) row column cells' := by
  obtain ⟨node, hnode, hexit⟩ := hforks
  obtain ⟨noHead, hnoHead, hnoExit⟩ := hnoNext.placed cells
  obtain ⟨yesHead, hyesHead, hyesExit⟩ := hyesNext.placed cells
  obtain ⟨needLeft, hleft⟩ := hleft
  obtain ⟨needRight, hright⟩ := hright
  have hpast : chart.pastHeads node.exit = .branch (.node noNext) (.node yesNext) := by
    rw [hexit, pastHeads, pastHead_of_next hno hnoNext, pastHead_of_next hyes hyesNext]
  have hplaced : (chart.placed cells₁)[v]? = some (chart.placedNode node cell) := by
    rw [getElem?_placed_of_some hcell, hnode, Option.map_some]
  refine ⟨max needLeft needRight + 1, fun depth hdepth => ?_⟩
  obtain ⟨depth, rfl⟩ : ∃ less, depth = less + 1 := ⟨depth - 1, by omega⟩
  -- The side for `no` is laid out from the chart in which the condition has its cell.
  have hfirst := hleft depth (by omega)
  rw [placed_or_single hnode hnone, placedNode, hpast] at hfirst
  have hnoBox := (hno.placed cells).box_eq hnoHead
  have hyesBox := (hyes.placed cells).box_eq hyesHead
  rw [run_layOut_branch ((getElem?_placed_of_none hnone).trans hnode) (hblank v node hnode).2 hexit
    hnoHead hnoBox hnoExit hyesHead hyesBox hyesExit]
  simp only [Int.natCast_add, Int.natCast_one] at hfirst
  rw [hfirst]
  simp only
  rw [slot_of_branch hplaced hpast]
  exact hright depth (by omega)

end

/-! ### Charts with cells -/

/-- The node has a cell. -/
def HasCell (chart : Chart) (v : NodeId) (cell : Cell) : Prop :=
  ∃ node, chart[v]? = some node ∧ node.row = some ↑cell.row ∧ node.column = some ↑cell.column

/-- A node has one cell. -/
theorem HasCell.cell_eq {chart : Chart} {v : NodeId} {cell cell' : Cell} (h : chart.HasCell v cell)
    (h' : chart.HasCell v cell') : cell = cell' := by
  obtain ⟨node, hnode, hrow, hcolumn⟩ := h
  obtain ⟨node', hnode', hrow', hcolumn'⟩ := h'
  rw [hnode] at hnode'
  cases hnode'
  rw [hrow] at hrow'
  rw [hcolumn] at hcolumn'
  have hrows := Int.ofNat.inj (Option.some.inj hrow')
  have hcolumns := Int.ofNat.inj (Option.some.inj hcolumn')
  cases cell
  cases cell'
  cases hrows
  cases hcolumns
  rfl

/-- From the start on all nodes have cells, and every link leads to a later node, but for the one of
the node `last`, which is open. -/
structure Arranged (chart : Chart) (last : Nat) : Prop where
  cell : ∀ {v : Nat}, chart.Reaches 0 v → ∃ cell, chart.HasCell v cell
  exits : ∀ {v : Nat} {node : Node}, chart.Reaches 0 v → chart[v]? = some node →
    v = last ∧ node.exit = .next .nowhere ∨
      v ≠ last ∧ ∀ target ∈ node.exit.links, ∃ w, target = .node w ∧ v < w

end Chart

end Flowchart
