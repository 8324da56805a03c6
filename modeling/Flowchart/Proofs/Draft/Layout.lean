import Flowchart.Proofs.Chart.Depth
import Flowchart.Proofs.Draft.Invariant
import Flowchart.Proofs.Draft.Plan

/-!
# `Flowchart.Proofs.Draft.Layout`: where the statements of a program stand on a console

The layout of a chart follows its links from the start, the side for `no` of a condition first, and
a node keeps the first cell it is given.  So all that is behind a condition gets its cells before
the body of the condition does, and every join gets its cell from the side for `no`.  `Stmt.Placed`
is made for that: it says what a statement adds to the cells for whatever is added behind it, and
what is behind it does not depend on the cells of the nodes before it (`Chart.Adds`).

`Chart.Charts` collects what the layout of a program needs to know of its chart, and
`Chart.Arranged` what is known of a chart with cells in the end.
-/

set_option autoImplicit false

namespace Flowchart

/-! ### Giving the planned cells -/

namespace Planned

/-- The planned cell of one node. -/
def cellAt (lo : Nat) (entry : Planned) : Cells :=
  match entry.cell with
  | some cell => .single lo cell
  | none => .empty

/-- The planned cells, for the nodes from `lo` on. -/
def cells (lo : Nat) : List Planned → Cells
  | [] => .empty
  | entry :: rest => (entry.cellAt lo).or (cells (lo + 1) rest)

/-- The node of an entry gets the cell of the entry. -/
theorem cellAt_self (lo : Nat) (entry : Planned) : entry.cellAt lo lo = entry.cell := by
  cases hcell : entry.cell with
  | none => rw [cellAt, hcell]; rfl
  | some cell => rw [cellAt, hcell]; exact Cells.single_self lo cell

/-- No other node gets a cell from an entry. -/
theorem cellAt_of_ne {lo v : Nat} (h : v ≠ lo) (entry : Planned) : entry.cellAt lo v = none := by
  cases hcell : entry.cell with
  | none => rw [cellAt, hcell]; rfl
  | some cell => rw [cellAt, hcell]; exact Cells.single_of_ne h cell

/-- The cells of two plans, the second of which goes on where the first one ends. -/
theorem cells_append (lo : Nat) (plan plan' : List Planned) :
    cells lo (plan ++ plan') = (cells lo plan).or (cells (lo + plan.length) plan') := by
  induction plan generalizing lo with
  | nil => exact (Cells.empty_or _).symm
  | cons entry rest ih =>
      rw [List.cons_append, cells, ih, cells, Cells.or_assoc, List.length_cons, Nat.add_assoc,
        Nat.add_comm 1]

/-- Nodes outside the range of a plan get no cells from it. -/
theorem cells_eq_none {lo : Nat} {plan : List Planned} {v : Nat}
    (h : v < lo ∨ lo + plan.length ≤ v) : cells lo plan v = none := by
  induction plan generalizing lo with
  | nil => rfl
  | cons entry rest ih =>
      rw [List.length_cons] at h
      have hne : v ≠ lo := by omega
      rw [cells, Cells.or_apply, cellAt_of_ne hne, ih (by omega)]
      rfl

/-- A node in the range of a plan gets the cell of its own entry. -/
theorem cells_getElem? (lo : Nat) (plan : List Planned) (i : Nat) :
    cells lo plan (lo + i) = plan[i]?.bind Planned.cell := by
  induction plan generalizing lo i with
  | nil => rfl
  | cons entry rest ih =>
      cases i with
      | zero =>
          rw [cells, Cells.or_apply, Nat.add_zero, cellAt_self,
            cells_eq_none (by omega), Option.or_none]
          rfl
      | succ i =>
          have hne : lo + (i + 1) ≠ lo := by omega
          have hstep : lo + (i + 1) = lo + 1 + i := by omega
          rw [cells, Cells.or_apply, cellAt_of_ne hne, Option.none_or, hstep, ih]
          rfl

end Planned

namespace Chart

/-- What is behind a node gets the added cells, whatever cells the nodes before `hi` have, if those
from `hi` on have the given ones. -/
def Adds (chart : Chart) (v hi row column : Nat) (given added : Cells) : Prop :=
  ∀ cells : Cells, (∀ w, hi ≤ w → cells w = given w) →
    chart.LaysBehind cells v row column (cells.or added)

/-- A box stands behind a node. -/
theorem adds_box {chart : Chart} (hblank : chart.Blank) {u v row column : Nat} {given added : Cells}
    (hnext : chart.Next u v) (hnone : given v = none)
    (h : chart.Adds v (v + 1) (row + 1) column given added) :
    chart.Adds u v row column given ((Cells.single v ⟨row, column⟩).or added) := by
  intro cells hcells
  refine Or.inr ⟨v, hnext, lays_box hblank ((hcells v (Nat.le_refl _)).trans hnone) ?_⟩
  rw [← Cells.or_assoc]
  refine h _ fun w hw => ?_
  have hne : w ≠ v := by omega
  rw [Cells.or_apply, Cells.single_of_ne hne, Option.or_none, hcells w (by omega)]

/-- Cells that are added may be asked for with more of the cells given. -/
theorem Adds.mono {chart : Chart} {v hi hi' row column : Nat} {given added : Cells}
    (h : chart.Adds v hi' row column given added) (hle : hi ≤ hi') :
    chart.Adds v hi row column given added :=
  fun cells hcells => h cells fun w hw => hcells w (Nat.le_trans hle hw)

/-- A condition stands behind a node.  What is behind its head for `no` gets its cells first, and
they are among those given when it comes to what is behind its head for `yes`. -/
theorem adds_condition {chart : Chart} (hblank : chart.Blank) {u lo no yes noFirst yesFirst : Nat}
    (hnext : chart.Next u lo) (hforks : chart.Forks lo no yes) (hnoBox : chart.Holds no .head)
    (hnoFirst : chart.Next no noFirst) (hyesBox : chart.Holds yes .head)
    (hyesFirst : chart.Next yes yesFirst) {row column : Nat} {given below side : Cells}
    (hnone : given lo = none) (hno : chart.Adds no (lo + 1) (row + 1) column given below)
    (hyes : chart.Adds yes (lo + 1) row (column + 1) (given.or below) side)
    (hdisjoint : ∀ w, below w = none ∨ side w = none) :
    chart.Adds u lo row column given ((Cells.single lo ⟨row, column⟩).or (side.or below)) := by
  intro cells hcells
  have hlo := (hcells lo (Nat.le_refl _)).trans hnone
  have hlater : ∀ w, lo + 1 ≤ w → cells.or (.single lo ⟨row, column⟩) w = given w := by
    intro w hw
    have hne : w ≠ lo := by omega
    rw [Cells.or_apply, Cells.single_of_ne hne, Option.or_none, hcells w (by omega)]
  -- The side for `no` goes first, and the other side finds its cells given.
  have hleft := (hno _ hlater).lays hnoFirst
  have hright := (hyes ((cells.or (.single lo ⟨row, column⟩)).or below) fun w hw => by
    rw [Cells.or_apply, hlater w hw, Cells.or_apply]).lays hyesFirst
  have hcond : (cells.or (.single lo ⟨row, column⟩)).or below lo = some ⟨row, column⟩ := by
    rw [Cells.or_apply, Cells.or_apply, hlo, Cells.single_self]
    rfl
  -- The plan lists the side for `yes` first, which makes no difference.
  rw [← Cells.or_comm hdisjoint, ← Cells.or_assoc, ← Cells.or_assoc]
  exact Or.inr ⟨lo, hnext, lays_condition hblank hlo hforks hnoBox hnoFirst hyesBox hyesFirst hleft
    hcond hright⟩

end Chart

namespace Stmt

/-- A statement gets the planned cells, and so does what is behind it. -/
def Placed (stmt : Stmt) : Prop :=
  ∀ (chart : Chart) (u lo v hi row column : Nat) (given added : Cells), chart.Blank → u < lo →
    chart.Shows .console stmt u lo v hi → (∀ w, w < hi → added w = none) →
    (∀ w, lo ≤ w → w < hi → given w = none) →
    chart.Adds v hi (stmt.rowAfter row) column given added →
    chart.Adds u lo row column given ((Planned.cells lo (stmt.planned row column)).or added)

/-- Statements get the planned cells if each of them does. -/
theorem adds_all {stmts : List Stmt} (h : ∀ stmt ∈ stmts, Placed stmt) {chart : Chart}
    (hblank : chart.Blank) {u lo v hi : Nat} (hlt : u < lo)
    (hshows : chart.ShowsAll .console stmts u lo v hi) {row column : Nat} {given added : Cells}
    (hadded : ∀ w, w < hi → added w = none) (hgiven : ∀ w, lo ≤ w → w < hi → given w = none)
    (hbehind : chart.Adds v hi (rowAfterAll stmts row) column given added) :
    chart.Adds u lo row column given
      ((Planned.cells lo (plannedAll stmts row column)).or added) := by
  induction stmts generalizing u lo row with
  | nil =>
      rw [Chart.ShowsAll] at hshows
      obtain ⟨rfl, rfl⟩ := hshows
      rw [plannedAll, Planned.cells, Cells.empty_or]
      exact hbehind
  | cons stmt rest ih =>
      rw [Chart.ShowsAll] at hshows
      obtain ⟨mid, next, hfirst, hrest⟩ := hshows
      have hreal := realized stmt chart u lo mid next hlt hfirst row column
      have hrealRest := realizes_all (fun s _ => realized s) (hreal.last_lt hlt) hrest
        (stmt.rowAfter row) column
      have hsize := hreal.size
      have hsizeRest := hrealRest.size
      -- What the rest adds is what the first statement finds behind it.
      have htail := ih (fun s hs => h s (List.mem_cons_of_mem _ hs)) (hreal.last_lt hlt) hrest
        (fun w hw hw' => hgiven w (by omega) hw') hbehind
      have hhead := h stmt List.mem_cons_self chart u lo mid next row column given _ hblank hlt
        hfirst ?_ (fun w hw hw' => hgiven w hw (by omega)) htail
      · rw [plannedAll, Planned.cells_append, ← hsize, Cells.or_assoc]
        exact hhead
      · intro w hw
        rw [Cells.or_apply, Planned.cells_eq_none (Or.inl hw), hadded w (by omega)]
        rfl

/-- The cells of a condition, of its body, of its other side, and of the join. -/
theorem cells_ifElse (test : Expr) {body orelse : List Stmt} {row column lo no v : Nat}
    (hno : no = lo + 2 + (plannedAll body row (column + 1)).length)
    (hv : v = no + 1 + (plannedAll orelse (row + 1) column).length) :
    Planned.cells lo (planned (.ifElse test body orelse) row column)
      = (Cells.single lo ⟨row, column⟩).or
          ((Planned.cells (lo + 2) (plannedAll body row (column + 1))).or
            ((Planned.cells (no + 1) (plannedAll orelse (row + 1) column)).or
              (.single v ⟨rowAfterAll orelse (row + 1), column⟩))) := by
  have hnoAt : lo + ((plannedAll body row (column + 1)).length + 1 + 1) = no := by omega
  have hjoinAt : lo + ((plannedAll body row (column + 1)).length + 1 + 1 +
      ((plannedAll orelse (row + 1) column).length + 1)) = v := by omega
  rw [planned]
  simp only [Planned.cells_append, Planned.cells, Planned.cellAt, Cells.empty_or, Cells.or_empty,
    Cells.or_assoc, List.length_append, List.length_cons, hnoAt, hjoinAt]

/-- A condition gets the planned cells if the statements on its two sides do. -/
theorem placed_ifElse {test : Expr} {body orelse : List Stmt} (hbody : ∀ stmt ∈ body, Placed stmt)
    (horelse : ∀ stmt ∈ orelse, Placed stmt) : Placed (.ifElse test body orelse) := by
  intro chart u lo v hi row column given added hblank hlt hshows hadded hgiven hbehind
  rw [Chart.Shows] at hshows
  obtain ⟨box, yesEnd, no, noEnd, hbox, hnext, hholds, hforks, hyesBox, hyes, hnoBox, hno, hyesNext,
    hnoNext, ⟨join, hjoin, -⟩, rfl⟩ := hshows
  have hyesReal := realizes_all (fun s _ => realized s) (Nat.lt_succ_self _) hyes row (column + 1)
  have hnoReal := realizes_all (fun s _ => realized s) (Nat.lt_succ_self _) hno (row + 1) column
  have hyesSize := hyesReal.size
  have hnoSize := hnoReal.size
  obtain ⟨noFirst, hnoFirst⟩ := hnoReal.exists_next hnoNext
  obtain ⟨yesFirst, hyesFirst⟩ := hyesReal.exists_next hyesNext
  -- The side for `no`, the join and all that is behind it come first.
  let after := (Cells.single v ⟨rowAfterAll orelse (row + 1), column⟩).or added
  let below := (Planned.cells (no + 1) (plannedAll orelse (row + 1) column)).or after
  have hafter : ∀ w : Nat, w < v → after w = none := by
    intro w hw
    have hne : w ≠ v := by omega
    show (Cells.single v _ w).or (added w) = none
    rw [Cells.single_of_ne hne, hadded w (by omega)]
    rfl
  have hnone : ∀ w : Nat, w < no + 1 → below w = none := by
    intro w hw
    show (Planned.cells _ _ w).or (after w) = none
    rw [Planned.cells_eq_none (Or.inl hw), hafter w (by omega)]
    rfl
  have hbelow : chart.Adds no (no + 1) (row + 1) column given below :=
    adds_all horelse hblank (Nat.lt_succ_self _) hno hafter
      (fun w hw hw' => hgiven w (by omega) (by omega))
      (Chart.adds_box hblank hnoNext (hgiven v (by omega) (by omega)) hbehind)
  -- The body comes last, and ends at the join, which has its cell by then.
  have hside : chart.Adds (lo + 1) (lo + 2) row (column + 1) (given.or below)
      ((Planned.cells (lo + 2) (plannedAll body row (column + 1))).or .empty) := by
    refine adds_all hbody hblank (Nat.lt_succ_self _) hyes (fun _ _ => rfl) ?_ ?_
    · intro w hw hw'
      rw [Cells.or_apply, hgiven w (by omega) (by omega), hnone w (by omega)]
      rfl
    · intro cells hcells
      have hjoinCell : cells v = some ⟨rowAfterAll orelse (row + 1), column⟩ := by
        rw [hcells v (by omega)]
        show (given v).or ((Planned.cells _ _ v).or ((Cells.single v _ v).or (added v))) = _
        rw [hgiven v (by omega) (by omega), Planned.cells_eq_none (by omega), Cells.single_self]
        rfl
      rw [Cells.or_empty]
      exact Or.inr ⟨v, hyesNext, Chart.lays_done hjoin hjoinCell _ _⟩
  rw [Cells.or_empty] at hside
  rw [cells_ifElse test hyesSize hnoSize, Cells.or_assoc, Cells.or_assoc, Cells.or_assoc]
  refine Chart.adds_condition hblank hnext hforks hnoBox hnoFirst hyesBox hyesFirst
    (hgiven lo (Nat.le_refl _) (by omega)) (hbelow.mono (by omega)) (hside.mono (by omega)) ?_
  intro (w : Nat)
  by_cases hw : w < no
  · exact Or.inl (hnone w (by omega))
  · exact Or.inr (Planned.cells_eq_none (by omega))

/-- A statement that is drawn as one box gets the planned cell. -/
theorem placed_single {stmt : Stmt} {box : Except Refusal Box} (hbox : stmt.box? = some box) :
    Placed stmt := by
  intro chart u lo v hi row column given added hblank hlt hshows hadded hgiven hbehind
  rw [Chart.shows_single hbox] at hshows
  obtain ⟨shown, -, hnext, -, rfl, rfl⟩ := hshows
  rw [rowAfter_single hbox] at hbehind
  rw [planned_single hbox]
  show chart.Adds u v row column given (((Cells.single v ⟨row, column⟩).or .empty).or added)
  rw [Cells.or_empty]
  exact Chart.adds_box hblank hnext (hgiven v (Nat.le_refl _) (Nat.lt_succ_self _)) hbehind

/-- Every statement of a console chart gets the planned cells, and so does what is behind it. -/
theorem placed (stmt : Stmt) : Placed stmt := by
  induction stmt using nestedInduction with
  | single stmt box hbox => exact placed_single hbox
  | ifElse test body orelse hbody horelse => exact placed_ifElse hbody horelse
  | whileLoop test body orelse refusal hbody =>
      intro chart u lo v hi row column given added hblank hlt hshows
      rw [Chart.Shows] at hshows
      cases hshows.1
  | skip =>
      intro chart u lo v hi row column given added hblank hlt hshows hadded hgiven hbehind
      rw [Chart.Shows] at hshows
      obtain ⟨rfl, rfl⟩ := hshows
      exact hbehind
  | program body hbody =>
      intro chart u lo v hi row column given added hblank hlt hshows hadded hgiven hbehind
      rw [Chart.Shows] at hshows
      exact adds_all hbody hblank hlt hshows hadded hgiven hbehind
  | refused refusal =>
      intro chart u lo v hi row column given added hblank hlt hshows
      rw [Chart.Shows] at hshows
      cases hshows

end Stmt

/-! ### Drawing gives no cells -/

namespace Chart

/-- A node without a cell leaves the chart without cells. -/
theorem Blank.add {chart : Chart} (h : chart.Blank) {node : Node} (hrow : node.row = none)
    (hcolumn : node.column = none) : (chart.add node).Blank := by
  intro v old hv
  rw [getElem?_add] at hv
  split at hv
  · cases hv
    exact ⟨hrow, hcolumn⟩
  · exact h v old hv

/-- Turning links gives no cells. -/
theorem Blank.withExit {chart : Chart} (h : chart.Blank) (u : NodeId) (f : Exit → Exit) :
    Blank (chart.modify u fun node => { node with exit := f node.exit }) := by
  intro v node hv
  rw [Array.getElem?_modify] at hv
  split at hv
  · obtain ⟨old, hold, rfl⟩ := Option.map_eq_some_iff.mp hv
    exact h v old hold
  · exact h v node hv

end Chart

/-- No change of a draft gives cells. -/
theorem Draft.blank_kept : Stmt.KeptByEdits fun draft => draft.chart.Blank where
  append draft _ h :=
    (h.add rfl rfl).withExit draft.current fun _ => .next (.node draft.chart.size)
  openBranch draft _ side h :=
    (h.add rfl rfl).withExit _ fun exit => exit.setSlot side (.node draft.chart.size)
  joinWith draft other h :=
    ((h.add rfl rfl).withExit other fun _ => .next (.node draft.chart.size)).withExit draft.current
      fun _ => .next (.node draft.chart.size)
  closeLoop draft top h := h.withExit draft.current fun _ => .next (.node top)

/-- Drawing gives no cells. -/
theorem Stmt.blank_draw {medium : Medium} {stmt : Stmt} {draft : Draft}
    (h : (stmt.draw medium).run Draft.empty = .ok () draft) : draft.chart.Blank := by
  have hempty : Draft.empty.chart.Blank := by
    intro v node hv
    have hsize := Chart.lt_size hv
    obtain rfl : v = 0 := Nat.lt_one_iff.mp hsize
    cases hv
    exact ⟨rfl, rfl⟩
  exact (keptBy_draw Draft.blank_kept medium stmt).ok hempty h

/-! ### The console chart of a program -/

/-- The plan of a program: its start, and then its statements. -/
def Stmt.programPlan (body : List Stmt) : List Planned :=
  ⟨.ok .start, some ⟨0, 0⟩⟩ :: plannedAll body 1 0

/-- The planned cells of a program. -/
def Stmt.programCells (body : List Stmt) : Cells :=
  Planned.cells 0 (programPlan body)

/-- A node is as it was planned. -/
def Node.Fits (node : Node) (entry : Planned) : Prop :=
  entry.box = .ok node.box ∧ node.row = entry.cell.map (fun cell => (cell.row : Int)) ∧
    node.column = entry.cell.map fun cell => (cell.column : Int)

/-- A node without a cell, or in the given column. -/
def Node.InColumn (node : Node) (column : Nat) : Prop :=
  ∀ c, node.column = some c → c = column

namespace Chart

/-- A chart without cells that shows a program on a console and ends at the node `last`. -/
structure Charts (chart : Chart) (body : List Stmt) (last : Nat) : Prop where
  tidy : chart.Tidy
  blank : chart.Blank
  start : chart.Holds 0 .start
  shows : chart.ShowsAll .console body 0 1 last chart.size
  leaf : ∃ node, chart[last]? = some node ∧ node.exit = .next .nowhere

/-- The draft of a program on a console shows the program and ends at its current node. -/
theorem charts_draw {body : List Stmt} {draft : Draft}
    (h : ((Stmt.program body).draw .console).run Draft.empty = .ok () draft) :
    draft.chart.Charts body draft.current := by
  have hcompletes := Stmt.completes_draw Draft.sound_empty h
  have hshows := Stmt.shows_draw .console (.program body) _ draft Draft.sound_empty h _
    (Extends.refl _)
  rw [Shows] at hshows
  exact ⟨hcompletes.sound.built.toTidy, Stmt.blank_draw h, hcompletes.sound.built.start, hshows,
    hcompletes.sound.ready⟩

/-- The node of an entry of the plan holds the entry's box. -/
theorem HoldsAll.exists_box {chart : Chart} {lo : Nat} {plan : List Planned}
    (h : chart.HoldsAll lo plan) {i : Nat} {entry : Planned} (hentry : plan[i]? = some entry) :
    ∃ box, entry.box = .ok box ∧ chart.Holds (lo + i) box := by
  induction plan generalizing lo i with
  | nil => cases hentry
  | cons first rest ih =>
      cases i with
      | zero =>
          cases hentry
          exact h.1
      | succ i =>
          have hstep : lo + (i + 1) = lo + 1 + i := by omega
          rw [hstep]
          exact ih h.2 hentry

section
variable {chart : Chart} {body : List Stmt} {last : Nat} (h : chart.Charts body last)
include h

/-- The nodes behind the start are those of the plan. -/
theorem Charts.realizes : chart.Realizes (Stmt.plannedAll body 1 0) 0 1 last chart.size :=
  Stmt.realizes_all (fun s _ => Stmt.realized s) Nat.zero_lt_one h.shows 1 0

/-- There are as many nodes as entries in the plan. -/
theorem Charts.size_eq : chart.size = (Stmt.programPlan body).length := by
  rw [h.realizes.size, Stmt.programPlan, List.length_cons, Nat.add_comm]

/-- The layout of the chart gives every node the planned cell. -/
theorem Charts.lays : chart.Lays .empty (.node 0) 0 0 (Stmt.programCells body) := by
  obtain ⟨leaf, hleaf, hexit⟩ := h.leaf
  have hend : chart.Adds last chart.size (Stmt.rowAfterAll body 1) 0 .empty .empty := by
    intro cells _
    rw [Cells.or_empty]
    exact Or.inl ⟨leaf, hleaf, hexit, rfl⟩
  have hadds : chart.Adds 0 1 1 0 .empty
      ((Planned.cells 1 (Stmt.plannedAll body 1 0)).or .empty) :=
    Stmt.adds_all (fun s _ => Stmt.placed s) h.blank Nat.zero_lt_one h.shows (fun _ _ => rfl)
      (fun _ _ _ => rfl) hend
  rw [Cells.or_empty] at hadds
  refine lays_box h.blank rfl ?_
  rw [Cells.empty_or]
  refine hadds _ fun w hw => ?_
  have hne : w ≠ 0 := by omega
  exact Cells.single_of_ne hne _

/-- Every node is a planned one, and has a planned cell unless it is a head. -/
theorem Charts.planned {v : Nat} {node : Node} (hnode : chart[v]? = some node) :
    ∃ entry, (Stmt.programPlan body)[v]? = some entry ∧ entry.box = .ok node.box ∧
      Stmt.programCells body v = entry.cell ∧
      (entry.cell = none ↔ node.box = .head) := by
  have hlt : v < (Stmt.programPlan body).length := by
    rw [← h.size_eq]
    exact lt_size hnode
  have hentry := List.getElem?_eq_getElem hlt
  have hall : chart.HoldsAll 0 (Stmt.programPlan body) := ⟨⟨.start, rfl, h.start⟩, h.realizes.boxes⟩
  obtain ⟨box, hbox, hholds⟩ := hall.exists_box hentry
  rw [Nat.zero_add] at hholds
  have hcell : Stmt.programCells body (0 + v) = _ :=
    Planned.cells_getElem? 0 (Stmt.programPlan body) v
  rw [Nat.zero_add, hentry] at hcell
  refine ⟨_, hentry, by rw [hbox, hholds.box_eq hnode], hcell, ?_⟩
  -- The start has a cell, and for the rest it is told by the statements.
  have hhead : (Stmt.programPlan body)[v].cell = none
      ↔ (Stmt.programPlan body)[v].box = .ok .head := by
    rcases List.mem_cons.mp (List.getElem_mem hlt) with hstart | hrest
    · rw [hstart]
      simp
    · exact Stmt.cell_eq_none_iff_all (fun s _ => Stmt.cell_eq_none_iff s) 1 0 _ hrest
  rw [hhead, hbox, hholds.box_eq hnode, Except.ok.injEq]

/-- Every node that is no head has a planned cell. -/
theorem Charts.exists_cell {v : Nat} {box : Box} (hholds : chart.Holds v box) (hne : box ≠ .head) :
    ∃ cell, Stmt.programCells body v = some cell := by
  obtain ⟨node, hnode, rfl⟩ := hholds
  obtain ⟨entry, -, -, hcell, hhead⟩ := h.planned hnode
  rw [hcell]
  exact Option.ne_none_iff_exists'.mp fun hnone => hne (hhead.mp hnone)

/-- Every node but the last one leads on to later nodes. -/
theorem Charts.onward {v : Nat} (hv : v < chart.size) (hne : v ≠ last) : chart.Onward v :=
  h.realizes.onward v (by omega) hne

/-- A head is not the last node, and leads on to a later node, which is no head. -/
theorem Charts.next_of_head {v : Nat} (hhead : chart.Holds v .head) :
    ∃ w, chart.Next v w ∧ v < w ∧ ∃ box, chart.Holds w box ∧ box ≠ .head := by
  obtain ⟨node, hnode, hbox⟩ := hhead
  -- The last node is the start or one that is no head.
  have hne : v ≠ last := by
    rintro rfl
    rcases h.realizes.last with rfl | ⟨-, -, box, hholds, hne⟩
    · exact absurd ((h.start.box_eq hnode).symm.trans hbox) (by decide)
    · exact hne ((hholds.box_eq hnode).symm.trans hbox)
  cases h.onward (lt_size hnode) hne with
  | next hnext hlt hholds hne' => exact ⟨_, hnext, hlt, _, hholds, hne'⟩
  | fork hforks =>
      -- Only conditions branch.
      obtain ⟨node', hnode', hexit⟩ := hforks
      rw [hnode] at hnode'
      cases hnode'
      have hcond := h.tidy.condition hnode (by rw [hexit]; rfl)
      rw [hbox] at hcond
      cases hcond

/-- The links of a node that has got a cell. -/
theorem Charts.links_placed {v : Nat} {target : Link} {cell : Cell}
    (hcell : Stmt.programCells body v = some cell)
    (hleads : (chart.placed (Stmt.programCells body)).Leads v target) :
    v = last ∧ target = .nowhere ∨ v ≠ last ∧ ∃ w, target = .node w ∧ v < w ∧
      ∃ cell, Stmt.programCells body w = some cell := by
  obtain ⟨placed, hplaced, hmem⟩ := hleads
  rw [getElem?_placed_of_some hcell] at hplaced
  obtain ⟨node, hnode, rfl⟩ := Option.map_eq_some_iff.mp hplaced
  have hlinks : target ∈ (chart.pastHeads node.exit).links := hmem
  by_cases hlast : v = last
  · -- The last node has its open link still.
    obtain ⟨leaf, hleaf, hexit⟩ := h.leaf
    rw [← hlast, hnode] at hleaf
    cases hleaf
    rw [hexit] at hlinks
    exact Or.inl ⟨hlast, List.mem_singleton.mp hlinks⟩
  · refine Or.inr ⟨hlast, ?_⟩
    cases h.onward (lt_size hnode) hlast with
    | next hnext hlt hholds hne =>
        obtain ⟨node', hnode', hexit⟩ := hnext
        rw [hnode] at hnode'
        cases hnode'
        rw [hexit] at hlinks
        exact ⟨_, List.mem_singleton.mp hlinks, hlt, h.exists_cell hholds hne⟩
    -- A condition leads past the heads of its sides now.
    | @fork no yes hforks hno hyes hnoBox hyesBox =>
        obtain ⟨node', hnode', hexit⟩ := hforks
        rw [hnode] at hnode'
        cases hnode'
        obtain ⟨noNext, hnoNext, hnoLt, noBox, hnoHolds, hnoNe⟩ := h.next_of_head hnoBox
        obtain ⟨yesNext, hyesNext, hyesLt, yesBox, hyesHolds, hyesNe⟩ := h.next_of_head hyesBox
        rw [hexit, pastHeads, pastHead_of_next hnoBox hnoNext, pastHead_of_next hyesBox hyesNext]
          at hlinks
        rcases List.mem_pair.mp hlinks with rfl | rfl
        · exact ⟨noNext, rfl, by omega, h.exists_cell hnoHolds hnoNe⟩
        · exact ⟨yesNext, rfl, by omega, h.exists_cell hyesHolds hyesNe⟩

/-- All nodes behind the start have got cells. -/
theorem Charts.cell_of_reaches {v : Nat}
    (hv : (chart.placed (Stmt.programCells body)).Reaches 0 v) :
    ∃ cell, Stmt.programCells body v = some cell := by
  induction hv with
  | refl => exact h.exists_cell h.start (by decide)
  | tail _ hstep ih =>
      obtain ⟨cell, hcell⟩ := ih
      -- The links of nodes with cells lead to nodes with cells.
      rcases h.links_placed hcell hstep with ⟨-, hopen⟩ | ⟨-, w, hw, -, hplaced⟩
      · cases hopen
      · cases hw
        exact hplaced

/-- A node with a planned cell has got it. -/
theorem Charts.hasCell {v : Nat} {cell : Cell} (hcell : Stmt.programCells body v = some cell) :
    (chart.placed (Stmt.programCells body)).HasCell v cell := by
  have hlt : v < chart.size := by
    rw [h.size_eq]
    refine Nat.lt_of_not_le fun hle => ?_
    rw [Stmt.programCells, Planned.cells_eq_none (by omega)] at hcell
    cases hcell
  obtain ⟨node, hnode⟩ := exists_node hlt
  refine ⟨chart.placedNode node cell, ?_, rfl, rfl⟩
  rw [getElem?_placed_of_some hcell, hnode, Option.map_some]

/-- With the planned cells every node behind the start has a cell, and leads on to later nodes
unless it is the last one. -/
theorem Charts.arranged : (chart.placed (Stmt.programCells body)).Arranged last where
  cell {v} hv := by
    obtain ⟨cell, hcell⟩ := h.cell_of_reaches hv
    exact ⟨cell, h.hasCell hcell⟩
  exits {v node} hv hnode := by
    obtain ⟨cell, hcell⟩ := h.cell_of_reaches hv
    by_cases hlast : v = last
    · -- The layout leaves an open link as it is.
      obtain ⟨leaf, hleaf, hexit⟩ := h.leaf
      rw [getElem?_placed_of_some hcell, hlast, hleaf] at hnode
      cases hnode
      refine Or.inl ⟨hlast, ?_⟩
      show chart.pastHeads leaf.exit = _
      rw [hexit, pastHeads]
    · refine Or.inr ⟨hlast, fun target htarget => ?_⟩
      rcases h.links_placed hcell ⟨node, hnode, htarget⟩ with ⟨hlast', -⟩ | ⟨-, w, hw, hlt, -⟩
      · exact absurd hlast' hlast
      · exact ⟨w, hw, hlt⟩

/-- With its cells every node of the chart is as it was planned. -/
theorem Charts.fits :
    List.Forall₂ Node.Fits (chart.placed (Stmt.programCells body)).toList
      (Stmt.programPlan body) := by
  have hsize : (chart.placed (Stmt.programCells body)).size = chart.size := Array.size_mapIdx
  refine List.forall₂_iff_get.mpr ⟨by rw [Array.length_toList, hsize, h.size_eq],
    fun v hv hv' => ?_⟩
  have hlt : v < chart.size := by
    rw [h.size_eq]
    exact hv'
  obtain ⟨node, hnode⟩ := exists_node hlt
  obtain ⟨entry, hentry, hbox, hcell, -⟩ := h.planned hnode
  have hplan : (Stmt.programPlan body).get ⟨v, hv'⟩ = entry :=
    Option.some.inj ((List.getElem?_eq_getElem hv').symm.trans hentry)
  -- Node and entry have one number, so that both are looked up by it.
  have hplaced := getElem?_placed chart (Stmt.programCells body) v
  rw [hnode, hcell, Option.map_some, ← Array.getElem?_toList, List.getElem?_eq_getElem hv]
    at hplaced
  rw [hplan, List.get_eq_getElem, Option.some.inj hplaced]
  cases hentryCell : entry.cell with
  | none =>
      obtain ⟨hrow, hcolumn⟩ := h.blank v node hnode
      exact ⟨hbox, by rw [hentryCell, hrow]; rfl, by rw [hentryCell, hcolumn]; rfl⟩
  | some cell => exact ⟨hbox, by rw [hentryCell]; rfl, by rw [hentryCell]; rfl⟩

end

/-- The layout of a chart, from its start on. -/
def LaidOut (chart laid : Chart) : Prop :=
  ∃ need, ∀ depth, need ≤ depth → (layOut depth (.node 0) 0 0).run chart = .ok () laid

/-- The layout ends, and gives the planned cells. -/
theorem Charts.laidOut {chart : Chart} {body : List Stmt} {last : Nat}
    (h : chart.Charts body last) : chart.LaidOut (chart.placed (Stmt.programCells body)) := by
  obtain ⟨need, hlays⟩ := h.lays
  have hempty : chart.placed .empty = chart :=
    Array.ext_getElem? fun _ => getElem?_placed_of_none rfl
  rw [hempty] at hlays
  exact ⟨need, hlays⟩

/-- Whatever the depth, there is one layout. -/
theorem LaidOut.eq_of_run {chart laid laid' : Chart} (h : chart.LaidOut laid) {depth : Nat}
    (hrun : (layOut depth (.node 0) 0 0).run chart = .ok () laid') : laid' = laid := by
  obtain ⟨need, hneed⟩ := h
  -- With more depth the same comes out, so that both can be compared at one depth.
  have hdeep := (curtails_layOut (Nat.le_max_right need depth) _ _ _).ok hrun
  rw [hneed _ (Nat.le_max_left need depth)] at hdeep
  cases hdeep
  rfl

/-- The layout leads past the heads, so that none is reached from the start. -/
theorem Charts.ne_head {chart : Chart} {body : List Stmt} {last : Nat} (h : chart.Charts body last)
    {v : Nat} (hv : (chart.placed (Stmt.programCells body)).Reaches 0 v) {node : Node}
    (hnode : (chart.placed (Stmt.programCells body))[v]? = some node) : node.box ≠ .head := by
  obtain ⟨cell, hcell⟩ := h.cell_of_reaches hv
  rw [getElem?_placed_of_some hcell] at hnode
  obtain ⟨old, hold, rfl⟩ := Option.map_eq_some_iff.mp hnode
  obtain ⟨entry, -, -, hentry, hhead⟩ := h.planned hold
  intro hbox
  rw [hentry, hhead.mpr hbox] at hcell
  cases hcell

/-- Nodes that are as planned stand in the planned columns. -/
theorem inColumn_of_fits {nodes : List Node} {plan : List Planned} {depths : List Nat}
    (hfits : List.Forall₂ Node.Fits nodes plan) (hcolumns : Stmt.ColumnsFit 0 plan depths) :
    List.Forall₂ Node.InColumn nodes depths := by
  induction hfits generalizing depths with
  | nil =>
      cases hcolumns
      exact .nil
  | @cons node entry nodes plan hnode _ ih =>
      obtain ⟨depth, depths, hdepth, hrest, rfl⟩ := List.forall₂_cons_left_iff.mp hcolumns
      refine .cons ?_ (ih hrest)
      intro column hcolumn
      rw [hnode.2.2] at hcolumn
      obtain ⟨cell, hcell, rfl⟩ := Option.map_eq_some_iff.mp hcolumn
      rw [hdepth cell hcell, Nat.zero_add]

/-- The column of a node after the layout is the number of bodies of conditions around it. -/
theorem Charts.inColumns {chart : Chart} {body : List Stmt} {last : Nat}
    (h : chart.Charts body last) :
    List.Forall₂ Node.InColumn (chart.placed (Stmt.programCells body)).toList
      (0 :: Stmt.enclosingAll body) := by
  refine inColumn_of_fits h.fits (.cons ?_ (Stmt.columnsFit_all (fun s _ => Stmt.columnsFit s) 1 0))
  intro cell hcell
  cases hcell
  rfl

/-- What the layout of a program leaves behind, at whatever depth it came to its end. -/
theorem arranged_of_layOut {body : List Stmt} {draft : Draft}
    (h : ((Stmt.program body).draw .console).run Draft.empty = .ok () draft) {depth : Nat}
    {laid : Chart} (hlaid : (layOut depth (.node 0) 0 0).run draft.chart = .ok () laid) :
    laid.Arranged draft.current := by
  have hcharts := charts_draw h
  rw [hcharts.laidOut.eq_of_run hlaid]
  exact hcharts.arranged

end Chart

end Flowchart
