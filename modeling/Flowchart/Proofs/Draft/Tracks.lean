import Flowchart.Proofs.Draft.Layout
import Mathlib.Algebra.Order.Group.Multiset
import Mathlib.Data.List.Nodup

/-!
# `Flowchart.Proofs.Draft.Tracks`: which cells of a console are taken

Statements that follow one another stand below one another, one node to a row, and the side of a
condition for `no` goes on in the same column.  So they take a `Track`: all rows of one column from
the first to the last of them.  Only the body of a condition has a track of its own, which begins
beside the condition in the next column.

`Stmt.tracks` lists the tracks of a program, by its statements alone.  Their cells are those of the
planned nodes, each as often as there are nodes in it (`Stmt.cells_programPlan`).  From this:

* `Chart.exists_reached_iff`: which cells are taken after the layout of a program.
* `Chart.apart_iff`: no two nodes are in one cell exactly if no two tracks overlap.
* `Chart.hasCell_current`: the last node stands at the end of the first track.
-/

set_option autoImplicit false

namespace Flowchart

/-! ### Tracks -/

/-- The rows of a column from `start` up to but not including `stop`. -/
structure Track where
  column : Nat
  start : Nat
  stop : Nat
deriving Repr, DecidableEq

namespace Track

/-- The cells of a track, from the top. -/
def cells (track : Track) : List Cell :=
  (List.range' track.start (track.stop - track.start)).map (Cell.mk · track.column)

/-- Two tracks have a cell in common. -/
def Overlaps (track other : Track) : Prop :=
  track.column = other.column ∧ max track.start other.start < min track.stop other.stop

instance (track other : Track) : Decidable (track.Overlaps other) :=
  inferInstanceAs (Decidable (_ ∧ _))

/-- A cell is in a track if it is in its column and between its ends. -/
theorem mem_cells {track : Track} {cell : Cell} :
    cell ∈ track.cells ↔
      cell.column = track.column ∧ track.start ≤ cell.row ∧ cell.row < track.stop := by
  obtain ⟨row, column⟩ := cell
  simp only [cells, List.mem_map, List.mem_range'_1, Cell.mk.injEq]
  constructor
  · rintro ⟨_, hrow, rfl, rfl⟩
    omega
  · rintro ⟨rfl, hrow⟩
    exact ⟨row, by omega, rfl, rfl⟩

/-- No cell is in a track twice. -/
theorem nodup_cells (track : Track) : track.cells.Nodup := by
  refine List.Nodup.map ?_ List.nodup_range'
  intro row row' h
  cases h
  rfl

/-- Two tracks have no cell in common exactly if they do not overlap. -/
theorem disjoint_cells_iff {track other : Track} :
    track.cells.Disjoint other.cells ↔ ¬ track.Overlaps other := by
  refine ⟨fun h hoverlap => ?_, fun h cell hcell hother => h ?_⟩
  · -- The lower one of the two beginnings is in both.
    obtain ⟨hcolumn, hrows⟩ := hoverlap
    have hlower := Nat.lt_min.mp hrows
    exact @h ⟨max track.start other.start, track.column⟩
      (mem_cells.mpr ⟨rfl, Nat.le_max_left _ _, hlower.1⟩)
      (mem_cells.mpr ⟨hcolumn, Nat.le_max_right _ _, hlower.2⟩)
  · obtain ⟨hcolumn, hrow⟩ := mem_cells.mp hcell
    obtain ⟨hcolumn', hrow'⟩ := mem_cells.mp hother
    exact ⟨hcolumn.symm.trans hcolumn', by omega⟩

/-- No cell is in two tracks of a list exactly if no two of them overlap. -/
theorem nodup_flatMap_cells (tracks : List Track) :
    (tracks.flatMap cells).Nodup ↔ tracks.Pairwise fun track other => ¬ track.Overlaps other := by
  rw [List.nodup_flatMap]
  refine ⟨fun h => h.2.imp disjoint_cells_iff.mp, fun h => ?_⟩
  exact ⟨fun track _ => track.nodup_cells, h.imp disjoint_cells_iff.mpr⟩

/-- A track goes on where another one ends. -/
theorem cells_append {column start mid stop : Nat} (h : start ≤ mid) (h' : mid ≤ stop) :
    cells ⟨column, start, mid⟩ ++ cells ⟨column, mid, stop⟩ = cells ⟨column, start, stop⟩ := by
  have hmid : start + (mid - start) = mid := by omega
  have hlength : mid - start + (stop - mid) = stop - start := by omega
  simp only [cells, ← List.map_append]
  rw [← hlength, ← List.range'_append_1, hmid]

/-- A track of one row is one cell. -/
theorem cells_single (row column : Nat) : cells ⟨column, row, row + 1⟩ = [⟨row, column⟩] := by
  rw [cells, Nat.add_sub_cancel_left]
  rfl

/-- A track without rows has no cells. -/
theorem cells_self (row column : Nat) : cells ⟨column, row, row⟩ = [] := by
  rw [cells, Nat.sub_self]
  rfl

end Track

/-! ### The tracks of a program -/

namespace Stmt

mutual

/-- The tracks of the bodies of conditions in a statement that begins in the given cell. -/
def sideTracks : Stmt → (row column : Nat) → List Track
  | .ifElse _ body orelse, row, column =>
    ⟨column + 1, row, rowAfterAll body row⟩ ::
      (sideTracksAll body row (column + 1) ++ sideTracksAll orelse (row + 1) column)
  | .program body, row, column => sideTracksAll body row column
  | _, _, _ => []

/-- The tracks of the bodies of conditions in several statements. -/
def sideTracksAll : List Stmt → (row column : Nat) → List Track
  | [], _, _ => []
  | stmt :: rest, row, column =>
    stmt.sideTracks row column ++ sideTracksAll rest (stmt.rowAfter row) column

end

/-- The tracks of a program: the first column from the start to the end, and one for each body of a
condition. -/
def tracks (body : List Stmt) : List Track :=
  ⟨0, 0, rowAfterAll body 1⟩ :: sideTracksAll body 1 0

/-- A statement that is drawn as one box has no bodies. -/
theorem sideTracks_single {stmt : Stmt} {box : Except Refusal Box} (h : stmt.box? = some box)
    (row column : Nat) : stmt.sideTracks row column = [] := by
  cases stmt <;> cases h <;> simp [sideTracks]

/-- The bodies of conditions are to the right of the statements they belong to. -/
theorem column_lt_of_mem_all {stmts : List Stmt}
    (h : ∀ stmt ∈ stmts, ∀ row column, ∀ track ∈ stmt.sideTracks row column, column < track.column)
    (row column : Nat) : ∀ track ∈ sideTracksAll stmts row column, column < track.column := by
  induction stmts generalizing row with
  | nil =>
      intro track htrack
      cases htrack
  | cons stmt rest ih =>
      intro track htrack
      rcases List.mem_append.mp htrack with hfirst | hrest
      · exact h stmt List.mem_cons_self row column track hfirst
      · exact ih (fun s hs => h s (List.mem_cons_of_mem _ hs)) _ track hrest

/-- The body of a condition is to the right of the condition. -/
theorem column_lt_of_mem (stmt : Stmt) (row column : Nat) :
    ∀ track ∈ stmt.sideTracks row column, column < track.column := by
  induction stmt using nestedInduction generalizing row column with
  | single stmt box hbox =>
      rw [sideTracks_single hbox]
      intro track htrack
      cases htrack
  | ifElse test body orelse hbody horelse =>
      intro track htrack
      rw [sideTracks, List.mem_cons, List.mem_append] at htrack
      -- The body has the next column, and what is inside it is still further to the right.
      rcases htrack with rfl | hyes | hno
      · exact Nat.lt_succ_self column
      · exact Nat.lt_trans (Nat.lt_succ_self column)
          (column_lt_of_mem_all hbody row (column + 1) track hyes)
      · exact column_lt_of_mem_all horelse (row + 1) column track hno
  | whileLoop | skip | refused =>
      intro track htrack
      cases htrack
  | program body hbody => exact column_lt_of_mem_all hbody row column

/-- Only the track of the whole program is in the first column. -/
theorem eq_of_column_eq_zero {body : List Stmt} {track : Track} (htrack : track ∈ tracks body)
    (hcolumn : track.column = 0) : track = ⟨0, 0, rowAfterAll body 1⟩ := by
  rcases List.mem_cons.mp htrack with heq | hside
  · exact heq
  · have hlt := column_lt_of_mem_all (fun s _ => column_lt_of_mem s) 1 0 track hside
    omega

/-- The cells of planned nodes. -/
def plannedCells (plan : List Planned) : Multiset Cell :=
  (plan.filterMap Planned.cell : List Cell)

/-- The cells of two plans. -/
theorem plannedCells_append (plan plan' : List Planned) :
    plannedCells (plan ++ plan') = plannedCells plan + plannedCells plan' := by
  rw [plannedCells, List.filterMap_append, ← Multiset.coe_add]
  rfl

/-- The cells of tracks. -/
def trackCells (tracks : List Track) : Multiset Cell :=
  (tracks.flatMap Track.cells : List Cell)

/-- The cells of one more track. -/
theorem trackCells_cons (track : Track) (tracks : List Track) :
    trackCells (track :: tracks) = ↑track.cells + trackCells tracks := by
  rw [trackCells, List.flatMap_cons, ← Multiset.coe_add]
  rfl

/-- The cells of two lists of tracks. -/
theorem trackCells_append (tracks tracks' : List Track) :
    trackCells (tracks ++ tracks') = trackCells tracks + trackCells tracks' := by
  rw [trackCells, List.flatMap_append, ← Multiset.coe_add]
  rfl

/-- A statement takes the rows of its own track once each, and the cells of the bodies in it. -/
structure Takes (plan : List Planned) (column start stop : Nat) (sides : List Track) : Prop where
  le : start ≤ stop
  cells : plannedCells plan = trackCells (⟨column, start, stop⟩ :: sides)

/-- No statement takes no row. -/
theorem Takes.nil (row column : Nat) : Takes [] column row row [] where
  le := Nat.le_refl row
  cells := by
    rw [trackCells_cons, Track.cells_self]
    rfl

/-- One box takes one row. -/
theorem Takes.single (box : Except Refusal Box) (row column : Nat) :
    Takes [⟨box, some ⟨row, column⟩⟩] column row (row + 1) [] where
  le := Nat.le_succ row
  cells := by
    rw [trackCells_cons, Track.cells_single]
    rfl

/-- A node without a cell takes nothing. -/
theorem Takes.head {plan : List Planned} {column start stop : Nat} {sides : List Track}
    (h : Takes plan column start stop sides) (box : Except Refusal Box) :
    Takes (⟨box, none⟩ :: plan) column start stop sides :=
  ⟨h.le, h.cells⟩

/-- What follows goes on in the row where the statements before it end. -/
theorem Takes.append {plan plan' : List Planned} {column start mid stop : Nat}
    {sides sides' : List Track} (h : Takes plan column start mid sides)
    (h' : Takes plan' column mid stop sides') :
    Takes (plan ++ plan') column start stop (sides ++ sides') where
  le := Nat.le_trans h.le h'.le
  cells := by
    rw [plannedCells_append, h.cells, h'.cells, trackCells_cons, trackCells_cons, trackCells_cons,
      trackCells_append, add_add_add_comm, Multiset.coe_add, Track.cells_append h.le h'.le]

/-- The body of a condition, in front of the rest of it. -/
theorem Takes.beside {plan plan' : List Planned} {column column' start start' stop stop' : Nat}
    {sides sides' : List Track} (h : Takes plan column start stop sides)
    (h' : Takes plan' column' start' stop' sides') :
    Takes (plan ++ plan') column' start' stop' (⟨column, start, stop⟩ :: sides ++ sides') where
  le := h'.le
  cells := by
    rw [plannedCells_append, h.cells, h'.cells, trackCells_cons ⟨column', _, _⟩, List.cons_append,
      trackCells_cons ⟨column', _, _⟩, ← List.cons_append, trackCells_append, add_left_comm]

/-- Statements take their own track, and those of the bodies in them, if each of them does. -/
theorem takes_all {stmts : List Stmt} (h : ∀ stmt ∈ stmts, ∀ row column,
      Takes (stmt.planned row column) column row (stmt.rowAfter row) (stmt.sideTracks row column))
    (row column : Nat) : Takes (plannedAll stmts row column) column row (rowAfterAll stmts row)
      (sideTracksAll stmts row column) := by
  induction stmts generalizing row with
  | nil => exact .nil row column
  | cons stmt rest ih =>
      exact (h stmt List.mem_cons_self row column).append
        (ih (fun s hs => h s (List.mem_cons_of_mem _ hs)) _)

/-- Every statement takes its own track, and those of the bodies in it. -/
theorem takes (stmt : Stmt) (row column : Nat) :
    Takes (stmt.planned row column) column row (stmt.rowAfter row)
      (stmt.sideTracks row column) := by
  induction stmt using nestedInduction generalizing row column with
  | single stmt box hbox =>
      rw [planned_single hbox, rowAfter_single hbox, sideTracks_single hbox]
      exact .single box row column
  | ifElse test body orelse hbody horelse =>
      -- The condition, the body beside it, and below it the other side and the join.
      have hyes := (takes_all hbody row (column + 1)).head (.ok .head)
      have hno := (takes_all horelse (row + 1) column).head (.ok .head)
      have hjoin := Takes.single (.ok .join) (rowAfterAll orelse (row + 1)) column
      have hall := (Takes.single (conditionBox test) row column).append
        (hyes.beside (hno.append hjoin))
      rw [planned, rowAfter, sideTracks]
      simpa using hall
  | whileLoop | skip | refused => exact .nil row column
  | program body hbody => exact takes_all hbody row column

/-- The planned cells of a program are those of its tracks. -/
theorem cells_programPlan (body : List Stmt) :
    plannedCells (programPlan body) = trackCells (tracks body) :=
  ((Takes.single (.ok .start) 0 0).append (takes_all (fun s _ => takes s) 1 0)).cells

/-! ### The last row of a track -/

/-- The node `v`, which is the last of the planned ones if there are any, stands in the last row of
the track. -/
def EndsIn (plan : List Planned) (u lo v column start stop : Nat) : Prop :=
  v = u ∧ stop = start ∨
    lo ≤ v ∧ ∃ last, stop = last + 1 ∧ Planned.cells lo plan v = some ⟨last, column⟩

/-- What follows ends in the last row of the track, or is nothing and leaves it at that. -/
theorem EndsIn.append {plan plan' : List Planned} {u lo mid next v column start middle stop : Nat}
    (h : EndsIn plan u lo mid column start middle)
    (h' : EndsIn plan' mid next v column middle stop) (hnext : next = lo + plan.length) :
    EndsIn (plan ++ plan') u lo v column start stop := by
  rw [EndsIn, Planned.cells_append, ← hnext]
  -- The second plan has the last node, unless it is empty.
  rcases h' with ⟨rfl, rfl⟩ | ⟨hle, last, hstop, hcell⟩
  · refine h.imp_right fun ⟨hle, last, hstop, hcell⟩ => ⟨hle, last, hstop, ?_⟩
    rw [Cells.or_apply, hcell]
    rfl
  · refine Or.inr ⟨by omega, last, hstop, ?_⟩
    rw [Cells.or_apply, Planned.cells_eq_none (by omega), Option.none_or, hcell]

/-- Statements end in the last row of their track if each of them does. -/
theorem endsIn_all {stmts : List Stmt} {chart : Chart}
    (h : ∀ stmt ∈ stmts, ∀ u lo v hi, u < lo → chart.Shows .console stmt u lo v hi →
      ∀ row column, EndsIn (stmt.planned row column) u lo v column row (stmt.rowAfter row))
    {u lo v hi : Nat} (hlt : u < lo) (hshows : chart.ShowsAll .console stmts u lo v hi)
    (row column : Nat) :
    EndsIn (plannedAll stmts row column) u lo v column row (rowAfterAll stmts row) := by
  induction stmts generalizing u lo row with
  | nil =>
      rw [Chart.ShowsAll] at hshows
      exact Or.inl ⟨hshows.1, rfl⟩
  | cons stmt rest ih =>
      rw [Chart.ShowsAll] at hshows
      obtain ⟨mid, next, hfirst, hrest⟩ := hshows
      have hreal := realized stmt chart u lo mid next hlt hfirst row column
      exact (h stmt List.mem_cons_self u lo mid next hlt hfirst row column).append
        (ih (fun s hs => h s (List.mem_cons_of_mem _ hs)) (hreal.last_lt hlt) hrest _) hreal.size

/-- Every statement of a console chart ends in the last row of its track. -/
theorem endsIn (stmt : Stmt) {chart : Chart} {u lo v hi : Nat} (hlt : u < lo)
    (hshows : chart.Shows .console stmt u lo v hi) (row column : Nat) :
    EndsIn (stmt.planned row column) u lo v column row (stmt.rowAfter row) := by
  induction stmt using nestedInduction generalizing u lo v hi row column with
  | single stmt box hbox =>
      rw [Chart.shows_single hbox] at hshows
      obtain ⟨_, -, -, -, rfl, -⟩ := hshows
      rw [planned_single hbox, rowAfter_single hbox]
      refine Or.inr ⟨Nat.le_refl v, row, rfl, ?_⟩
      rw [Planned.cells, Cells.or_apply, Planned.cellAt_self]
      rfl
  | ifElse test body orelse hbody horelse =>
      have hreal := realized _ chart u lo v hi hlt hshows row column
      rw [Chart.Shows] at hshows
      obtain ⟨box, yesEnd, no, noEnd, -, -, -, -, -, hyes, -, hno, -, -, -, rfl⟩ := hshows
      have hyesSize := (realizes_all (fun s _ => realized s) (Nat.lt_succ_self _) hyes row
        (column + 1)).size
      have hnoSize := (realizes_all (fun s _ => realized s) (Nat.lt_succ_self _) hno (row + 1)
        column).size
      -- The join comes last, below the side for `no`.
      have hsize := hreal.size
      refine Or.inr ⟨by omega, rowAfterAll orelse (row + 1), rfl, ?_⟩
      have hlo : v ≠ lo := by omega
      rw [cells_ifElse test hyesSize hnoSize, Cells.or_apply, Cells.single_of_ne hlo,
        Option.none_or, Cells.or_apply, Planned.cells_eq_none (by omega), Option.none_or,
        Cells.or_apply, Planned.cells_eq_none (by omega), Option.none_or, Cells.single_self]
  | whileLoop test body orelse refusal hbody =>
      rw [Chart.Shows] at hshows
      cases hshows.1
  | skip =>
      rw [Chart.Shows] at hshows
      exact Or.inl ⟨hshows.1, rfl⟩
  | program body hbody =>
      rw [Chart.Shows] at hshows
      exact endsIn_all (fun s hs u lo v hi hlt hshows row column =>
        hbody s hs hlt hshows row column) hlt hshows row column
  | refused refusal =>
      rw [Chart.Shows] at hshows
      cases hshows

end Stmt

/-! ### The cells of a chart that was laid out -/

/-- The values of a function on a list are different exactly if no value comes from two places. -/
theorem nodup_filterMap_iff {α β : Type} {f : α → Option β} {l : List α} :
    (l.filterMap f).Nodup ↔
      ∀ (i j : Nat) (b : β), l[i]?.bind f = some b → l[j]?.bind f = some b → i = j := by
  rw [List.Nodup, List.pairwise_filterMap, List.pairwise_iff_getElem]
  constructor
  · intro h i j b hi hj
    obtain ⟨a, ha, hb⟩ := Option.bind_eq_some_iff.mp hi
    obtain ⟨a', ha', hb'⟩ := Option.bind_eq_some_iff.mp hj
    obtain ⟨hlt, rfl⟩ := List.getElem?_eq_some_iff.mp ha
    obtain ⟨hlt', rfl⟩ := List.getElem?_eq_some_iff.mp ha'
    -- Two places in their order would have different values.
    rcases Nat.lt_trichotomy i j with hij | hij | hij
    · exact absurd rfl (h i j hlt hlt' hij b hb b hb')
    · exact hij
    · exact absurd rfl (h j i hlt' hlt hij b hb' b hb)
  · rintro h i j hi hj hij b hb _ hb' rfl
    have heq := h i j b (by rw [List.getElem?_eq_getElem hi]; exact hb)
      (by rw [List.getElem?_eq_getElem hj]; exact hb')
    omega

namespace Chart

/-- No two of the nodes that are reached from the start are in one cell. -/
def Apart (chart : Chart) : Prop :=
  ∀ v w cell, chart.Reaches 0 v → chart.Reaches 0 w → chart.HasCell v cell → chart.HasCell w cell →
    v = w

/-- The planned cell of a node is that of its entry in the plan. -/
theorem programCells_eq (body : List Stmt) (v : Nat) :
    Stmt.programCells body v = (Stmt.programPlan body)[v]?.bind Planned.cell := by
  have hcell := Planned.cells_getElem? 0 (Stmt.programPlan body) v
  rw [Nat.zero_add] at hcell
  exact hcell

/-- The cells that are planned for nodes are those of the tracks. -/
theorem exists_programCells_iff (body : List Stmt) (cell : Cell) :
    (∃ v, Stmt.programCells body v = some cell) ↔
      ∃ track ∈ Stmt.tracks body, cell ∈ track.cells := by
  have hplanned : cell ∈ Stmt.plannedCells (Stmt.programPlan body) ↔
      ∃ v, Stmt.programCells body v = some cell := by
    rw [Stmt.plannedCells, Multiset.mem_coe, List.mem_filterMap]
    constructor
    · rintro ⟨entry, hentry, hcell⟩
      obtain ⟨v, hv⟩ := List.mem_iff_getElem?.mp hentry
      exact ⟨v, by rw [programCells_eq, hv]; exact hcell⟩
    · rintro ⟨v, hv⟩
      rw [programCells_eq] at hv
      obtain ⟨entry, hentry, hcell⟩ := Option.bind_eq_some_iff.mp hv
      exact ⟨entry, List.mem_of_getElem? hentry, hcell⟩
  -- The cells of the plan and of the tracks are the same, each as often.
  rw [← hplanned, Stmt.cells_programPlan, Stmt.trackCells, Multiset.mem_coe, List.mem_flatMap]

/-- A node is reached from the start of the second chart, or if it is a head of the first one, what
is behind it. -/
structure ReachedPast (chart laid : Chart) (v : Nat) : Prop where
  self : ∀ {node : Node}, chart[v]? = some node → node.box ≠ .head → laid.Reaches 0 v
  behind : chart.Holds v .head → ∀ {w : Nat}, chart.Next v w → laid.Reaches 0 w

/-- A box that is no head is to be reached itself. -/
theorem ReachedPast.ofBox {chart laid : Chart} {v : Nat} {box : Box} (hholds : chart.Holds v box)
    (hne : box ≠ .head) (hv : laid.Reaches 0 v) : chart.ReachedPast laid v where
  self _ _ := hv
  behind := fun ⟨_, hnode, hbox⟩ => absurd ((hholds.box_eq hnode).symm.trans hbox) hne

/-- What is behind a head is to be reached. -/
theorem ReachedPast.ofHead {chart laid : Chart} {v : Nat} (hhead : chart.Holds v .head)
    (hbehind : ∀ w, chart.Next v w → laid.Reaches 0 w) : chart.ReachedPast laid v where
  self hnode hne := absurd (hhead.box_eq hnode) hne
  behind _ w hnext := hbehind w hnext

section
variable {chart : Chart} {body : List Stmt} {last : Nat} (h : chart.Charts body last)
include h

/-- The cells of the nodes are the planned ones. -/
theorem Charts.hasCell_iff {v : Nat} {cell : Cell} :
    (chart.placed (Stmt.programCells body)).HasCell v cell ↔
      Stmt.programCells body v = some cell := by
  constructor
  · rintro ⟨node, hnode, hrow, hcolumn⟩
    cases hcell : Stmt.programCells body v with
    | none =>
        rw [getElem?_placed_of_none hcell] at hnode
        rw [(h.blank v node hnode).1] at hrow
        cases hrow
    | some other =>
        -- A node has one cell, so that it is the planned one.
        have hother : (chart.placed (Stmt.programCells body)).HasCell v other := by
          have hplaced := hnode
          rw [getElem?_placed_of_some hcell] at hplaced
          obtain ⟨old, -, rfl⟩ := Option.map_eq_some_iff.mp hplaced
          exact ⟨_, hnode, rfl, rfl⟩
        exact congrArg some (hother.cell_eq ⟨node, hnode, hrow, hcolumn⟩)
  · exact h.hasCell

/-- One step of a way from the start, along the links of a chart without cells. -/
theorem Charts.reachedPast_step {u v : Nat}
    (hu : chart.ReachedPast (chart.placed (Stmt.programCells body)) u)
    (hleads : chart.Leads u (.node v)) :
    chart.ReachedPast (chart.placed (Stmt.programCells body)) v := by
  obtain ⟨node, hnode, hmem⟩ := hleads
  by_cases hhead : node.box = .head
  · -- Behind a head stands what its condition leads to after the layout.
    obtain ⟨w, hnext, -, box, hholds, hne⟩ := h.next_of_head ⟨node, hnode, hhead⟩
    have hw := hu.behind ⟨node, hnode, hhead⟩ hnext
    cases hnext.eq_of_leads ⟨node, hnode, hmem⟩
    exact .ofBox hholds hne hw
  · have hreached := hu.self hnode hhead
    have hlast : u ≠ last := by
      rintro rfl
      obtain ⟨leaf, hleaf, hexit⟩ := h.leaf
      cases hnode.symm.trans hleaf
      rw [hexit] at hmem
      cases List.mem_singleton.mp hmem
    cases h.onward (lt_size hnode) hlast with
    | next hnext _ hholds hne =>
        cases hnext.eq_of_leads ⟨node, hnode, hmem⟩
        exact .ofBox hholds hne (hreached.tail (hnext.placed (Stmt.programCells body)).leads)
    | @fork no yes hforks _ _ hnoBox hyesBox =>
        obtain ⟨node', hnode', hexit⟩ := hforks
        cases hnode.symm.trans hnode'
        rw [hexit] at hmem
        have hside : chart.Holds v .head := by
          rcases List.mem_pair.mp hmem with heq | heq
          · cases heq
            exact hnoBox
          · cases heq
            exact hyesBox
        -- The condition has got a cell, and leads to what is behind its sides.
        obtain ⟨cell, hcell⟩ := h.exists_cell ⟨node, hnode, rfl⟩ hhead
        refine .ofHead hside fun w hnext => hreached.tail ⟨chart.placedNode node cell, ?_, ?_⟩
        · rw [getElem?_placed_of_some hcell, hnode, Option.map_some]
        · show Link.node w ∈ (chart.pastHeads node.exit).links
          rw [hexit, ← pastHead_of_next hside hnext]
          rcases List.mem_pair.mp hmem with heq | heq
          · cases heq
            exact List.mem_pair.mpr (.inl rfl)
          · cases heq
            exact List.mem_pair.mpr (.inr rfl)

/-- What was reached before the layout is reached after it, past the heads. -/
theorem Charts.reachedPast {v : Nat} (hv : chart.Reaches 0 v) :
    chart.ReachedPast (chart.placed (Stmt.programCells body)) v := by
  induction hv with
  | refl => exact .ofBox h.start (by decide) .refl
  | tail _ hleads ih => exact h.reachedPast_step ih hleads

/-- A node with a planned cell is reached. -/
theorem Charts.reaches_of_cell (hconnected : ∀ {v : Nat}, v < chart.size → chart.Reaches 0 v)
    {v : Nat} {cell : Cell} (hcell : Stmt.programCells body v = some cell) :
    (chart.placed (Stmt.programCells body)).Reaches 0 v := by
  obtain ⟨placed, hplaced, -⟩ := h.hasCell_iff.mpr hcell
  rw [getElem?_placed_of_some hcell] at hplaced
  obtain ⟨node, hnode, -⟩ := Option.map_eq_some_iff.mp hplaced
  obtain ⟨entry, -, -, hentry, hhead⟩ := h.planned hnode
  -- Every node was reached before the layout, and this one is no head.
  refine (h.reachedPast (hconnected (lt_size hnode))).self hnode fun hbox => ?_
  rw [hentry, hhead.mpr hbox] at hcell
  cases hcell

/-- The last node stands at the end of the first track. -/
theorem Charts.programCells_last :
    ∃ row, Stmt.rowAfterAll body 1 = row + 1 ∧ Stmt.programCells body last = some ⟨row, 0⟩ := by
  have hends := Stmt.endsIn_all (fun s _ _ _ _ _ hlt hshows => Stmt.endsIn s hlt hshows)
    Nat.zero_lt_one h.shows 1 0
  rw [Stmt.programCells, Stmt.programPlan, Planned.cells, Cells.or_apply]
  -- A program without nodes of its own ends at the start.
  rcases hends with ⟨rfl, hrow⟩ | ⟨hle, row, hrow, hcell⟩
  · exact ⟨0, hrow, by rw [Planned.cellAt_self]; rfl⟩
  · have hne : last ≠ 0 := by omega
    exact ⟨row, hrow, by rw [Planned.cellAt_of_ne hne, Option.none_or]; exact hcell⟩

end

section
variable {body : List Stmt} {draft : Draft}
  (hdrawn : ((Stmt.program body).draw .console).run Draft.empty = .ok () draft) {depth : Nat}
  {laid : Chart} (hlaid : (layOut depth (.node 0) 0 0).run draft.chart = .ok () laid)
include hdrawn hlaid

/-- The cells of the nodes that are reached after the layout of a program. -/
theorem reaches_and_hasCell_iff {v : Nat} {cell : Cell} :
    laid.Reaches 0 v ∧ laid.HasCell v cell ↔ Stmt.programCells body v = some cell := by
  have hcharts := charts_draw hdrawn
  have hbuilt := (Stmt.completes_draw Draft.sound_empty hdrawn).sound.built
  rw [hcharts.laidOut.eq_of_run hlaid, hcharts.hasCell_iff]
  exact ⟨And.right, fun hcell => ⟨hcharts.reaches_of_cell hbuilt.connected hcell, hcell⟩⟩

/-- The cells that are taken after the layout of a program are those of its tracks. -/
theorem exists_reached_iff (cell : Cell) :
    (∃ v, laid.Reaches 0 v ∧ laid.HasCell v cell) ↔
      ∃ track ∈ Stmt.tracks body, cell ∈ track.cells := by
  rw [← exists_programCells_iff]
  exact exists_congr fun v => reaches_and_hasCell_iff hdrawn hlaid

/-- No two nodes are in one cell exactly if no two tracks overlap. -/
theorem apart_iff :
    laid.Apart ↔ (Stmt.tracks body).Pairwise fun track other => ¬ track.Overlaps other := by
  rw [← Track.nodup_flatMap_cells, ← Multiset.coe_nodup, ← Stmt.trackCells,
    ← Stmt.cells_programPlan, Stmt.plannedCells, Multiset.coe_nodup, nodup_filterMap_iff]
  -- Nodes with a planned cell are those that are reached and have it.
  simp only [← programCells_eq, ← reaches_and_hasCell_iff hdrawn hlaid]
  exact ⟨fun h v w cell hv hw => h v w cell hv.1 hw.1 hv.2 hw.2,
    fun h v w cell hv hw hvCell hwCell => h v w cell ⟨hv, hvCell⟩ ⟨hw, hwCell⟩⟩

/-- The last node of a program stands at the end of the first track. -/
theorem hasCell_current :
    ∃ row, Stmt.rowAfterAll body 1 = row + 1 ∧ laid.HasCell draft.current ⟨row, 0⟩ := by
  obtain ⟨row, hrow, hcell⟩ := (charts_draw hdrawn).programCells_last
  exact ⟨row, hrow, ((reaches_and_hasCell_iff hdrawn hlaid).mpr hcell).2⟩

end

end Chart

end Flowchart
