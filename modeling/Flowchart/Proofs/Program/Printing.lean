import Flowchart.Proofs.Draft.Tracks
import Flowchart.Proofs.Program.Drawing
import Mathlib.Data.Nat.Find

/-!
# `Flowchart.Proofs.Program.Printing`: the drawing of a program in print

When all blocks are drawn, the end of the program is written into the row that was returned, and the
rows of the grid are printed without the zeros at their ends.  The row that is returned is the one
after the last node of the first column.  A body of a condition may be longer than all that follows
in the first column, and nothing in the drawing takes notice of it.

`Stmt.StaysAbove` says of a program that this is not so, and `staysAbove_iff` says it of the cells
in use.  Two things depend on it:

* whether the end of the program comes below all that is drawn (`occupies_le_iff`);
* whether every line is printed from the first column on.  A line that is below the end has nothing
  in the first column (`occupies_zero_iff`), and is printed from its first column that is in use on
  (`Finished.indent_eq`).
-/

set_option autoImplicit false

namespace Flowchart

/-- No body of a condition goes below the last node of the first column. -/
def Stmt.StaysAbove (body : List Stmt) : Prop :=
  ∀ track ∈ tracks body, track.start < track.stop → track.stop ≤ rowAfterAll body 1

instance (body : List Stmt) : Decidable (Stmt.StaysAbove body) :=
  inferInstanceAs (Decidable (∀ track ∈ _, _))

/-! ### Lines and blocks -/

/-- A row of the grid is one of the three of the cell. -/
def Cell.HasLine (cell : Cell) (r : Nat) : Prop :=
  Chart.blockHeight * cell.row ≤ r ∧ r < Chart.blockHeight * cell.row + Chart.blockHeight

/-- No caption begins with a zero, or with what is no byte. -/
theorem Box.head_caption (box : Box) {c : Char} (h : box.caption.toList.head? = some c) :
    0 < c.toNat ∧ c.toNat < 256 := by
  cases box <;> simp [caption] at h <;> subst h <;> decide

/-- A place on the grid is in a cell if its line and its column are. -/
theorem Cell.covers_iff {cell : Cell} {r c : Nat} :
    cell.Covers r c ↔ cell.HasLine r ∧ Chart.blockWidth * cell.column ≤ c ∧
      c < Chart.blockWidth * (cell.column + 1) := by
  rw [Cell.Covers, Cell.HasLine, and_assoc]

namespace Grid

/-- A text that stands in the middle of a block does not begin with a zero. -/
theorem ReadsAt.exists_byte {grid : Grid} {row column : Nat} {text : String}
    (h : grid.ReadsAt row column text)
    (hfirst : ∀ c, text.toList.head? = some c → 0 < c.toNat ∧ c.toNat < 256) :
    ∃ b, grid.byte? row (Chart.blockWidth * column) = some b ∧ b ≠ 0 := by
  obtain ⟨b, hb, hne⟩ := line_ne_zero hfirst
  exact ⟨b, (h 0 (by decide)).trans hb, hne⟩

/-- No line of a block begins with a zero. -/
theorem ShowsBlock.exists_byte {grid : Grid} {cell : Cell} {box : Box}
    (h : grid.ShowsBlock cell box.caption) {r : Nat} (hr : cell.HasLine r) :
    ∃ b, grid.byte? r (Chart.blockWidth * cell.column) = some b ∧ b ≠ 0 := by
  have hthree : Chart.blockHeight = 3 := rfl
  obtain rfl | rfl | rfl : r = Chart.blockHeight * cell.row ∨ r = Chart.blockHeight * cell.row + 1 ∨
      r = Chart.blockHeight * cell.row + 2 := by
    obtain ⟨hle, hlt⟩ := hr
    omega
  · exact h.caption.exists_byte fun c hc => box.head_caption hc
  · exact h.bar.exists_byte fun c hc => by cases hc; decide
  · exact h.tip.exists_byte fun c hc => by cases hc; decide

/-- A byte is one of its row. -/
theorem byte?_eq {grid : Grid} {r : Nat} {cells : List UInt8} (h : grid.rows[r]? = some cells)
    (c : Nat) : grid.byte? r c = cells[c]? := by
  rw [byte?, h, Option.bind_some]

/-- What is printed of every row (`Grid.printed`) stands in the columns of the grid. -/
def InPlace (grid : Grid) : Prop :=
  ∀ (r : Nat) (cells : List UInt8), grid.rows[r]? = some cells → trim cells <+: cells

/-- A byte of the grid is within its height and width. -/
theorem Sized.lt_of_byte {grid : Grid} {height width : Nat}
    (h : grid.Sized height width) {r c : Nat} {b : UInt8} (hb : grid.byte? r c = some b) :
    r < height ∧ c < width := by
  obtain ⟨cells, hcells, hc⟩ := Option.bind_eq_some_iff.mp hb
  obtain ⟨hr, -⟩ := Array.getElem?_eq_some_iff.mp hcells
  obtain ⟨hlt, -⟩ := List.getElem?_eq_some_iff.mp hc
  rw [h.row hcells] at hlt
  rw [h.size] at hr
  exact ⟨hr, hlt⟩

end Grid

namespace Chart

/-! ### The lines that are drawn -/

section
variable {chart : Chart} {last height width : Nat} {value : Int} {grid : Grid}
  (h : chart.Filled last height width value grid)
include h

/-- Every line of a block has something in it. -/
theorem Filled.exists_byte {v : NodeId} {cell : Cell} (hv : chart.Reaches 0 v)
    (hcell : chart.HasCell v cell) {r : Nat} (hr : cell.HasLine r) :
    ∃ b, grid.byte? r (blockWidth * cell.column) = some b ∧ b ≠ 0 := by
  obtain ⟨w, node, -, -, -, hshows⟩ := h.blocks v cell hv hcell
  exact hshows.exists_byte hr

/-- Only blocks have something in them. -/
theorem Filled.exists_covers {r c : Nat} {b : UInt8} (hb : grid.byte? r c = some b) (hne : b ≠ 0) :
    ∃ v cell, chart.Reaches 0 v ∧ chart.HasCell v cell ∧ cell.Covers r c := by
  by_contra hnone
  obtain ⟨hr, hc⟩ := h.sized.lt_of_byte hb
  have hzero := h.zeros r c hr hc fun v cell hv hcell hcovers => hnone ⟨v, cell, hv, hcell, hcovers⟩
  rw [hb] at hzero
  exact hne (Option.some.inj hzero)

/-- The lines with something in them are those of the blocks. -/
theorem Filled.line_iff (r : Nat) : (∃ c b, grid.byte? r c = some b ∧ b ≠ 0) ↔
    ∃ v cell, chart.Reaches 0 v ∧ chart.HasCell v cell ∧ cell.HasLine r := by
  constructor
  · rintro ⟨c, b, hb, hne⟩
    obtain ⟨v, cell, hv, hcell, hcovers⟩ := h.exists_covers hb hne
    exact ⟨v, cell, hv, hcell, (Cell.covers_iff.mp hcovers).1⟩
  · rintro ⟨v, cell, hv, hcell, hr⟩
    obtain ⟨b, hb⟩ := h.exists_byte hv hcell hr
    exact ⟨_, b, hb⟩

end

section
variable {body : List Stmt} {draft : Draft}
  (hdrawn : ((Stmt.program body).draw .console).run Draft.empty = .ok () draft) {laidDepth : Nat}
  {laid : Chart} (hlaid : (layOut laidDepth (.node 0) 0 0).run draft.chart = .ok () laid)
include hdrawn hlaid

/-- Some node has the cell of every row of the first column down to the last node. -/
theorem exists_reached_of_lt {row : Nat} (hrow : row < Stmt.rowAfterAll body 1) :
    ∃ v, laid.Reaches 0 v ∧ laid.HasCell v ⟨row, 0⟩ := by
  refine (exists_reached_iff hdrawn hlaid ⟨row, 0⟩).mpr ⟨_, List.mem_cons_self, ?_⟩
  exact Track.mem_cells.mpr ⟨rfl, Nat.zero_le row, hrow⟩

/-- The rows in use end with the last node exactly if no body goes below it. -/
theorem staysAbove_iff : Stmt.StaysAbove body ↔
    ∀ v cell, laid.Reaches 0 v → laid.HasCell v cell → cell.row < Stmt.rowAfterAll body 1 := by
  have htaken := exists_reached_iff hdrawn hlaid
  constructor
  · intro habove v cell hv hcell
    obtain ⟨track, htrack, hmem⟩ := (htaken cell).mp ⟨v, hv, hcell⟩
    obtain ⟨-, hstart, hstop⟩ := Track.mem_cells.mp hmem
    exact Nat.lt_of_lt_of_le hstop (habove track htrack (Nat.lt_of_le_of_lt hstart hstop))
  · intro hrows track htrack hlt
    -- The last cell of the track is taken.
    have hmem : Cell.mk (track.stop - 1) track.column ∈ track.cells :=
      Track.mem_cells.mpr ⟨rfl, show track.start ≤ track.stop - 1 by omega,
        show track.stop - 1 < track.stop by omega⟩
    obtain ⟨v, hv, hcell⟩ := (htaken _).mpr ⟨track, htrack, hmem⟩
    have hrow : track.stop - 1 < Stmt.rowAfterAll body 1 := hrows v _ hv hcell
    omega

variable {height width depth : Nat} {value : Int} {grid : Grid}
  (hpaint : (paint laid depth (.node 0)).run (Grid.zero height width) = .ok value grid)
include hpaint

/-- A drawing of a program that has come to its end had room for all blocks, and has filled the
grid. -/
theorem filled_of_paint :
    laid.HasRoomFor height width ∧ laid.Filled draft.current height width value grid :=
  have harranged := arranged_of_layOut hdrawn hlaid
  harranged.of_paint (harranged.captionsOfBytes_of_paint hpaint) hpaint

/-- The row that is returned is the one after the last node of the first column. -/
theorem value_eq : value = ↑(blockHeight * Stmt.rowAfterAll body 1) := by
  obtain ⟨-, hfilled⟩ := filled_of_paint hdrawn hlaid hpaint
  obtain ⟨cell, -, hcell, rfl⟩ := hfilled.isAfter
  obtain ⟨row, hrow, hlast⟩ := hasCell_current hdrawn hlaid
  rw [hrow, hcell.cell_eq hlast]

end

/-! ### The lines that are printed -/

/-- Something stands on a line of the finished grid in a column of blocks: a node, or the end of the
program in the first one. -/
def Occupies (chart : Chart) (value : Int) (r column : Nat) : Prop :=
  (r : Int) = value ∧ column = 0 ∨
    ∃ v cell, chart.Reaches 0 v ∧ chart.HasCell v cell ∧ cell.HasLine r ∧ cell.column = column

/-- A grid with all blocks and the end of the program: where something stands, it does not begin
with a zero, and everywhere else are zeros. -/
structure Finished (chart : Chart) (value : Int) (height width : Nat) (grid : Grid) : Prop where
  sized : grid.Sized height width
  occupied : ∀ {r column : Nat}, chart.Occupies value r column →
    ∃ b, grid.byte? r (blockWidth * column) = some b ∧ b ≠ 0
  free : ∀ {r c : Nat} {b : UInt8}, grid.byte? r c = some b → b ≠ 0 →
    ∃ column, chart.Occupies value r column ∧ blockWidth * column ≤ c

/-- The end of the program is written into the first column of a row and changes nothing else. -/
theorem Filled.finished {chart : Chart} {last height width : Nat} {value : Int} {grid grid' : Grid}
    (h : chart.Filled last height width value grid)
    (hstop : (paintRow value (some 0) Box.stop.caption).run grid = .ok () grid') :
    chart.Finished value height width grid' := by
  obtain ⟨cell, -, -, rfl⟩ := h.isAfter
  have htext : ∀ c ∈ Box.stop.caption.toList, c.toNat < 256 := Grid.lt_of_all rfl
  obtain ⟨hrow, hcolumn, hlength⟩ : blockHeight * (cell.row + 1) < height ∧
      blockWidth * (0 + 1) ≤ width ∧ Box.stop.caption.length ≤ blockWidth := by
    by_contra hroom
    obtain ⟨fault, -, hfault⟩ := run_paintRow_of_no_room h.sized _ 0 htext hroom
    cases hfault.symm.trans hstop
  cases (run_paintRow_of_room h.sized _ htext hrow hcolumn hlength).symm.trans hstop
  have hbyte := Grid.byte?_withLine h.sized hcolumn hlength hrow
  have hend := (Grid.readsAt_withLine h.sized hcolumn hlength hrow).exists_byte
    fun _ hc => Box.stop.head_caption hc
  refine ⟨h.sized.withLine hcolumn hlength _, fun {r column} hoccupied => ?_,
    fun {r c b} hb hne => ?_⟩
  · rcases hoccupied with ⟨hr, rfl⟩ | ⟨v, other, hv, hother, hline, rfl⟩
    · cases Int.ofNat.inj hr
      exact hend
    · -- A node may have the very place of the end, which is then written over it.
      by_cases hsame : r = blockHeight * (cell.row + 1) ∧ other.column = 0
      · rw [hsame.1, hsame.2]
        exact hend
      · rw [hbyte, if_neg]
        · exact h.exists_byte hv hother hline
        · rintro ⟨hr, -, hlt⟩
          exact hsame ⟨hr, Nat.lt_one_iff.mp (Nat.lt_of_mul_lt_mul_left hlt)⟩
  · rw [hbyte] at hb
    split at hb
    · rename_i hin
      exact ⟨0, Or.inl ⟨congrArg Int.ofNat hin.1, rfl⟩, Nat.zero_le c⟩
    · obtain ⟨v, other, hv, hother, hcovers⟩ := h.exists_covers hb hne
      obtain ⟨hline, hle, -⟩ := Cell.covers_iff.mp hcovers
      exact ⟨other.column, Or.inr ⟨v, other, hv, hother, hline, rfl⟩, hle⟩

section
variable {chart : Chart} {value : Int} {height width : Nat} {grid : Grid}
  (h : chart.Finished value height width grid) {r : Nat} {cells : List UInt8}
  (hcells : grid.rows[r]? = some cells)
include h hcells

/-- A line is printed exactly if something stands on it. -/
theorem Finished.trim_ne_nil_iff :
    Grid.trim cells ≠ [] ↔ ∃ column, chart.Occupies value r column := by
  rw [ne_eq, Grid.trim_eq_nil_iff]
  constructor
  · intro hsome
    simp only [not_forall] at hsome
    obtain ⟨b, hb, hne⟩ := hsome
    obtain ⟨c, hc⟩ := List.mem_iff_getElem?.mp hb
    obtain ⟨column, hoccupied, -⟩ := h.free ((Grid.byte?_eq hcells c).trans hc) hne
    exact ⟨column, hoccupied⟩
  · rintro ⟨column, hoccupied⟩ hzeros
    obtain ⟨b, hb, hne⟩ := h.occupied hoccupied
    rw [Grid.byte?_eq hcells] at hb
    exact hne (hzeros b (List.mem_of_getElem? hb))

/-- A line is printed from the first column on where something stands on it. -/
theorem Finished.indent_eq {column : Nat} (hoccupied : chart.Occupies value r column)
    (hfirst : ∀ other, chart.Occupies value r other → column ≤ other) :
    Grid.indent cells = blockWidth * column := by
  obtain ⟨b, hb, hne⟩ := h.occupied hoccupied
  rw [Grid.byte?_eq hcells] at hb
  refine Grid.indent_eq (fun k hk => ?_) hb hne
  obtain ⟨hlt, -⟩ := List.getElem?_eq_some_iff.mp hb
  have hk' := List.getElem?_eq_getElem (Nat.lt_trans hk hlt)
  rw [hk']
  by_contra hzero
  -- Something would stand further to the left.
  obtain ⟨other, hother, hle⟩ :=
    h.free ((Grid.byte?_eq hcells k).trans hk') fun hb => hzero (by rw [hb])
  have hcolumn := hfirst other hother
  have hmul := Nat.mul_le_mul_left blockWidth hcolumn
  omega

/-- On a line that is printed there is a first column where something stands. -/
theorem Finished.exists_first (hprinted : Grid.trim cells ≠ []) :
    ∃ column, chart.Occupies value r column ∧
      (∀ other, chart.Occupies value r other → column ≤ other) := by
  classical
  have hsome := (h.trim_ne_nil_iff hcells).mp hprinted
  exact ⟨Nat.find hsome, Nat.find_spec hsome, fun _ hother => Nat.find_min' hsome hother⟩

/-- A line that is printed is in its place exactly if something stands in its first column. -/
theorem Finished.inPlace_iff (hprinted : Grid.trim cells ≠ []) :
    Grid.trim cells <+: cells ↔ chart.Occupies value r 0 := by
  rw [← Grid.indent_eq_zero_iff hprinted]
  obtain ⟨column, hoccupied, hfirst⟩ := h.exists_first hcells hprinted
  rw [h.indent_eq hcells hoccupied hfirst]
  constructor
  · intro hzero
    obtain hwidth | rfl := Nat.mul_eq_zero.mp hzero
    · cases hwidth
    · exact hoccupied
  · intro hleft
    rw [Nat.le_zero.mp (hfirst 0 hleft), Nat.mul_zero]

omit hcells

/-- All lines are printed in their places exactly if none has something on it but nothing in its
first column. -/
theorem Finished.all_inPlace_iff :
    grid.InPlace ↔ ∀ r column, chart.Occupies value r column → chart.Occupies value r 0 := by
  constructor
  · intro hplace r column hoccupied
    obtain ⟨b, hb, -⟩ := h.occupied hoccupied
    obtain ⟨cells, hcells, -⟩ := Option.bind_eq_some_iff.mp hb
    have hprinted := (h.trim_ne_nil_iff hcells).mpr ⟨column, hoccupied⟩
    exact (h.inPlace_iff hcells hprinted).mp (hplace r cells hcells)
  · intro hfirst r cells hcells
    -- A line without anything on it is printed as nothing.
    by_cases hprinted : Grid.trim cells = []
    · rw [hprinted]
      exact List.nil_prefix
    · obtain ⟨column, hoccupied⟩ := (h.trim_ne_nil_iff hcells).mp hprinted
      exact (h.inPlace_iff hcells hprinted).mpr (hfirst r column hoccupied)

end

section
variable {body : List Stmt} {draft : Draft}
  (hdrawn : ((Stmt.program body).draw .console).run Draft.empty = .ok () draft) {laidDepth : Nat}
  {laid : Chart} (hlaid : (layOut laidDepth (.node 0) 0 0).run draft.chart = .ok () laid)
  {height width depth : Nat} {value : Int} {grid : Grid}
  (hpaint : (paint laid depth (.node 0)).run (Grid.zero height width) = .ok value grid)
include hdrawn hlaid hpaint

/-- Something stands in the first column on the line of the end and on all above it, and on no
other. -/
theorem occupies_zero_iff {r : Nat} : laid.Occupies value r 0 ↔ (r : Int) ≤ value := by
  have hvalue : value = ↑(3 * Stmt.rowAfterAll body 1) := value_eq hdrawn hlaid hpaint
  constructor
  · rintro (⟨hr, -⟩ | ⟨v, cell, hv, hcell, ⟨-, hline⟩, hcolumn⟩)
    · omega
    · obtain ⟨track, htrack, hmem⟩ := (exists_reached_iff hdrawn hlaid cell).mp ⟨v, hv, hcell⟩
      obtain ⟨hsame, -, hstop⟩ := Track.mem_cells.mp hmem
      -- In the first column there is the track of the whole program only.
      rw [Stmt.eq_of_column_eq_zero htrack (hsame.symm.trans hcolumn)] at hstop
      have hrow : cell.row < Stmt.rowAfterAll body 1 := hstop
      rw [show blockHeight = 3 from rfl] at hline
      omega
  · intro hr
    by_cases hlast : (r : Int) = value
    · exact Or.inl ⟨hlast, rfl⟩
    · have hrow : r / 3 < Stmt.rowAfterAll body 1 := by omega
      -- Every line above belongs to the block of some node of that track.
      obtain ⟨v, hv, hcell⟩ := exists_reached_of_lt hdrawn hlaid hrow
      exact Or.inr ⟨v, _, hv, hcell,
        ⟨show 3 * (r / 3) ≤ r by omega, show r < 3 * (r / 3) + 3 by omega⟩, rfl⟩

/-- Nothing stands below the end of the program exactly if no body goes below the last node. -/
theorem occupies_le_iff :
    (∀ r column, laid.Occupies value r column → (r : Int) ≤ value) ↔ Stmt.StaysAbove body := by
  have hvalue : value = ↑(3 * Stmt.rowAfterAll body 1) := value_eq hdrawn hlaid hpaint
  rw [staysAbove_iff hdrawn hlaid]
  constructor
  · intro habove v cell hv hcell
    -- The first line of a block may be that of the end, but not the second one.
    have hline : cell.HasLine (3 * cell.row + 1) :=
      ⟨Nat.le_succ _, show 3 * cell.row + 1 < 3 * cell.row + 3 by omega⟩
    have hle := habove _ _ (Or.inr ⟨v, cell, hv, hcell, hline, rfl⟩)
    omega
  · rintro hrows r column (⟨hr, -⟩ | ⟨v, cell, hv, hcell, ⟨-, hline⟩, -⟩)
    · exact Int.le_of_eq hr
    · have hrow := hrows v cell hv hcell
      rw [show blockHeight = 3 from rfl] at hline
      omega

end

end Chart

end Flowchart
