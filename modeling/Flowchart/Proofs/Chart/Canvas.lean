import Flowchart.Chart.Canvas
import Flowchart.Proofs.Chart.Cells
import Flowchart.Proofs.Grid

/-!
# `Flowchart.Proofs.Chart.Canvas`: what a chart with cells looks like on a grid

Every cell of a chart is a block of bytes on the grid, and no byte is in two of them.  What is drawn
is therefore described block by block:

* `withBlock` is the grid after a node was drawn, `showsBlock_withBlock` says what it shows and
  `byte?_withBlock_of_not_covers` that nothing else has changed.
* `run_paintNode_of_room` and `run_paintNode_of_no_room`: a node is drawn if there is room for it.
* `Pictures` is the invariant of a drawing.  It speaks of the nodes that were drawn at least once,
  so that to draw a node again changes nothing about it.
* `Arranged.paintEnds` says how the drawing of a chart ends, by induction on the depth.
  `Arranged.paintEnds_succ` is one step of it.
-/

set_option autoImplicit false

namespace Flowchart

open Chart (blockWidth blockHeight)

/-! ### Blocks -/

/-- A byte of the grid is in the block of the cell. -/
def Cell.Covers (cell : Cell) (row column : Nat) : Prop :=
  blockHeight * cell.row ≤ row ∧ row < blockHeight * cell.row + blockHeight ∧
    blockWidth * cell.column ≤ column ∧ column < blockWidth * (cell.column + 1)

/-- A byte is in the block of one cell only. -/
theorem Cell.Covers.eq {cell cell' : Cell} {r c : Nat} (h : cell.Covers r c)
    (h' : cell'.Covers r c) : cell = cell' := by
  obtain ⟨row, column⟩ := cell
  obtain ⟨row', column'⟩ := cell'
  simp only [Covers, blockHeight, blockWidth] at h h'
  have hrow : row = row' := by omega
  have hcolumn : column = column' := by omega
  rw [hrow, hcolumn]

/-- There is room on a grid of the given size for the block of the cell and in the block for the
caption. -/
def Cell.HasRoom (cell : Cell) (caption : String) (height width : Nat) : Prop :=
  blockHeight * cell.row + blockHeight ≤ height ∧ blockWidth * (cell.column + 1) ≤ width ∧
    caption.length ≤ blockWidth

instance (cell : Cell) (caption : String) (height width : Nat) :
    Decidable (cell.HasRoom caption height width) :=
  inferInstanceAs (Decidable (_ ∧ _ ∧ _))

/-- The place of a text is wrong, and not the text itself. -/
def Grid.Fault.isOfPlace : Grid.Fault → Bool
  | noRow _ _ | shape _ _ => true
  | tooLarge _ => false

namespace Grid

/-- The bytes of a text in the middle of a block. -/
def line (text : String) : List UInt8 :=
  bytes (centred blockWidth text.toList)

/-- The grid with a text in the middle of a block. -/
def withLine (grid : Grid) (row column : Nat) (text : String) : Grid :=
  grid.put row (blockWidth * column) (line text)

/-- The grid with the block of a cell. -/
def withBlock (grid : Grid) (cell : Cell) (caption : String) : Grid :=
  ((grid.withLine (blockHeight * cell.row) cell.column caption).withLine
    (blockHeight * cell.row + 1) cell.column "|").withLine
    (blockHeight * cell.row + 2) cell.column "V"

/-- The line of a text that is not too long is as wide as a block. -/
theorem length_line {text : String} (h : text.length ≤ blockWidth) :
    (line text).length = blockWidth := by
  rw [line, length_bytes, length_centred _ _ (by rwa [String.length_toList])]

/-- The bytes of a text in the middle of a block do not begin with a zero if the text does not. -/
theorem line_ne_zero {text : String}
    (h : ∀ c, text.toList.head? = some c → 0 < c.toNat ∧ c.toNat < 256) :
    ∃ b, (line text)[0]? = some b ∧ b ≠ 0 := by
  have hbyte : ∀ {cells : List Char} {c : Char}, cells.head? = some c →
      0 < c.toNat ∧ c.toNat < 256 → ∃ b, (bytes cells)[0]? = some b ∧ b ≠ 0 := by
    intro cells c hc hrange
    refine ⟨UInt8.ofNat c.toNat, ?_, fun hzero => ?_⟩
    · rw [bytes, List.getElem?_map, ← List.head?_eq_getElem?, hc]
      rfl
    · have hmod := congrArg UInt8.toNat hzero
      rw [UInt8.toNat_ofNat_of_lt' hrange.2] at hmod
      exact Nat.ne_of_gt hrange.1 hmod
  rw [line, centred, List.append_assoc]
  cases hblanks : (blockWidth - text.toList.length) / 2 with
  | succ n => exact hbyte (c := ' ') rfl (by decide)
  | zero =>
      -- Without a blank in front, the text has at least one character.
      have hwidth : blockWidth = 60 := rfl
      cases htext : text.toList with
      | nil => simp [htext, hwidth] at hblanks
      | cons c rest => exact hbyte rfl (h c (by rw [htext]; rfl))

/-- A text stands in the middle of a block. -/
def ReadsAt (grid : Grid) (row column : Nat) (text : String) : Prop :=
  ∀ k, k < blockWidth → grid.byte? row (blockWidth * column + k) = (line text)[k]?

/-- The block of a cell is drawn, with a caption for which there is room. -/
structure ShowsBlock (grid : Grid) (cell : Cell) (caption : String) : Prop where
  room : caption.length ≤ blockWidth
  caption : grid.ReadsAt (blockHeight * cell.row) cell.column caption
  bar : grid.ReadsAt (blockHeight * cell.row + 1) cell.column "|"
  tip : grid.ReadsAt (blockHeight * cell.row + 2) cell.column "V"

/-- A block stays as it is while none of its bytes changes. -/
theorem ShowsBlock.congr {grid grid' : Grid} {cell : Cell} {caption : String}
    (h : grid.ShowsBlock cell caption)
    (hsame : ∀ r c, cell.Covers r c → grid'.byte? r c = grid.byte? r c) :
    grid'.ShowsBlock cell caption := by
  have hcovers : ∀ i k, i < blockHeight → k < blockWidth →
      cell.Covers (blockHeight * cell.row + i) (blockWidth * cell.column + k) := by
    intro i k hi hk
    refine ⟨by omega, by omega, by omega, ?_⟩
    rw [Nat.mul_succ]
    omega
  exact ⟨h.room, fun k hk => (hsame _ _ (hcovers 0 k (by decide) hk)).trans (h.caption k hk),
    fun k hk => (hsame _ _ (hcovers 1 k (by decide) hk)).trans (h.bar k hk),
    fun k hk => (hsame _ _ (hcovers 2 k (by decide) hk)).trans (h.tip k hk)⟩

/-- That all characters of a text are bytes can be tested. -/
theorem lt_of_all {text : String} (h : text.toList.all (·.toNat < 256) = true) :
    ∀ c ∈ text.toList, c.toNat < 256 :=
  fun c hc => of_decide_eq_true (List.all_eq_true.mp h c hc)

/-- The rows of an arrow are short texts of bytes. -/
theorem arrow_rows : ∀ text ∈ ["|", "V"],
    text.length ≤ blockWidth ∧ ∀ c ∈ text.toList, c.toNat < 256 := by
  have hrows : ∀ text ∈ ["|", "V"], text.length ≤ blockWidth ∧
      text.toList.all (·.toNat < 256) = true := by decide
  exact fun text htext => ⟨(hrows text htext).1, lt_of_all (hrows text htext).2⟩

section
variable {grid : Grid} {height width : Nat} (h : grid.Sized height width) {column : Nat}
  {text : String} (hcolumn : blockWidth * (column + 1) ≤ width) (htext : text.length ≤ blockWidth)
include h hcolumn htext

/-- A line in a block keeps the size of the grid. -/
theorem Sized.withLine (row : Nat) : (grid.withLine row column text).Sized height width := by
  refine h.put ?_ row
  rw [length_line htext, ← Nat.mul_succ]
  exact hcolumn

variable {row : Nat} (hrow : row < height)
include hrow

/-- After a line was written, its bytes are those of the text, and all others are as before. -/
theorem byte?_withLine (r c : Nat) : (grid.withLine row column text).byte? r c
    = if r = row ∧ blockWidth * column ≤ c ∧ c < blockWidth * (column + 1) then
        (line text)[c - blockWidth * column]?
      else grid.byte? r c := by
  have hlength := length_line htext
  rw [withLine, h.byte?_put hrow (by rw [hlength, ← Nat.mul_succ]; exact hcolumn), hlength,
    ← Nat.mul_succ]

/-- The line can be read where it was written. -/
theorem readsAt_withLine : (grid.withLine row column text).ReadsAt row column text := by
  intro k hk
  have hstep : blockWidth * (column + 1) = blockWidth * column + blockWidth := Nat.mul_succ ..
  rw [byte?_withLine h hcolumn htext hrow, if_pos ⟨rfl, by omega, by omega⟩,
    Nat.add_sub_cancel_left]

/-- Lines in other rows can still be read. -/
theorem readsAt_withLine_of_ne {other column' : Nat} {text' : String}
    (hreads : grid.ReadsAt other column' text') (hne : other ≠ row) :
    (grid.withLine row column text).ReadsAt other column' text' := by
  intro k hk
  rw [byte?_withLine h hcolumn htext hrow, if_neg fun hin => hne hin.1, hreads k hk]

end

section
variable {grid : Grid} {height width : Nat} (h : grid.Sized height width) {cell : Cell}
  {caption : String} (hroom : cell.HasRoom caption height width)
include h hroom

/-- A block keeps the size of the grid. -/
theorem Sized.withBlock : (grid.withBlock cell caption).Sized height width := by
  obtain ⟨-, hwidth, hlength⟩ := hroom
  have hbar := (arrow_rows "|" (by simp)).1
  have htip := (arrow_rows "V" (by simp)).1
  exact ((h.withLine hwidth hlength _).withLine hwidth hbar _).withLine hwidth htip _

/-- The block of a cell is shown after it was drawn.  Its three lines are in different rows, so that
none of them is written over. -/
theorem showsBlock_withBlock : (grid.withBlock cell caption).ShowsBlock cell caption := by
  obtain ⟨hheight, hwidth, hlength⟩ := hroom
  have hthree : blockHeight = 3 := rfl
  have hbar := (arrow_rows "|" (by simp)).1
  have htip := (arrow_rows "V" (by simp)).1
  -- The grid after the first row of the block, and after the second one.
  have hsized₁ := h.withLine hwidth hlength (blockHeight * cell.row)
  have hsized₂ := hsized₁.withLine hwidth hbar (blockHeight * cell.row + 1)
  have hsecond : blockHeight * cell.row + 1 < height := by omega
  have hthird : blockHeight * cell.row + 2 < height := by omega
  have hcaption := readsAt_withLine h hwidth hlength (show blockHeight * cell.row < height by omega)
  refine ⟨hlength, ?_, ?_, readsAt_withLine hsized₂ hwidth htip hthird⟩
  · refine readsAt_withLine_of_ne hsized₂ hwidth htip hthird ?_ (by omega)
    exact readsAt_withLine_of_ne hsized₁ hwidth hbar hsecond hcaption (by omega)
  · exact readsAt_withLine_of_ne hsized₂ hwidth htip hthird
      (readsAt_withLine hsized₁ hwidth hbar hsecond) (by omega)

/-- A block changes nothing outside. -/
theorem byte?_withBlock_of_not_covers {r c : Nat} (hout : ¬ cell.Covers r c) :
    (grid.withBlock cell caption).byte? r c = grid.byte? r c := by
  obtain ⟨hheight, hwidth, hlength⟩ := hroom
  have hthree : blockHeight = 3 := rfl
  have hbar := (arrow_rows "|" (by simp)).1
  have htip := (arrow_rows "V" (by simp)).1
  have hsized₁ := h.withLine hwidth hlength (blockHeight * cell.row)
  have hsized₂ := hsized₁.withLine hwidth hbar (blockHeight * cell.row + 1)
  -- The byte is in none of the three lines.
  have hrow : ∀ i, i < blockHeight → ¬ (r = blockHeight * cell.row + i ∧
      blockWidth * cell.column ≤ c ∧ c < blockWidth * (cell.column + 1)) := by
    rintro i hi ⟨rfl, hin⟩
    exact hout ⟨by omega, by omega, hin⟩
  rw [withBlock, byte?_withLine hsized₂ hwidth htip (by omega), if_neg (hrow 2 (by decide)),
    byte?_withLine hsized₁ hwidth hbar (by omega), if_neg (hrow 1 (by decide)),
    byte?_withLine h hwidth hlength (by omega)]
  exact if_neg (hrow 0 (by decide))

end

end Grid

namespace Chart

section
variable {grid : Grid} {height width : Nat} (h : grid.Sized height width)
include h

/-- How writing a text in the middle of a block ends. -/
theorem run_paintRow {text : String} (htext : ∀ c ∈ text.toList, c.toNat < 256) (row column : Nat) :
    (paintRow row (some column) text).run grid
      = if row < height then
          if max blockWidth text.length
              = min (blockWidth * (column + 1)) width - min (blockWidth * column) width then
            .ok () (grid.put row (min (blockWidth * column) width) (Grid.line text))
          else .error (.grid (.shape (max blockWidth text.length)
            (min (blockWidth * (column + 1)) width - min (blockWidth * column) width))) grid
        else .error (.grid (.noRow row height)) grid := by
  have hcentred : ∀ c ∈ Grid.centred blockWidth text.toList, c.toNat < 256 := by
    intro c hc
    simp only [Grid.centred, List.mem_append, List.mem_replicate] at hc
    rcases hc with (⟨-, rfl⟩ | hc) | ⟨-, rfl⟩
    · decide
    · exact htext c hc
    · decide
  have hlength : (Grid.centred blockWidth text.toList).length = max blockWidth text.length := by
    simp only [Grid.centred, List.length_append, List.length_replicate, String.length_toList]
    omega
  have hstart : (column : Int) * (blockWidth : Int) = ((blockWidth * column : Nat) : Int) := by
    rw [Nat.mul_comm]
    rfl
  have hstop : ((column : Int) + 1) * (blockWidth : Int)
      = ((blockWidth * (column + 1) : Nat) : Int) := by
    rw [Nat.mul_comm]
    rfl
  have hwrite := Grid.run_write h hcentred row (blockWidth * column) (blockWidth * (column + 1))
  rw [hlength] at hwrite
  rw [paintRow, EStateM.run_bind, EStateM.run_get]
  simp only [hstart, hstop, hwrite, Grid.line]
  by_cases hrow : row < height
  · by_cases hroom : max blockWidth text.length
        = min (blockWidth * (column + 1)) width - min (blockWidth * column) width
    · simp only [if_pos hrow, if_pos hroom]
      rfl
    · simp only [if_pos hrow, if_neg hroom]
      rfl
  · simp only [if_neg hrow]
    rfl

/-- Where there is room for a line it is written. -/
theorem run_paintRow_of_room (row : Nat) {column : Nat} {text : String}
    (htext : ∀ c ∈ text.toList, c.toNat < 256) (hrow : row < height)
    (hcolumn : blockWidth * (column + 1) ≤ width) (hlength : text.length ≤ blockWidth) :
    (paintRow row (some column) text).run grid = .ok () (grid.withLine row column text) := by
  have hstep : blockWidth * (column + 1) = blockWidth * column + blockWidth := Nat.mul_succ ..
  rw [run_paintRow h htext, if_pos hrow, if_pos (by omega), Grid.withLine,
    Nat.min_eq_left (by omega)]

/-- Where there is none the fault is one of its place, and nothing is written. -/
theorem run_paintRow_of_no_room (row column : Nat) {text : String}
    (htext : ∀ c ∈ text.toList, c.toNat < 256)
    (hroom : ¬ (row < height ∧ blockWidth * (column + 1) ≤ width ∧ text.length ≤ blockWidth)) :
    ∃ fault, fault.isOfPlace = true ∧
      (paintRow row (some column) text).run grid = .error (.grid fault) grid := by
  have hstep : blockWidth * (column + 1) = blockWidth * column + blockWidth := Nat.mul_succ ..
  rw [run_paintRow h htext]
  by_cases hrow : row < height
  · have hpos : 0 < blockWidth := by decide
    rw [if_pos hrow, if_neg (by omega)]
    exact ⟨_, rfl, rfl⟩
  · rw [if_neg hrow]
    exact ⟨_, rfl, rfl⟩

end

/-- Whatever was written in the middle of a block is a text of bytes. -/
theorem lt_of_paintRow {row : Int} {column : Option Int} {text : String} {grid grid' : Grid}
    (h : (paintRow row column text).run grid = .ok () grid') :
    ∀ c ∈ text.toList, c.toNat < 256 := by
  rw [paintRow, EStateM.run_bind, EStateM.run_get] at h
  simp only at h
  cases column with
  | none =>
      simp only at h
      split at h <;> cases h
  | some column =>
      simp only at h
      split at h
      · cases h
      · rename_i hwrite
        intro c hc
        exact Grid.lt_of_write hwrite c (List.mem_append_left _ (List.mem_append_right _ hc))

/-! ### The block of a node -/

/-- Whatever node was drawn, its caption is a text of bytes. -/
theorem lt_of_paintNode {node : Node} {grid grid' : Grid} {after : Int}
    (h : (paintNode node).run grid = .ok after grid') :
    ∀ c ∈ node.box.caption.toList, c.toNat < 256 := by
  rw [paintNode] at h
  cases hrow : node.row with
  | none =>
      rw [hrow] at h
      cases h
  | some row =>
      rw [hrow] at h
      simp only [EStateM.run_bind] at h
      split at h
      · rename_i hcaption
        exact lt_of_paintRow hcaption
      · cases h

section
variable {grid : Grid} {height width : Nat} (h : grid.Sized height width) {node : Node}
  {cell : Cell} (hrow : node.row = some ↑cell.row) (hcolumn : node.column = some ↑cell.column)
include hrow hcolumn

/-- The three rows of a block, in numbers that do not fall below zero. -/
theorem run_paintNode (grid : Grid) : (paintNode node).run grid
    = match (paintRow ↑(blockHeight * cell.row) (some ↑cell.column) node.box.caption).run grid with
      | .error fault grid => .error fault grid
      | .ok _ grid =>
        match (paintRow ↑(blockHeight * cell.row + 1) (some ↑cell.column) "|").run grid with
        | .error fault grid => .error fault grid
        | .ok _ grid =>
          match (paintRow ↑(blockHeight * cell.row + 2) (some ↑cell.column) "V").run grid with
          | .error fault grid => .error fault grid
          | .ok _ grid => .ok ↑(blockHeight * (cell.row + 1)) grid := by
  have hfirst : (cell.row : Int) * (blockHeight : Int)
      = ((blockHeight * cell.row : Nat) : Int) := by
    rw [Nat.mul_comm]
    rfl
  have hafter : ((cell.row : Int) + 1) * (blockHeight : Int)
      = ((blockHeight * (cell.row + 1) : Nat) : Int) := by
    rw [Nat.mul_comm]
    rfl
  rw [paintNode, hrow, hcolumn]
  simp only [EStateM.run_bind, hfirst, hafter]
  cases (paintRow ↑(blockHeight * cell.row) (some ↑cell.column) node.box.caption).run grid with
  | error fault grid => rfl
  | ok _ grid =>
      simp only
      rw [show ((blockHeight * cell.row : Nat) : Int) + 1
        = ((blockHeight * cell.row + 1 : Nat) : Int) from rfl]
      cases (paintRow ↑(blockHeight * cell.row + 1) (some ↑cell.column) "|").run grid with
      | error fault grid => rfl
      | ok _ grid =>
          simp only
          rw [show ((blockHeight * cell.row : Nat) : Int) + 2
            = ((blockHeight * cell.row + 2 : Nat) : Int) from rfl]
          cases (paintRow ↑(blockHeight * cell.row + 2) (some ↑cell.column) "V").run grid <;> rfl

variable (htext : ∀ c ∈ node.box.caption.toList, c.toNat < 256)
include h htext

/-- Where there is room for the block of a node it is drawn, and the row below it is returned. -/
theorem run_paintNode_of_room (hroom : cell.HasRoom node.box.caption height width) :
    (paintNode node).run grid
      = .ok ↑(blockHeight * (cell.row + 1)) (grid.withBlock cell node.box.caption) := by
  obtain ⟨hheight, hwidth, hlength⟩ := hroom
  obtain ⟨hbar, hbarText⟩ := Grid.arrow_rows "|" (by simp)
  obtain ⟨htip, htipText⟩ := Grid.arrow_rows "V" (by simp)
  have hthree : blockHeight = 3 := rfl
  have hsized := h.withLine hwidth hlength (blockHeight * cell.row)
  have hsized' := hsized.withLine hwidth hbar (blockHeight * cell.row + 1)
  rw [run_paintNode hrow hcolumn, run_paintRow_of_room h _ htext (by omega) hwidth hlength]
  simp only
  rw [run_paintRow_of_room hsized _ hbarText (by omega) hwidth hbar]
  simp only
  rw [run_paintRow_of_room hsized' _ htipText (by omega) hwidth htip]
  rfl

/-- Where there is none the fault is one of place.  Some rows of the block may have been drawn by
then. -/
theorem run_paintNode_of_no_room (hroom : ¬ cell.HasRoom node.box.caption height width) :
    ∃ fault grid', fault.isOfPlace = true ∧
      (paintNode node).run grid = .error (.grid fault) grid' := by
  obtain ⟨hbar, hbarText⟩ := Grid.arrow_rows "|" (by simp)
  obtain ⟨htip, htipText⟩ := Grid.arrow_rows "V" (by simp)
  have hthree : blockHeight = 3 := rfl
  rw [run_paintNode hrow hcolumn]
  -- The first of the three lines for which there is no room is the one that fails.
  by_cases hfirst : blockHeight * cell.row < height ∧ blockWidth * (cell.column + 1) ≤ width ∧
      node.box.caption.length ≤ blockWidth
  · obtain ⟨hheight, hwidth, hlength⟩ := hfirst
    have hsized := h.withLine hwidth hlength (blockHeight * cell.row)
    have hsized' := hsized.withLine hwidth hbar (blockHeight * cell.row + 1)
    have hlow : height < blockHeight * cell.row + blockHeight :=
      Nat.lt_of_not_le fun hle => hroom ⟨hle, hwidth, hlength⟩
    rw [run_paintRow_of_room h _ htext hheight hwidth hlength]
    simp only
    by_cases hsecond : blockHeight * cell.row + 1 < height
    · rw [run_paintRow_of_room hsized _ hbarText hsecond hwidth hbar]
      obtain ⟨fault, hfault, hrun⟩ := run_paintRow_of_no_room hsized' (blockHeight * cell.row + 2)
        cell.column htipText (by omega)
      simp only
      rw [hrun]
      exact ⟨fault, _, hfault, rfl⟩
    · obtain ⟨fault, hfault, hrun⟩ := run_paintRow_of_no_room hsized (blockHeight * cell.row + 1)
        cell.column hbarText (by omega)
      rw [hrun]
      exact ⟨fault, _, hfault, rfl⟩
  · obtain ⟨fault, hfault, hrun⟩ :=
      run_paintRow_of_no_room h (blockHeight * cell.row) cell.column htext hfirst
    rw [hrun]
    exact ⟨fault, _, hfault, rfl⟩

end

/-! ### The picture of some nodes -/

/-- The blocks of the nodes seen so far are drawn, each with the caption of one of them, and all
other bytes are zero. -/
structure Pictures (chart : Chart) (seen : NodeId → Prop) (height width : Nat)
    (grid : Grid) : Prop where
  sized : grid.Sized height width
  blocks : ∀ {v : NodeId} {cell : Cell}, seen v → chart.HasCell v cell →
    ∃ w node, seen w ∧ chart.HasCell w cell ∧ chart[w]? = some node ∧
      grid.ShowsBlock cell node.box.caption
  zeros : ∀ {r c : Nat}, r < height → c < width →
    (∀ v cell, seen v → chart.HasCell v cell → ¬ cell.Covers r c) → grid.byte? r c = some 0

/-- The empty grid is the picture of no nodes. -/
theorem pictures_zero (chart : Chart) (height width : Nat) :
    chart.Pictures (fun _ => False) height width (Grid.zero height width) where
  sized := Grid.sized_zero height width
  blocks h := h.elim
  zeros hr hc _ := Grid.byte?_zero hr hc

/-- A picture is one of the nodes that were seen, however they are described. -/
theorem Pictures.congr {chart : Chart} {seen seen' : NodeId → Prop}
    {height width : Nat} {grid : Grid} (h : chart.Pictures seen height width grid)
    (hseen : ∀ v, seen v ↔ seen' v) : chart.Pictures seen' height width grid := by
  rwa [← funext fun v => propext (hseen v)]

/-- One more block is drawn. -/
theorem Pictures.withBlock {chart : Chart} {seen : NodeId → Prop} {height width : Nat} {grid : Grid}
    (h : chart.Pictures seen height width grid) {v : NodeId} {node : Node}
    (hnode : chart[v]? = some node) {cell : Cell} (hcell : chart.HasCell v cell)
    (hroom : cell.HasRoom node.box.caption height width) :
    chart.Pictures (fun w => v = w ∨ seen w) height width
      (grid.withBlock cell node.box.caption) where
  sized := h.sized.withBlock hroom
  blocks {u other} hu hother := by
    -- A node that was drawn before in the same cell is no longer seen there, but the new one is.
    by_cases hsame : other = cell
    · subst hsame
      exact ⟨v, node, Or.inl rfl, hcell, hnode, Grid.showsBlock_withBlock h.sized hroom⟩
    · have hseen : seen u := by
        rcases hu with rfl | hu
        · exact absurd (hother.cell_eq hcell) hsame
        · exact hu
      obtain ⟨w, drawn, hw, hwCell, hdrawn, hshows⟩ := h.blocks hseen hother
      refine ⟨w, drawn, Or.inr hw, hwCell, hdrawn, hshows.congr fun r c hcovers => ?_⟩
      exact Grid.byte?_withBlock_of_not_covers h.sized hroom fun hin => hsame (hcovers.eq hin)
  zeros {r c} hr hc hout := by
    rw [Grid.byte?_withBlock_of_not_covers h.sized hroom (hout v cell (Or.inl rfl) hcell)]
    exact h.zeros hr hc fun w other hw hother => hout w other (Or.inr hw) hother

/-! ### The drawing of a chart -/

/-- The block of a node is drawn first and then all that is behind it, the side for `yes` first. -/
theorem run_paint {chart : Chart} {v : NodeId} {node : Node} (hnode : chart[v]? = some node)
    (hown : ∀ owner, node.exit ≠ .next (.fork owner)) (depth : Nat) (grid : Grid) :
    (paint chart (depth + 1) (.node v)).run grid
      = match (paintNode node).run grid with
        | .error fault grid => .error fault grid
        | .ok after grid =>
          match node.exit with
          | .next .nowhere => .ok after grid
          | .next following => (paint chart depth following).run grid
          | .branch no yes =>
            match (paint chart depth yes).run grid with
            | .error fault grid => .error fault grid
            | .ok yesEnd grid =>
              match (paint chart depth no).run grid with
              | .error fault grid => .error fault grid
              | .ok noEnd grid => .ok (max yesEnd noEnd) grid := by
  rw [paint]
  simp only [EStateM.run_bind, require, hnode, EStateM.run_pure, (exit?_of_own hnode hown).2]
  cases (paintNode node).run grid with
  | error fault grid => rfl
  | ok after grid =>
      simp only
      cases node.exit with
      | next target => cases target <;> rfl
      | branch no yes =>
          simp only [EStateM.run_bind]
          cases (paint chart depth yes).run grid with
          | error fault grid => rfl
          | ok yesEnd grid =>
              simp only
              cases (paint chart depth no).run grid <;> rfl

/-- There is room for the block of a node. -/
def HasRoom (chart : Chart) (height width : Nat) (v : NodeId) : Prop :=
  ∀ node cell, chart[v]? = some node → chart.HasCell v cell →
    cell.HasRoom node.box.caption height width

/-- How drawing the node `v` and all behind it may end: every block is drawn and the row after the
node `last` is returned; or there is no room for one of the blocks; or the depth was too small. -/
def PaintEnds (chart : Chart) (last : Nat) (height width : Nat) (seen : NodeId → Prop)
    (v depth : Nat) : EStateM.Result Fault Grid Int → Prop
  | .ok value grid =>
    (∀ w, chart.Reaches v w → chart.HasRoom height width w) ∧ chart.Reaches v last ∧
      (∀ cell, chart.HasCell last cell → value = ↑(blockHeight * (cell.row + 1))) ∧
      chart.Pictures (fun w => chart.Reaches v w ∨ seen w) height width grid
  | .error fault _ =>
    fault = .endless ∧ depth < chart.size - v ∨
      (∃ w, chart.Reaches v w ∧ ¬ chart.HasRoom height width w) ∧
        ∃ reason : Grid.Fault, reason.isOfPlace = true ∧ fault = .grid reason

section
variable {chart : Chart} {last height width : Nat}

/-- What goes wrong behind a link goes wrong at the node as well. -/
theorem PaintEnds.error_of_leads {seen seen' : NodeId → Prop} {v w depth : Nat} {fault : Fault}
    {grid : Grid} (h : chart.PaintEnds last height width seen w depth (.error fault grid))
    (hleads : chart.Leads v (.node w)) (hlt : v < w) :
    chart.PaintEnds last height width seen' v (depth + 1) (.error fault grid) := by
  rcases h with ⟨hfault, hdepth⟩ | ⟨⟨u, hu, hroom⟩, hreason⟩
  · exact Or.inl ⟨hfault, by omega⟩
  · exact Or.inr ⟨⟨u, .head hleads hu, hroom⟩, hreason⟩

/-- A node is reached from itself and through its links only. -/
theorem reaches_iff_of_exit {v w : NodeId} {node : Node} (hnode : chart[v]? = some node) :
    chart.Reaches v w ↔ v = w ∨ ∃ u, Link.node u ∈ node.exit.links ∧ chart.Reaches u w := by
  rw [Reaches, Relation.ReflTransGen.cases_head_iff]
  refine or_congr Iff.rfl (exists_congr fun u => and_congr_left' ?_)
  exact ⟨fun hleads => hleads.mem hnode, fun hmem => ⟨node, hnode, hmem⟩⟩

section
variable {v : Nat} {node : Node} (hnode : chart[v]? = some node)
  (hself : chart.HasRoom height width v) {seen : NodeId → Prop} {depth : Nat}
include hnode hself

/-- Nothing is behind the last node. -/
theorem paintEnds_last {grid : Grid} {cell : Cell} (hcell : chart.HasCell v cell)
    (hexit : node.exit = .next .nowhere)
    (hgrid : chart.Pictures (fun w => v = w ∨ seen w) height width grid) :
    chart.PaintEnds v height width seen v depth (.ok ↑(blockHeight * (cell.row + 1)) grid) := by
  have honly : ∀ w, chart.Reaches v w ↔ v = w := by
    intro w
    simp [reaches_iff_of_exit hnode, hexit, Exit.links]
  refine ⟨fun w hw => (honly w).mp hw ▸ hself, .refl, fun other hother => ?_,
    hgrid.congr fun w => or_congr (honly w).symm Iff.rfl⟩
  rw [hcell.cell_eq hother]

/-- What is behind a node that leads on is drawn after its block. -/
theorem PaintEnds.of_next {w : Nat} {result : EStateM.Result Fault Grid Int}
    (h : chart.PaintEnds last height width (fun u => v = u ∨ seen u) w depth result)
    (hexit : node.exit = .next (.node w)) (hlt : v < w) :
    chart.PaintEnds last height width seen v (depth + 1) result := by
  have hreaches : ∀ u, chart.Reaches v u ↔ v = u ∨ chart.Reaches w u := by
    intro u
    simp [reaches_iff_of_exit hnode, hexit, Exit.links]
  cases result with
  | error fault grid =>
      exact h.error_of_leads ⟨node, hnode, Exit.mem_links_of_next hexit⟩ hlt
  | ok value grid =>
      obtain ⟨hroom, hlast, hvalue, hgrid⟩ := h
      refine ⟨fun u hu => ?_, (hreaches last).mpr (Or.inr hlast), hvalue, hgrid.congr fun u => ?_⟩
      · rcases (hreaches u).mp hu with rfl | hu
        · exact hself
        · exact hroom u hu
      · rw [hreaches, or_left_comm, or_assoc]

/-- What is behind the two sides of a condition is drawn after its block, the side for `yes` first,
and both sides end at one node. -/
theorem paintEnds_branch {no yes : Nat} (hexit : node.exit = .branch (.node no) (.node yes))
    (hno : v < no) (hyes : v < yes) {grid : Grid}
    (hyesEnds : chart.PaintEnds last height width (fun u => v = u ∨ seen u) yes depth
      ((paint chart depth (.node yes)).run grid))
    (hnoEnds : ∀ {grid' : Grid},
      chart.Pictures (fun u => chart.Reaches yes u ∨ v = u ∨ seen u) height width grid' →
      chart.PaintEnds last height width (fun u => chart.Reaches yes u ∨ v = u ∨ seen u) no depth
        ((paint chart depth (.node no)).run grid')) :
    chart.PaintEnds last height width seen v (depth + 1)
      (match (paint chart depth (.node yes)).run grid with
        | .error fault grid => .error fault grid
        | .ok yesEnd grid =>
          match (paint chart depth (.node no)).run grid with
          | .error fault grid => .error fault grid
          | .ok noEnd grid => .ok (max yesEnd noEnd) grid) := by
  have hleads : ∀ w ∈ [no, yes], chart.Leads v (.node w) := by
    intro w hw
    refine ⟨node, hnode, ?_⟩
    simpa [hexit, Exit.links] using hw
  have hreaches : ∀ u, chart.Reaches v u ↔ v = u ∨ chart.Reaches no u ∨ chart.Reaches yes u := by
    intro u
    simp [reaches_iff_of_exit hnode, hexit, Exit.links]
  cases hyesRun : (paint chart depth (.node yes)).run grid with
  | error fault grid₁ =>
      rw [hyesRun] at hyesEnds
      exact hyesEnds.error_of_leads (hleads yes (by simp)) hyes
  | ok yesEnd grid₁ =>
      rw [hyesRun] at hyesEnds
      obtain ⟨hyesRoom, -, hyesValue, hgrid₁⟩ := hyesEnds
      have hnoEnds := hnoEnds hgrid₁
      simp only
      cases hnoRun : (paint chart depth (.node no)).run grid₁ with
      | error fault grid₂ =>
          rw [hnoRun] at hnoEnds
          exact hnoEnds.error_of_leads (hleads no (by simp)) hno
      | ok noEnd grid₂ =>
          rw [hnoRun] at hnoEnds
          obtain ⟨hroom, hlast, hvalue, hgrid₂⟩ := hnoEnds
          refine ⟨fun u hu => ?_, (hreaches last).mpr (Or.inr (Or.inl hlast)), fun cell hcell => ?_,
            hgrid₂.congr fun u => ?_⟩
          · rcases (hreaches u).mp hu with rfl | hu | hu
            · exact hself
            · exact hroom u hu
            · exact hyesRoom u hu
          -- Both sides return the row after the last node, so that the greater one is that row.
          · rw [hyesValue cell hcell, hvalue cell hcell]
            exact Int.max_self _
          · rw [hreaches]
            grind

end

section
variable (h : chart.Arranged last)
include h

/-- No node that is reached shares the branches of another. -/
theorem Arranged.exit_ne_fork {v : Nat} (hv : chart.Reaches 0 v) {node : Node}
    (hnode : chart[v]? = some node) (owner : NodeId) : node.exit ≠ .next (.fork owner) := by
  intro hfork
  rcases h.exits hv hnode with ⟨-, hexit⟩ | ⟨-, hlinks⟩
  · rw [hexit] at hfork
    cases hfork
  · obtain ⟨w, hw, -⟩ := hlinks (.fork owner) (Exit.mem_links_of_next hfork)
    cases hw

/-- A drawing that comes to its end has drawn every node behind, so that their captions are texts of
bytes. -/
theorem Arranged.lt_of_paint {depth : Nat} {v : Nat} (hv : chart.Reaches 0 v) {grid grid' : Grid}
    {value : Int} (hpaint : (paint chart depth (.node v)).run grid = .ok value grid') {w : NodeId}
    (hw : chart.Reaches v w) {shown : Node} (hshown : chart[w]? = some shown) :
    ∀ c ∈ shown.box.caption.toList, c.toNat < 256 := by
  -- The node `w` is `v` itself or behind one of its links, and a drawing that comes to its end has
  -- come to the end behind all of them.
  induction depth generalizing v grid grid' value with
  | zero => cases hpaint
  | succ depth ih =>
      obtain ⟨cell, node, hnode, -⟩ := h.cell hv
      rw [run_paint hnode (h.exit_ne_fork hv hnode)] at hpaint
      split at hpaint
      · cases hpaint
      · rename_i hdrawn
        rcases (reaches_iff_of_exit hnode).mp hw with rfl | ⟨u, hmem, hu⟩
        · cases hnode.symm.trans hshown
          exact lt_of_paintNode hdrawn
        · have hreached := hv.tail ⟨node, hnode, hmem⟩
          cases hexit : node.exit with
          | next target =>
              rw [hexit] at hmem hpaint
              cases List.mem_singleton.mp hmem
              exact ih hreached hpaint hu
          | branch no yes =>
              rw [hexit] at hmem hpaint
              simp only at hpaint
              split at hpaint
              · cases hpaint
              · rename_i hyes
                split at hpaint
                · cases hpaint
                · rename_i hno
                  rcases List.mem_cons.mp hmem with heq | hmem
                  · cases heq
                    exact ih hreached hno hu
                  · cases List.mem_singleton.mp hmem
                    exact ih hreached hyes hu

variable (hbytes : ∀ v node, chart.Reaches 0 v → chart[v]? = some node →
  ∀ c ∈ node.box.caption.toList, c.toNat < 256)
include hbytes

/-- One step of a drawing: what is true of all that is behind a node is true at the node. -/
theorem Arranged.paintEnds_succ {depth : Nat}
    (hbehind : ∀ {seen : NodeId → Prop} {w : Nat}, chart.Reaches 0 w →
      ∀ {grid : Grid}, chart.Pictures seen height width grid →
      chart.PaintEnds last height width seen w depth ((paint chart depth (.node w)).run grid))
    {seen : NodeId → Prop} {v : Nat} (hv : chart.Reaches 0 v) {grid : Grid}
    (hgrid : chart.Pictures seen height width grid) :
    chart.PaintEnds last height width seen v (depth + 1)
      ((paint chart (depth + 1) (.node v)).run grid) := by
  obtain ⟨cell, node, hnode, hrow, hcolumn⟩ := h.cell hv
  have hcell : chart.HasCell v cell := ⟨node, hnode, hrow, hcolumn⟩
  have htext := hbytes v node hv hnode
  rw [run_paint hnode (h.exit_ne_fork hv hnode)]
  by_cases hroom : cell.HasRoom node.box.caption height width
  · have hself : chart.HasRoom height width v := by
      intro node' cell' hnode' hcell'
      cases hnode.symm.trans hnode'
      rwa [← hcell.cell_eq hcell']
    have hgrid' := hgrid.withBlock hnode hcell hroom
    rw [run_paintNode_of_room hgrid.sized hrow hcolumn htext hroom]
    simp only
    rcases h.exits hv hnode with ⟨rfl, hexit⟩ | ⟨-, hlinks⟩
    · rw [hexit]
      exact paintEnds_last hnode hself hcell hexit hgrid'
    · have hreached : ∀ {w : Nat}, .node w ∈ node.exit.links → chart.Reaches 0 w :=
        fun hmem => hv.tail ⟨node, hnode, hmem⟩
      cases hexit : node.exit with
      | next target =>
          rw [hexit] at hlinks hreached
          obtain ⟨w, rfl, hlt⟩ := hlinks target (by simp [Exit.links])
          exact (hbehind (hreached (by simp [Exit.links])) hgrid').of_next hnode hself hexit hlt
      | branch no yes =>
          rw [hexit] at hlinks hreached
          obtain ⟨no, rfl, hno⟩ := hlinks no (by simp [Exit.links])
          obtain ⟨yes, rfl, hyes⟩ := hlinks yes (by simp [Exit.links])
          exact paintEnds_branch hnode hself hexit hno hyes
            (hbehind (hreached (by simp [Exit.links])) hgrid')
            (hbehind (hreached (by simp [Exit.links])))
  · obtain ⟨reason, grid', hreason, hrun⟩ :=
      run_paintNode_of_no_room hgrid.sized hrow hcolumn htext hroom
    rw [hrun]
    exact Or.inr ⟨⟨v, .refl, fun hall => hroom (hall node cell hnode hcell)⟩, reason, hreason, rfl⟩

/-- However deep a drawing goes, it ends in one of these ways. -/
theorem Arranged.paintEnds {seen : NodeId → Prop} {v : Nat} (hv : chart.Reaches 0 v) {grid : Grid}
    (hgrid : chart.Pictures seen height width grid) (depth : Nat) :
    chart.PaintEnds last height width seen v depth ((paint chart depth (.node v)).run grid) := by
  induction depth generalizing v seen grid with
  | zero =>
      -- The links go up, so a node may need as much depth as there are nodes behind it.
      obtain ⟨cell, node, hnode, -⟩ := h.cell hv
      exact Or.inl ⟨rfl, Nat.sub_pos_of_lt (lt_size hnode)⟩
  | succ depth ih => exact h.paintEnds_succ hbytes ih hv hgrid

end

end

end Chart

end Flowchart
