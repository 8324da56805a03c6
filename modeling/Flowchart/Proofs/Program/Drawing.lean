import Flowchart.Command.Console
import Flowchart.Proofs.Chart.Canvas
import Flowchart.Proofs.Draft.Trees

/-!
# `Flowchart.Proofs.Program.Drawing`: the drawing of a program on a console

A program that was drawn and laid out is drawn on a grid block by block.  A path of the chart is
followed as often as there are ways to come to it, so that blocks are drawn again and again, and
where several nodes have one cell, over one another.  `paint_fills_blocks` says what is on the grid
in the end, and `paint_returns_iff_room` when it comes to that.
-/

set_option autoImplicit false

namespace Flowchart.Chart

/-- The captions of all nodes behind the start are texts of bytes. -/
def CaptionsOfBytes (chart : Chart) : Prop :=
  ∀ v node, chart.Reaches 0 v → chart[v]? = some node → ∀ c ∈ node.box.caption.toList, c.toNat ≤ 255

/-- The captions are texts of bytes if those of all nodes are, reached or not. -/
theorem captionsOfBytes_of_all {chart : Chart}
    (h : ∀ node ∈ chart.toList, node.box.caption.toList.all (·.toNat < 256) = true) :
    chart.CaptionsOfBytes := by
  intro v node _ hnode c hc
  have hall := h node (Array.mem_toList_iff.mpr (Array.mem_of_getElem? hnode))
  exact Nat.le_of_lt_succ (Grid.lt_of_all hall c hc)

/-! ### Arranged charts -/

/-- There is room for the blocks of all nodes behind the start. -/
def HasRoomFor (chart : Chart) (height width : Nat) : Prop :=
  ∀ v, chart.Reaches 0 v → chart.HasRoom height width v

/-- There is room if there is room for the block of every node with a cell, reached or not. -/
theorem hasRoomFor_of_all {chart : Chart} {height width : Nat}
    (h : ∀ node ∈ chart.toList, ∀ row ∈ node.row, ∀ column ∈ node.column,
      (Cell.mk row.toNat column.toNat).HasRoom node.box.caption height width) :
    chart.HasRoomFor height width := by
  intro v _ node cell hnode hcell
  obtain ⟨node', hnode', hrow, hcolumn⟩ := hcell
  obtain rfl := Option.some.inj (hnode.symm.trans hnode')
  exact h node (Array.mem_toList_iff.mpr (Array.mem_of_getElem? hnode)) _ hrow _ hcolumn

/-- The drawing on a grid of zeros comes to its end. -/
def DrawsOn (chart : Chart) (height width : Nat) : Prop :=
  ∃ need, ∀ depth, need ≤ depth → ∃ value grid,
    (paint chart depth (.node 0)).run (Grid.zero height width) = .ok value grid

/-- The drawing on a grid of zeros comes to a row that is not there or to columns without room. -/
def FailsOn (chart : Chart) (height width : Nat) : Prop :=
  ∃ need, ∀ depth, need ≤ depth → ∃ reason grid, reason.isOfPlace = true ∧
    (paint chart depth (.node 0)).run (Grid.zero height width) = .error (.grid reason) grid

/-- A finished drawing of a chart whose node `last` has the only open link. -/
structure Filled (chart : Chart) (last height width : Nat) (value : Int) (grid : Grid) : Prop where
  sized : grid.Sized height width
  /-- Where nodes are placed, there is a block with the caption of one of them and an arrow. -/
  blocks : ∀ v cell, chart.Reaches 0 v → chart.HasCell v cell →
    ∃ w node, chart.Reaches 0 w ∧ chart.HasCell w cell ∧ chart[w]? = some node ∧
      grid.ShowsBlock cell node.box.caption
  /-- Everywhere else there are zeros. -/
  zeros : ∀ r c, r < height → c < width →
    (∀ v cell, chart.Reaches 0 v → chart.HasCell v cell → ¬ cell.Covers r c) →
      grid.byte? r c = some 0
  isOpen : ∀ v, chart.Reaches 0 v → (chart.Leads v .nowhere ↔ v = last)
  /-- The number returned is that of the row after the block of the last node. -/
  isAfter : ∃ cell, chart.Reaches 0 last ∧ chart.HasCell last cell ∧
    value = ↑(blockHeight * (cell.row + 1))

section
variable {chart : Chart} {last : Nat} (h : chart.Arranged last)
include h

/-- A chart has one open link, at its last node. -/
theorem Arranged.leads_nowhere_iff {v : Nat} (hv : chart.Reaches 0 v) :
    chart.Leads v .nowhere ↔ v = last := by
  obtain ⟨cell, node, hnode, -⟩ := h.cell hv
  rcases h.exits hv hnode with ⟨hlast, hexit⟩ | ⟨hne, hlinks⟩
  · exact ⟨fun _ => hlast, fun _ => ⟨node, hnode, Exit.mem_links_of_next hexit⟩⟩
  · refine ⟨fun hleads => ?_, fun hlast => absurd hlast hne⟩
    obtain ⟨w, hw, -⟩ := hlinks .nowhere (hleads.mem hnode)
    cases hw

/-- The captions of a chart that was drawn are texts of bytes. -/
theorem Arranged.captionsOfBytes_of_paint {depth : Nat} {value : Int} {grid grid' : Grid}
    (hpaint : (paint chart depth (.node 0)).run grid = .ok value grid') : chart.CaptionsOfBytes :=
  fun _ _ hv hnode c hc => Nat.le_of_lt_succ (h.lt_of_paint .refl hpaint hv hnode c hc)

variable (hbytes : chart.CaptionsOfBytes)
include hbytes

/-- How the drawing on a grid of zeros may end. -/
theorem Arranged.paintEnds_zero (height width depth : Nat) :
    chart.PaintEnds last height width (fun _ => False) 0 depth
      ((paint chart depth (.node 0)).run (Grid.zero height width)) :=
  h.paintEnds (fun v node hv hnode c hc => Nat.lt_succ_of_le (hbytes v node hv hnode c hc)) .refl
    (pictures_zero chart height width) depth

/-- A drawing that has come to its end had room for all blocks, and has filled the grid. -/
theorem Arranged.of_paint {height width depth : Nat} {value : Int} {grid : Grid}
    (hpaint : (paint chart depth (.node 0)).run (Grid.zero height width) = .ok value grid) :
    chart.HasRoomFor height width ∧ chart.Filled last height width value grid := by
  have hends := h.paintEnds_zero hbytes height width depth
  rw [hpaint] at hends
  obtain ⟨hroom, hlast, hvalue, hgrid⟩ := hends
  have hgrid := hgrid.congr fun _ => Iff.of_eq (or_false _)
  obtain ⟨cell, hcell⟩ := h.cell hlast
  exact ⟨hroom, hgrid.sized, fun v cell hv hcell => hgrid.blocks hv hcell,
    fun r c hr hc hout => hgrid.zeros hr hc hout, fun v hv => h.leads_nowhere_iff hv, cell, hlast,
    hcell, hvalue cell hcell⟩

/-- With room for all blocks the drawing comes to its end. -/
theorem Arranged.drawsOn {height width : Nat} (hroom : chart.HasRoomFor height width) :
    chart.DrawsOn height width := by
  refine ⟨chart.size, fun depth hdepth => ?_⟩
  have hend := h.paintEnds_zero hbytes height width depth
  cases hrun : (paint chart depth (.node 0)).run (Grid.zero height width) with
  | ok value grid => exact ⟨value, grid, rfl⟩
  | error fault grid =>
      rw [hrun] at hend
      rcases hend with ⟨-, hshort⟩ | ⟨⟨w, hw, hno⟩, -⟩
      · omega
      · exact absurd (hroom w hw) hno

/-- Without room for one of the blocks the drawing fails for want of room. -/
theorem Arranged.failsOn {height width : Nat} (hroom : ¬ chart.HasRoomFor height width) :
    chart.FailsOn height width := by
  refine ⟨chart.size, fun depth hdepth => ?_⟩
  have hend := h.paintEnds_zero hbytes height width depth
  cases hrun : (paint chart depth (.node 0)).run (Grid.zero height width) with
  | ok value grid => exact absurd (h.of_paint hbytes hrun).1 hroom
  | error fault grid =>
      rw [hrun] at hend
      rcases hend with ⟨-, hshort⟩ | ⟨-, reason, hreason, rfl⟩
      · omega
      · exact ⟨reason, grid, hreason, rfl⟩

/-- On the grid that is used for programs there is room for the end of the program, if the drawing
has come to that. -/
theorem Arranged.stop_of_paint {depth : Nat} {value : Int} {grid : Grid}
    (hpaint : (paint chart depth (.node 0)).run
      (Grid.zero Command.canvasSize Command.canvasSize) = .ok value grid) :
    ∃ grid', (paintRow value (some 0) Box.stop.caption).run grid = .ok () grid' := by
  obtain ⟨hroom, hfilled⟩ := h.of_paint hbytes hpaint
  obtain ⟨cell, hlast, ⟨node, hnode, hcell⟩, rfl⟩ := hfilled.isAfter
  obtain ⟨hheight, -, -⟩ := hroom last hlast node cell hnode ⟨node, hnode, hcell⟩
  -- A multiple of three that is at most the height is below it.
  have hbelow : blockHeight * (cell.row + 1) < Command.canvasSize := by
    simp only [blockHeight, Command.canvasSize] at hheight ⊢
    omega
  exact ⟨_, run_paintRow_of_room hfilled.sized _ (Grid.lt_of_all rfl) hbelow
    (by decide) (by decide)⟩

end

/-! ### Programs -/

section
variable {body ignores : Tree} {place : Place Tree} {draft : Draft}
  (hdrawn : Command.drawn .console (.node .program [body, ignores] place) = .ok draft)
  {laidDepth : Nat} {laid : Chart}
  (hlaid : (layOut laidDepth (.node 0) 0 0).run draft.chart = .ok () laid)
include hdrawn hlaid

/-- A program that was drawn and laid out is arranged. -/
theorem arranged_of_drawn : laid.Arranged draft.current :=
  arranged_of_layOut (Command.run_of_drawn_console hdrawn) hlaid

variable (hbytes : laid.CaptionsOfBytes)
include hbytes

/-- The drawing of a program on a grid of zeros comes to its end exactly if there is room for the
blocks of all nodes, and fails for want of room otherwise.  Whenever it comes to its end on the grid
that is used for programs, there is room for the end of the program in the row it returns. -/
theorem paint_returns_iff_room :
    (∀ height width, (laid.DrawsOn height width ↔ laid.HasRoomFor height width) ∧
      (¬ laid.HasRoomFor height width → laid.FailsOn height width)) ∧
    ∀ depth value grid, (paint laid depth (.node 0)).run
        (Grid.zero Command.canvasSize Command.canvasSize) = .ok value grid →
      ∃ grid', (paintRow value (some 0) Box.stop.caption).run grid = .ok () grid' := by
  have harranged := arranged_of_drawn hdrawn hlaid
  refine ⟨fun height width => ⟨⟨fun ⟨need, hok⟩ => ?_, harranged.drawsOn hbytes⟩,
    harranged.failsOn hbytes⟩, fun depth value grid hpaint => harranged.stop_of_paint hbytes hpaint⟩
  obtain ⟨value, grid, hpaint⟩ := hok need (Nat.le_refl _)
  exact (harranged.of_paint hbytes hpaint).1

end

/-! ### A condition with a body -/

section
open Tree.Sample (program choice read)

/-- The program has three rows and two columns, and its body is in the second one. -/
theorem condition_hasRoom :
    ∃ draft laid, Command.drawn .console (program [choice "a" [read "x"] []]) = .ok draft ∧
      (layOut 6 (.node 0) 0 0).run draft.chart = .ok () laid ∧ laid.CaptionsOfBytes ∧
      laid.HasRoomFor 9 120 ∧
      ∃ v node, laid.Reaches 0 v ∧ laid[v]? = some node ∧ laid.HasCell v ⟨1, 1⟩ := by
  refine ⟨_, _, rfl, rfl, captionsOfBytes_of_all (by decide),
    hasRoomFor_of_all (by decide), 3, _, ?_, rfl, _, rfl, rfl, rfl⟩
  exact .tail (b := 1) (.single ⟨_, rfl, by decide⟩) ⟨_, rfl, by decide⟩

/-- The column of the body is the one there is no room for on a narrower grid. -/
theorem paint_returns_iff_room_condition :
    ∃ draft laid, Command.drawn .console (program [choice "a" [read "x"] []]) = .ok draft ∧
      (layOut 6 (.node 0) 0 0).run draft.chart = .ok () laid ∧ laid.CaptionsOfBytes ∧
      laid.DrawsOn 9 120 ∧ laid.FailsOn 9 119 := by
  obtain ⟨draft, laid, hdrawn, hlaid, hbytes, hroom, v, node, hv, hnode, hcell⟩ := condition_hasRoom
  have hno : ¬ laid.HasRoomFor 9 119 := by
    intro hroom
    exact absurd (hroom v hv node ⟨1, 1⟩ hnode hcell).2.1 (by decide)
  have hdraws := (paint_returns_iff_room hdrawn hlaid hbytes).1
  exact ⟨draft, laid, hdrawn, hlaid, hbytes, (hdraws 9 120).1.mpr hroom, (hdraws 9 119).2 hno⟩

end

end Flowchart.Chart
