import Flowchart.Proofs.Program.Printing
import Flowchart.Proofs.Program.Syntax
import Flowchart.Proofs.Source.Reading

/-!
# `Flowchart.Proofs.Program.Consoles`: what a console shows of a program

The results on the charts of programs on consoles, said of the syntax trees from which they are
drawn.

* `layOut_follows_plan`: every node stands where the tree says.
* `cells_apart_iff_no_overlap`: no two nodes are in one cell if and only if no two tracks overlap.
  The body of a condition stands in the next column, from the row of the condition on, and nothing
  asks how long it is; so a later condition in the same column may find the place of its own body
  taken.
* `end_below_all_iff` and `printed_in_place_iff`: the end of the program comes below all that is
  drawn, and every line is printed from the first column on, if and only if no body of a condition
  goes below the last node of the first column.
* `console_prints_drawing`: what the whole command prints.
-/

set_option autoImplicit false

namespace Flowchart

namespace Tree.Sample

/-- A condition with a condition in its body, and something below both of them. -/
def nestedBody : List Tree :=
  [choice "a" [choice "b" [read "x"] [], read "y"] [read "z"], read "w"]

/-- A condition with a body of three lines, and nothing below it. -/
def longBody : List Tree :=
  [choice "a" [read "x", read "y", read "z"] []]

end Tree.Sample

namespace Chart

/-! ### Plans by trees -/

section
variable {body ignores : Tree} {place : Place Tree} {draft : Draft}
  (hdrawn : Command.drawn .console (.node .program [body, ignores] place) = .ok draft)
include hdrawn

/-- The chart of a program that was drawn shows its statements. -/
theorem charts_drawn : draft.chart.Charts (Stmt.ofItems body) draft.current :=
  charts_draw (Command.run_of_drawn_console hdrawn)

/-- The cells of a program that was drawn are the same by its tree and by its statements. -/
theorem bodyPlansAlike_of_drawn : Stmt.BodyPlansAlike body :=
  Stmt.bodyPlansAlike (fun t _ _ _ _ _ => Stmt.plansAlike t) (charts_drawn hdrawn).shows

/-- The row in which it goes on after a program is the same by its tree and by its statements. -/
theorem rowAfterAll_ofItems (row : Nat) : Stmt.rowAfterAll (Stmt.ofItems body) row
    = (Tree.node .program [body, ignores] place).rowAfter row := by
  rw [(bodyPlansAlike_of_drawn hdrawn).rowAfter, Tree.rowAfter]

/-- The plan of a program is the same by its tree and by its statements. -/
theorem programPlan_ofItems : Stmt.programPlan (Stmt.ofItems body)
    = (Tree.node .program [body, ignores] place).programPlan := by
  rw [Stmt.programPlan, (bodyPlansAlike_of_drawn hdrawn).planned, Tree.programPlan, Tree.planned]

/-- The tracks of a program are the same by its tree and by its statements. -/
theorem tracks_ofItems :
    Stmt.tracks (Stmt.ofItems body) = (Tree.node .program [body, ignores] place).tracks := by
  rw [Stmt.tracks, rowAfterAll_ofItems hdrawn, (bodyPlansAlike_of_drawn hdrawn).sideTracks,
    Tree.tracks, Tree.sideTracks]

/-- Whether a body goes below the last node of the first column is the same by the tree of a program
and by its statements. -/
theorem staysAbove_ofItems : Stmt.StaysAbove (Stmt.ofItems body)
    ↔ (Tree.node .program [body, ignores] place).StaysAbove := by
  rw [Stmt.StaysAbove, tracks_ofItems hdrawn, rowAfterAll_ofItems hdrawn, Tree.StaysAbove]

end

/-! ### Cells -/

/-- The layout of a program that was drawn comes to its end.  No head is reached any more, every
node is as planned by the tree alone, and its column is the number of bodies of conditions around
it. -/
theorem layOut_follows_plan {body ignores : Tree} {place : Place Tree} {draft : Draft}
    (hdrawn : Command.drawn .console (.node .program [body, ignores] place) = .ok draft) :
    let program : Tree := .node .program [body, ignores] place
    ∃ laid : Chart,
      (∃ need, ∀ depth, need ≤ depth → (layOut depth (.node 0) 0 0).run draft.chart = .ok () laid) ∧
      (∀ v node, laid.Reaches 0 v → laid[v]? = some node → node.box ≠ .head) ∧
      List.Forall₂ Node.Fits laid.toList program.programPlan ∧
      List.Forall₂ Node.InColumn laid.toList (0 :: program.enclosing) := by
  intro program
  have hcharts := charts_drawn hdrawn
  have hcolumns := hcharts.inColumns
  rw [(bodyPlansAlike_of_drawn hdrawn).enclosing] at hcolumns
  -- The layout is known by the statements, and the plan is the same by the tree.
  refine ⟨_, hcharts.laidOut, fun v node hv hnode => hcharts.ne_head hv hnode, ?_, ?_⟩
  · rw [← programPlan_ofItems hdrawn]
    exact hcharts.fits
  · rw [Tree.enclosing]
    exact hcolumns

section
open Tree.Sample (program choice read skip)

/-- A condition inside the body of another one, with something behind both. -/
theorem layOut_follows_plan_nested :
    let program :=
      program [choice "a" [choice "b" [read "x"] [], read "y"] [skip, read "z"], read "w"]
    program.programPlan.map (·.cell) = [some ⟨0, 0⟩, some ⟨1, 0⟩, none, some ⟨1, 1⟩, none,
      some ⟨1, 2⟩, none, some ⟨2, 1⟩, some ⟨3, 1⟩, none, some ⟨2, 0⟩, some ⟨3, 0⟩, some ⟨4, 0⟩] ∧
    ∃ draft, Command.drawn .console program = .ok draft ∧ ∃ laid : Chart,
      (∃ need, ∀ depth, need ≤ depth → (layOut depth (.node 0) 0 0).run draft.chart = .ok () laid) ∧
      (∀ v node, laid.Reaches 0 v → laid[v]? = some node → node.box ≠ .head) ∧
      List.Forall₂ Node.Fits laid.toList program.programPlan ∧
      List.Forall₂ Node.InColumn laid.toList (0 :: program.enclosing) := by
  intro program
  obtain ⟨draft, hdrawn⟩ : ∃ draft, Command.drawn .console program = .ok draft := ⟨_, rfl⟩
  exact ⟨rfl, draft, hdrawn, layOut_follows_plan hdrawn⟩

end

/-! ### Bodies beside one another -/

/-- Where every node has a cell of its own, the block of a cell is that of its node. -/
theorem Filled.showsBlock_of_apart {chart : Chart} {last height width : Nat}
    {value : Int} {grid : Grid} (h : chart.Filled last height width value grid)
    (hapart : chart.Apart) {v : NodeId} {node : Node} {cell : Cell} (hv : chart.Reaches 0 v)
    (hnode : chart[v]? = some node) (hcell : chart.HasCell v cell) :
    grid.ShowsBlock cell node.box.caption := by
  obtain ⟨w, shown, hw, hwCell, hshown, hshows⟩ := h.blocks v cell hv hcell
  cases hapart v w cell hv hw hcell hwCell
  cases hnode.symm.trans hshown
  exact hshows

/-- Every program that was drawn is laid out, and then every node behind the start has a cell.  All
of them have different cells exactly if no two tracks of the program overlap, and in that case no
block is drawn over that of another node: whenever the drawing comes to its end, each node is on the
grid with its own caption. -/
theorem cells_apart_iff_no_overlap {body ignores : Tree} {place : Place Tree} {draft : Draft}
    (hdrawn : Command.drawn .console (.node .program [body, ignores] place) = .ok draft) :
    let program : Tree := .node .program [body, ignores] place
    ∃ laid : Chart, draft.chart.LaidOut laid ∧
      (∀ v, laid.Reaches 0 v → ∃ cell, laid.HasCell v cell) ∧
      (laid.Apart ↔ program.tracks.Pairwise fun track other => ¬ track.Overlaps other) ∧
      (laid.Apart → ∀ height width depth value grid,
        (paint laid depth (.node 0)).run (Grid.zero height width) = .ok value grid →
        ∀ v node cell, laid.Reaches 0 v → laid[v]? = some node → laid.HasCell v cell →
          grid.ShowsBlock cell node.box.caption) := by
  intro program
  have hrun := Command.run_of_drawn_console hdrawn
  obtain ⟨need, hneed⟩ := (charts_draw hrun).laidOut
  have hlaid := hneed need (Nat.le_refl need)
  have harranged := arranged_of_layOut hrun hlaid
  refine ⟨_, ⟨need, hneed⟩, fun v hv => harranged.cell hv, ?_, ?_⟩
  · rw [apart_iff hrun hlaid, tracks_ofItems hdrawn]
  · intro hapart height width depth value grid hpaint v node cell hv hnode hcell
    -- That the drawing came to its end is enough to know that all captions are texts of bytes.
    have hbytes := harranged.captionsOfBytes_of_paint hpaint
    exact (harranged.of_paint hbytes hpaint).2.showsBlock_of_apart hapart hv hnode hcell

section
open Tree.Sample (program choice read)

/-- A body of two lines ends where its condition does, and the next condition comes below. -/
theorem cells_apart_iff_no_overlap_sequence :
    let program := program [choice "a" [read "x", read "y"] [], choice "b" [read "z"] []]
    program.tracks = [⟨0, 0, 5⟩, ⟨1, 1, 3⟩, ⟨1, 3, 4⟩] ∧
    ∃ draft, Command.drawn .console program = .ok draft ∧
      ∃ laid : Chart, draft.chart.LaidOut laid ∧ laid.Apart ∧
        ∀ height width depth value grid,
          (paint laid depth (.node 0)).run (Grid.zero height width) = .ok value grid →
          ∀ v node cell, laid.Reaches 0 v → laid[v]? = some node → laid.HasCell v cell →
            grid.ShowsBlock cell node.box.caption := by
  intro program
  have htracks : program.tracks = [⟨0, 0, 5⟩, ⟨1, 1, 3⟩, ⟨1, 3, 4⟩] := rfl
  obtain ⟨draft, hdrawn⟩ : ∃ draft, Command.drawn .console program = .ok draft := ⟨_, rfl⟩
  refine ⟨htracks, draft, hdrawn, ?_⟩
  obtain ⟨laid, hlaid, -, hiff, hshows⟩ := cells_apart_iff_no_overlap hdrawn
  have hapart : laid.Apart := hiff.mpr (by decide)
  exact ⟨laid, hlaid, hapart, hshows hapart⟩

/-- A block shows one caption. -/
theorem not_showsBlock_of_line_ne {grid : Grid} {cell : Cell} {caption other : String} {k : Nat}
    (hk : k < blockWidth) (hne : (Grid.line caption)[k]? ≠ (Grid.line other)[k]?) :
    ¬ (grid.ShowsBlock cell caption ∧ grid.ShowsBlock cell other) :=
  fun ⟨h, h'⟩ => hne ((h.caption k hk).symm.trans (h'.caption k hk))

/-- Two inputs come to stand in one cell, and a grid has room for one of them. -/
theorem bodies_share_cell :
    let program := program [choice "a" [read "x", read "y"] [choice "b" [read "z"] []]]
    ∃ draft laid, Command.drawn .console program = .ok draft ∧
      (layOut 12 (.node 0) 0 0).run draft.chart = .ok () laid ∧
      (∃ v w, v ≠ w ∧ laid.Reaches 0 v ∧ laid.Reaches 0 w ∧ laid.HasCell v ⟨2, 1⟩ ∧
        laid.HasCell w ⟨2, 1⟩ ∧ laid.Holds v (.input "y") ∧ laid.Holds w (.input "z")) ∧
      ∀ grid : Grid, ¬ (grid.ShowsBlock ⟨2, 1⟩ (Box.input "y").caption ∧
        grid.ShowsBlock ⟨2, 1⟩ (Box.input "z").caption) := by
  intro program
  obtain ⟨draft, laid, hdrawn, hlaid, hy, hz⟩ : ∃ draft laid,
      Command.drawn .console program = .ok draft ∧
      (layOut 12 (.node 0) 0 0).run draft.chart = .ok () laid ∧
      laid.Holds 4 (.input "y") ∧ laid.Holds 8 (.input "z") :=
    ⟨_, _, rfl, rfl, ⟨_, rfl, rfl⟩, ⟨_, rfl, rfl⟩⟩
  have hrun := Command.run_of_drawn_console hdrawn
  obtain ⟨hyReached, hyCell⟩ : laid.Reaches 0 4 ∧ laid.HasCell 4 ⟨2, 1⟩ :=
    (reaches_and_hasCell_iff hrun hlaid).mpr rfl
  obtain ⟨hzReached, hzCell⟩ : laid.Reaches 0 8 ∧ laid.HasCell 8 ⟨2, 1⟩ :=
    (reaches_and_hasCell_iff hrun hlaid).mpr rfl
  refine ⟨draft, laid, hdrawn, hlaid, ⟨4, 8, by decide, hyReached, hzReached, hyCell,
    hzCell, hy, hz⟩, ?_⟩
  -- The names are at the same place of the two captions.
  exact fun grid => not_showsBlock_of_line_ne (k := 32) (by decide) (by decide)

end

/-! ### The end of the program -/

section
variable {body ignores : Tree} {place : Place Tree} {draft : Draft}
  (hdrawn : Command.drawn .console (.node .program [body, ignores] place) = .ok draft)
  {laidDepth : Nat} {laid : Chart}
  (hlaid : (layOut laidDepth (.node 0) 0 0).run draft.chart = .ok () laid)
  {height width depth : Nat} {value : Int} {grid : Grid}
  (hpaint : (paint laid depth (.node 0)).run (Grid.zero height width) = .ok value grid)
include hdrawn hlaid hpaint

/-- Where the end of a program is written.  It is the row after the last node of the first column;
the rows with something in them are those of the blocks of all nodes; and it comes below all of them
exactly if no body of a condition goes below the last node of the first column. -/
theorem end_below_all_iff :
    let program : Tree := .node .program [body, ignores] place
    value = ↑(blockHeight * program.rowAfter 1) ∧
    (∀ r, (∃ c b, grid.byte? r c = some b ∧ b ≠ 0) ↔
      ∃ v cell, laid.Reaches 0 v ∧ laid.HasCell v cell ∧ cell.HasLine r) ∧
    ((∀ v cell r, laid.Reaches 0 v → laid.HasCell v cell → cell.HasLine r → (r : Int) < value) ↔
      program.StaysAbove) := by
  intro program
  have hrun := Command.run_of_drawn_console hdrawn
  obtain ⟨-, hfilled⟩ := filled_of_paint hrun hlaid hpaint
  have hvalue := value_eq hrun hlaid hpaint
  rw [← rowAfterAll_ofItems hdrawn, ← staysAbove_ofItems hdrawn]
  refine ⟨hvalue, hfilled.line_iff, ?_⟩
  rw [staysAbove_iff hrun hlaid, hvalue]
  -- A block has three rows, so that its last one is above the end if its cell is above the last
  -- row.
  simp only [Cell.HasLine, blockHeight]
  constructor
  · intro hbelow v cell hv hcell
    have hline := hbelow v cell (3 * cell.row) hv hcell (by omega)
    omega
  · intro hrows v cell r hv hcell hr
    have hrow := hrows v cell hv hcell
    omega

end

section
open Tree.Sample (program nestedBody longBody)

/-- Both programs are drawn to the end on the grid that is used for programs. -/
theorem exists_painted_samples : ∀ body ∈ [nestedBody, longBody],
    ∃ draft laid depth value grid grid', Command.drawn .console (program body) = .ok draft ∧
    (layOut 15 (.node 0) 0 0).run draft.chart = .ok () laid ∧
    (paint laid depth (.node 0)).run (Grid.zero Command.canvasSize Command.canvasSize)
      = .ok value grid ∧
    (paintRow value (some 0) Box.stop.caption).run grid = .ok () grid' := by
  have hsamples : ∀ body ∈ [nestedBody, longBody], ∃ draft laid,
      Command.drawn .console (program body) = .ok draft ∧
      (layOut 15 (.node 0) 0 0).run draft.chart = .ok () laid ∧ laid.CaptionsOfBytes ∧
      laid.HasRoomFor Command.canvasSize Command.canvasSize := by
    simp only [List.mem_cons, List.not_mem_nil, or_false]
    rintro body (rfl | rfl)
    · exact ⟨_, _, rfl, rfl, captionsOfBytes_of_all (by decide), hasRoomFor_of_all (by decide)⟩
    · exact ⟨_, _, rfl, rfl, captionsOfBytes_of_all (by decide), hasRoomFor_of_all (by decide)⟩
  intro body hbody
  obtain ⟨draft, laid, hdrawn, hlaid, hbytes, hroom⟩ := hsamples body hbody
  have harranged := arranged_of_drawn hdrawn hlaid
  -- There is room for all blocks, and then there is room for the end.
  obtain ⟨need, hdraws⟩ := harranged.drawsOn hbytes hroom
  obtain ⟨value, grid, hpaint⟩ := hdraws need (Nat.le_refl need)
  obtain ⟨grid', hstop⟩ := harranged.stop_of_paint hbytes hpaint
  exact ⟨draft, laid, need, value, grid, grid', hdrawn, hlaid, hpaint, hstop⟩

/-- The condition inside the other one is to the right of it, and the end comes below both. -/
theorem end_below_all_iff_nestedBody : ∃ draft laid depth value grid,
    Command.drawn .console (program nestedBody) = .ok draft ∧
    (layOut 15 (.node 0) 0 0).run draft.chart = .ok () laid ∧
    (paint laid depth (.node 0)).run (Grid.zero Command.canvasSize Command.canvasSize)
      = .ok value grid ∧
    value = 15 ∧
    ∀ v cell r, laid.Reaches 0 v → laid.HasCell v cell → cell.HasLine r → (r : Int) < value := by
  obtain ⟨draft, laid, depth, value, grid, -, hdrawn, hlaid, hpaint, -⟩ :=
    exists_painted_samples nestedBody (by simp)
  obtain ⟨hvalue, -, hbelow⟩ := end_below_all_iff hdrawn hlaid hpaint
  exact ⟨draft, laid, depth, value, grid, hdrawn, hlaid, hpaint, hvalue, hbelow.mpr (by decide)⟩

/-- The end is written into the first of the three rows in which the last line of the body is
drawn. -/
theorem body_below_end : ∃ draft laid depth value grid,
    Command.drawn .console (program longBody) = .ok draft ∧
    (layOut 15 (.node 0) 0 0).run draft.chart = .ok () laid ∧
    (paint laid depth (.node 0)).run (Grid.zero Command.canvasSize Command.canvasSize)
      = .ok value grid ∧
    value = 9 ∧ ∃ v, laid.Reaches 0 v ∧ laid.HasCell v ⟨3, 1⟩ ∧
      ∀ r ∈ [9, 10, 11], ∃ c b, grid.byte? r c = some b ∧ b ≠ 0 := by
  obtain ⟨draft, laid, depth, value, grid, -, hdrawn, hlaid, hpaint, -⟩ :=
    exists_painted_samples longBody (by simp)
  have hrun := Command.run_of_drawn_console hdrawn
  obtain ⟨hv, hcell⟩ : laid.Reaches 0 5 ∧ laid.HasCell 5 ⟨3, 1⟩ :=
    (reaches_and_hasCell_iff hrun hlaid).mpr rfl
  refine ⟨draft, laid, depth, value, grid, hdrawn, hlaid, hpaint, value_eq hrun hlaid hpaint, 5, hv,
    hcell, fun r hr => ?_⟩
  have hline : Cell.HasLine ⟨3, 1⟩ r := by
    simp only [List.mem_cons, List.not_mem_nil, or_false] at hr
    exact ⟨show 9 ≤ r by omega, show r < 12 by omega⟩
  exact ((filled_of_paint hrun hlaid hpaint).2.line_iff r).mpr ⟨5, _, hv, hcell, hline⟩

end

/-! ### The lines that are printed -/

section
variable {body ignores : Tree} {place : Place Tree} {draft : Draft}
  (hdrawn : Command.drawn .console (.node .program [body, ignores] place) = .ok draft)
  {laidDepth : Nat} {laid : Chart}
  (hlaid : (layOut laidDepth (.node 0) 0 0).run draft.chart = .ok () laid)
  {height width depth : Nat} {value : Int} {grid grid' : Grid}
  (hpaint : (paint laid depth (.node 0)).run (Grid.zero height width) = .ok value grid)
  (hstop : (paintRow value (some 0) Box.stop.caption).run grid = .ok () grid')
include hdrawn hlaid hpaint hstop

/-- What is on the grid when the end of the program has been written. -/
theorem finished_of_drawn : laid.Finished value height width grid' :=
  (filled_of_paint (Command.run_of_drawn_console hdrawn) hlaid hpaint).2.finished hstop

/-- All lines are printed in their places exactly if no body of a condition goes below the last node
of the first column. -/
theorem inPlace_iff_staysAbove :
    grid'.InPlace ↔ (Tree.node .program [body, ignores] place).StaysAbove := by
  have hrun := Command.run_of_drawn_console hdrawn
  rw [(finished_of_drawn hdrawn hlaid hpaint hstop).all_inPlace_iff, ← staysAbove_ofItems hdrawn,
    ← occupies_le_iff hrun hlaid hpaint]
  simp only [occupies_zero_iff hrun hlaid hpaint]

/-- How a program is printed.  Of the rows of the finished grid, those are printed on which a node
or the end of the program stands, each from its first column of blocks on where something stands.
So all of them are printed in their places exactly if no body of a condition goes below the last
node of the first column. -/
theorem printed_in_place_iff :
    (∀ (r : Nat) (cells : List UInt8), grid'.rows[r]? = some cells →
      (Grid.trim cells ≠ [] ↔ ∃ column, laid.Occupies value r column) ∧
      ∀ column, laid.Occupies value r column →
        (∀ other, laid.Occupies value r other → column ≤ other) →
        Grid.trim cells <+: cells.drop (blockWidth * column)) ∧
    (grid'.InPlace ↔ (Tree.node .program [body, ignores] place).StaysAbove) := by
  have hfinished := finished_of_drawn hdrawn hlaid hpaint hstop
  refine ⟨fun r cells hcells => ?_, inPlace_iff_staysAbove hdrawn hlaid hpaint hstop⟩
  refine ⟨hfinished.trim_ne_nil_iff hcells, fun column hoccupied hfirst => ?_⟩
  rw [← hfinished.indent_eq hcells hoccupied hfirst]
  exact Grid.trim_isPrefix_drop cells

end

section
open Tree.Sample (program nestedBody longBody)

/-- Three columns are in use, and all that is printed of them is in its place. -/
theorem printed_in_place_iff_nestedBody : ∃ draft laid depth value grid grid',
    Command.drawn .console (program nestedBody) = .ok draft ∧
    (layOut 15 (.node 0) 0 0).run draft.chart = .ok () laid ∧
    (paint laid depth (.node 0)).run (Grid.zero Command.canvasSize Command.canvasSize)
      = .ok value grid ∧
    (paintRow value (some 0) Box.stop.caption).run grid = .ok () grid' ∧ grid'.InPlace := by
  obtain ⟨draft, laid, depth, value, grid, grid', hdrawn, hlaid, hpaint, hstop⟩ :=
    exists_painted_samples nestedBody (by simp)
  exact ⟨draft, laid, depth, value, grid, grid', hdrawn, hlaid, hpaint, hstop,
    (printed_in_place_iff hdrawn hlaid hpaint hstop).2.mpr (by decide)⟩

/-- The arrow below the last line of the body is printed one column of blocks to the left. -/
theorem body_printed_to_the_left : ∃ draft laid depth value grid grid',
    Command.drawn .console (program longBody) = .ok draft ∧
    (layOut 15 (.node 0) 0 0).run draft.chart = .ok () laid ∧
    (paint laid depth (.node 0)).run (Grid.zero Command.canvasSize Command.canvasSize)
      = .ok value grid ∧
    (paintRow value (some 0) Box.stop.caption).run grid = .ok () grid' ∧
    ∃ cells, grid'.rows[10]? = some cells ∧ Grid.trim cells ≠ [] ∧
      Grid.trim cells <+: cells.drop 60 ∧ ¬ Grid.trim cells <+: cells := by
  obtain ⟨draft, laid, depth, value, grid, grid', hdrawn, hlaid, hpaint, hstop⟩ :=
    exists_painted_samples longBody (by simp)
  have hrun := Command.run_of_drawn_console hdrawn
  have hfinished := finished_of_drawn hdrawn hlaid hpaint hstop
  obtain ⟨hv, hcell⟩ : laid.Reaches 0 5 ∧ laid.HasCell 5 ⟨3, 1⟩ :=
    (reaches_and_hasCell_iff hrun hlaid).mpr rfl
  -- The second row of the last block is one below the end.
  have hoccupied : laid.Occupies value 10 1 :=
    Or.inr ⟨5, ⟨3, 1⟩, hv, hcell, ⟨by decide, by decide⟩, rfl⟩
  have hfree : ¬ laid.Occupies value 10 0 := by
    rw [occupies_zero_iff hrun hlaid hpaint, value_eq hrun hlaid hpaint]
    decide
  obtain ⟨b, hb, -⟩ := hfinished.occupied hoccupied
  obtain ⟨cells, hcells, -⟩ := Option.bind_eq_some_iff.mp hb
  have hprinted := (hfinished.trim_ne_nil_iff hcells).mpr ⟨1, hoccupied⟩
  have hindent : Grid.indent cells = 60 := by
    refine hfinished.indent_eq hcells hoccupied fun other hother => ?_
    refine Nat.pos_of_ne_zero fun hzero => hfree ?_
    rwa [hzero] at hother
  refine ⟨draft, laid, depth, value, grid, grid', hdrawn, hlaid, hpaint, hstop, cells, hcells,
    hprinted, ?_, fun hplace => hfree ((hfinished.inPlace_iff hcells hprinted).mp hplace)⟩
  rw [← hindent]
  exact Grid.trim_isPrefix_drop cells

end

end Chart

/-! ### The command -/

namespace Command

open Chart

/-- A session goes on with a result, or ends with its fault. -/
theorem Session.run_get_bind {ε α β : Type} (failure : ε → Failure) (result : Except ε α)
    (next : α → Session β) (out : String) : (Session.get failure result >>= next).run out
      = match result with
        | .ok a => (next a).run out
        | .error e => .error (.failed (failure e)) out := by
  cases result <;> rfl

/-- A session goes on behind a line that it has printed. -/
theorem Session.run_printLine_bind {β : Type} (line : String) (next : Unit → Session β)
    (out : String) :
    (Session.printLine line >>= next).run out = (next ()).run (out ++ (line ++ "\n")) :=
  rfl

/-- What a command that has come to its end went through, and what it has printed. -/
theorem exists_of_finished {file : String} (h : (console file).ending = .finished) :
    ∃ program outline draft laid grid, Source.parse .file (fileText file) = .ok program ∧
      Outline.outline {} program = .ok outline ∧ drawn .console program = .ok draft ∧
      laidOut draft.chart = .ok laid ∧ painted laid = .ok grid ∧
      (console file).stdout = "<" ++ program.className ++ " object>" ++ "\n" ++ (outline ++ "\n")
        ++ grid.printed := by
  simp only [console, Session.transcript, consoleSession, Session.run_get_bind,
    Session.run_printLine_bind] at h ⊢
  -- Each step either goes on or ends the command with a failure.
  rcases hparse : Source.parse .file (fileText file) with fault | program
  · simp only [hparse] at h
    cases h
  rcases houtline : Outline.outline {} program with fault | outline
  · simp only [hparse, houtline] at h
    cases h
  rcases hdrawn : drawn .console program with refusal | draft
  · simp only [hparse, houtline, hdrawn] at h
    cases h
  rcases hlaid : laidOut draft.chart with fault | laid
  · simp only [hparse, houtline, hdrawn, hlaid] at h
    cases h
  rcases hpainted : painted laid with fault | grid
  · simp only [hparse, houtline, hdrawn, hlaid, hpainted] at h
    cases h
  refine ⟨program, outline, draft, laid, grid, rfl, houtline, hdrawn, hlaid, hpainted, ?_⟩
  simp only [hdrawn, hlaid, hpainted, houtline, String.empty_append]
  rfl

/-- The layout that the command makes. -/
theorem laidOut_eq_ok {chart laid : Chart} : laidOut chart = .ok laid ↔
    (layOut depthLimit (.node 0) 0 0).run chart = .ok () laid := by
  unfold laidOut
  cases (layOut depthLimit (.node 0) 0 0).run chart with
  | ok _ found => simp
  | error fault found => simp

/-- The drawing that the command makes: all blocks, and then the end of the program. -/
theorem exists_of_painted {chart : Chart} {grid' : Grid} (h : painted chart = .ok grid') :
    ∃ value grid, (paint chart depthLimit (.node 0)).run (Grid.zero canvasSize canvasSize)
        = .ok value grid ∧
      (paintRow value (some 0) Box.stop.caption).run grid = .ok () grid' := by
  simp only [painted, EStateM.run_bind] at h
  rcases hpaint : (paint chart depthLimit (.node 0)).run (Grid.zero canvasSize canvasSize) with
    ⟨value, grid⟩ | ⟨fault, grid⟩
  · rcases hstop : (paintRow value (some 0) Box.stop.caption).run grid with
      ⟨_, last⟩ | ⟨fault, last⟩
    · simp only [hpaint, hstop] at h
      cases h
      exact ⟨value, grid, rfl, hstop⟩
    · simp only [hpaint, hstop] at h
      cases h
  · simp only [hpaint] at h
    cases h

/-- The whole command, for a file whose program is drawn to its end.  It prints the kind of the
tree, its outline and the drawing, and every line of the drawing stands in its place exactly if no
body of a condition goes below the last node of the first column. -/
theorem console_prints_drawing {file : String} (h : (console file).ending = .finished) :
    ∃ program outline draft laid grid, Source.parse .file (fileText file) = .ok program ∧
      Outline.outline {} program = .ok outline ∧ drawn .console program = .ok draft ∧
      laidOut draft.chart = .ok laid ∧ painted laid = .ok grid ∧
      (console file).stdout = "<" ++ program.className ++ " object>" ++ "\n" ++ (outline ++ "\n")
        ++ grid.printed ∧
      (grid.InPlace ↔ program.StaysAbove) := by
  obtain ⟨program, outline, draft, laid, grid, hparse, houtline, hdrawn, hlaid, hpainted, hout⟩ :=
    exists_of_finished h
  refine ⟨program, outline, draft, laid, grid, hparse, houtline, hdrawn, hlaid, hpainted, hout, ?_⟩
  obtain ⟨-⟩ := Source.parsedProgram_of_parse hparse
  obtain ⟨value, before, hpaint, hstop⟩ := exists_of_painted hpainted
  exact inPlace_iff_staysAbove hdrawn (laidOut_eq_ok.mp hlaid) hpaint hstop

end Command

end Flowchart
