import Flowchart.Proofs.Chart.Depth
import Flowchart.Proofs.Program.Meaning
import Flowchart.Proofs.Program.Syntax
import Flowchart.Proofs.Source.Reading

/-!
# `Flowchart.Proofs.Program.Graphs`: what the graph of a program shows

The results on the graphs of programs, said of the syntax trees from which they are drawn.

* `pruned_ends_iff_no_idle_loop`: pruning ends if and only if no loop has a passable body.
* `drawn_eq_contents_iff_leftOut_eq_zero`: what is drawn and what loops have for the case that their
  conditions fail are together all that a program says.
* `walk_described_iff_execution`: walking along the graph is running the program.
* `graph_shows_execution`: the same for the whole command, from the file to the description that is
  shown.

A name in a condition has to be a text.  So it is in every program that was read from source
(`Tree.ParsedProgram`, `Source.parsedProgram_of_parse`), and the result on the whole command does
not ask for it.
-/

set_option autoImplicit false

namespace Flowchart

/-! ### Programs as they are read -/

/-- An expression stands for a text, if it stands for anything, unless it is a name that is none. -/
theorem Tree.HasTextName.isWorded {t : Tree} (h : t.HasTextName) :
    (Expr.ofTree t).isWorded = true := by
  rw [Expr.ofTree.eq_def]
  split
  -- Names are the only form of which there is anything to show.
  case h_7 fields place =>
    obtain ⟨id, ctx, rfl⟩ := h
    rfl
  all_goals rfl

namespace Stmt

/-- A statement that stands for a box has no condition. -/
theorem StandsFor.isWorded {stmt : Stmt} {box : Except Refusal Box} (h : stmt.StandsFor box) :
    stmt.isWorded = true := by
  rcases h with h | ⟨refusal, rfl, -⟩
  · cases stmt <;> cases h <;> rfl
  · rfl

/-- Statements stand for texts if each of them does. -/
theorem areWorded_map_ofTree {trees : List Tree} (h : ∀ t ∈ trees, (ofTree t).isWorded = true) :
    areWorded (trees.map ofTree) = true := by
  induction trees with
  | nil => rfl
  | cons t rest ih =>
      rw [List.map_cons, areWorded, h t List.mem_cons_self,
        ih fun s hs => h s (List.mem_cons_of_mem _ hs)]
      rfl

/-- The conditions of a statement that was read from source stand for texts. -/
theorem isWorded_ofTree {t : Tree} (h : t.ParsedStatement) : (ofTree t).isWorded = true := by
  induction h with
  | condition htest _ _ hbody horelse =>
      rw [ofTree, ofItems_list, ofItems_list, isWorded, htest.isWorded, areWorded_map_ofTree hbody,
        areWorded_map_ofTree horelse]
      rfl
  | loop htest _ _ hbody _ =>
      rw [ofTree, ofItems_list, isWorded, htest.isWorded, areWorded_map_ofTree hbody]
      rfl
  | @other kind fields place hkind =>
      generalize ht : Tree.node kind fields place = t
      induction t using Tree.statementInduction with
      | assign targets value =>
          rw [ofTree]
          exact (standsFor_ofAssignment targets value).isWorded
      | update target op value => rw [ofTree]; rfl
      | effect value =>
          rw [ofTree]
          exact (standsFor_ofEffect value).isWorded
      | skip => rw [ofTree]; rfl
      | other t hform => rw [ofTree_other hform]; rfl
      | ifElse | whileLoop | program =>
          cases ht
          simp [Tree.compoundKinds] at hkind

end Stmt

namespace Command

open Chart

/-! ### Pruning -/

/-- The exact condition under which pruning the chart of a program ends.  It ends if and only if no
loop of the program has a passable body, and then with the same chart at every depth that is great
enough.  Where there is such a loop, no depth is great enough; and the depth is all that can stop
it. -/
theorem pruned_ends_iff_no_idle_loop (body ignores : Tree) (place : Place Tree) (draft : Draft)
    (hdrawn : drawn .graph (.node .program [body, ignores] place) = .ok draft) :
    let program : Tree := .node .program [body, ignores] place
    ((∃ need chart, ∀ depth, need ≤ depth → pruned depth draft.chart = .ok chart) ↔
      ∀ loop ∈ program.loops, loop.body.bodyPassable = false) ∧
    ((∃ loop ∈ program.loops, loop.body.bodyPassable = true) →
      ∀ depth, pruned depth draft.chart = .error .endless) ∧
    (∀ depth fault, pruned depth draft.chart = .error fault → fault = .endless) := by
  intro program
  have hdepicts := depicts_drawn hdrawn
  have hidle : Stmt.haveIdleLoop (Stmt.ofItems body)
      = program.loops.any fun loop => loop.body.bodyPassable := by
    rw [Tree.loops]
    exact (Stmt.loopsAlike_ofItems fun t _ => Stmt.loopsAlike_ofTree t).idle
  have hendless : (∃ loop ∈ program.loops, loop.body.bodyPassable = true) →
      ∀ depth, pruned depth draft.chart = .error .endless := by
    intro hloop
    exact pruned_eq_endless_of_idle hdepicts (hidle.trans (List.any_eq_true.mpr hloop))
  refine ⟨⟨?_, fun hnone => ?_⟩, hendless, fun _ _ => fault_eq_endless_of_pruned hdepicts⟩
  · -- One depth at which pruning ends is enough to exclude idle loops.
    rintro ⟨need, chart, hok⟩ loop hloop
    refine (Bool.not_eq_true _).mp fun hpassable => ?_
    have herror := hendless ⟨loop, hloop, hpassable⟩ need
    rw [hok need (Nat.le_refl need)] at herror
    cases herror
  · refine exists_pruned_of_not_idle hdepicts (hidle.trans (List.any_eq_false.mpr ?_))
    exact fun loop hloop => (Bool.not_eq_true _).mpr (hnone loop hloop)

section
open Tree.Sample (program loop choice read skip)

/-- The body of the first loop may be passed without a box, where `b` fails; that of the second may
not. -/
theorem pruned_ends_iff_no_idle_loop_samples :
    let around (orelse : Tree) := program [loop "a" [choice "b" [read "x"] [orelse]] []]
    (∃ draft, drawn .graph (around skip) = .ok draft ∧
      ∀ depth, pruned depth draft.chart = .error .endless) ∧
    (∃ draft, drawn .graph (around (read "y")) = .ok draft ∧
      ∃ need chart, ∀ depth, need ≤ depth → pruned depth draft.chart = .ok chart) := by
  intro around
  obtain ⟨idle, hidle⟩ : ∃ draft, drawn .graph (around skip) = .ok draft := ⟨_, rfl⟩
  obtain ⟨busy, hbusy⟩ : ∃ draft, drawn .graph (around (read "y")) = .ok draft := ⟨_, rfl⟩
  refine ⟨⟨idle, hidle, (pruned_ends_iff_no_idle_loop _ _ _ idle hidle).2.1 ?_⟩,
    ⟨busy, hbusy, (pruned_ends_iff_no_idle_loop _ _ _ busy hbusy).1.mpr ?_⟩⟩
  · exact ⟨_, List.mem_cons_self, rfl⟩
  · exact List.forall_mem_singleton.mpr rfl

end

/-! ### Texts -/

/-- What stands in the chart of a program, and when it is all that the program says.  Every node is
reached from the start, so the boxes of statements at the nodes that are reached are `drawn`.  Each
of them counts once, and together with what loops have for the case that their conditions fail they
are what the program says.  So nothing is missing if and only if nothing was left out. -/
theorem drawn_eq_contents_iff_leftOut_eq_zero (body ignores : Tree) (place : Place Tree)
    (draft : Draft) (hdrawn : drawn .graph (.node .program [body, ignores] place) = .ok draft) :
    let program : Tree := .node .program [body, ignores] place
    (∀ v, draft.chart.Reaches 0 v ↔ v < draft.chart.size) ∧
    (draft.chart.drawn 0 draft.chart.size).map .ok + program.leftOut = program.contents ∧
    ((draft.chart.drawn 0 draft.chart.size).map .ok = program.contents ↔ program.leftOut = 0) := by
  intro program
  have hdepicts := depicts_drawn hdrawn
  have hleft : Stmt.leftOutAll (Stmt.ofItems body) = program.leftOut := by
    rw [Tree.leftOut, Tree.loops]
    exact (Stmt.loopsAlike_ofItems fun t _ => Stmt.loopsAlike_ofTree t).leftOut
  have hcontents : Stmt.contentsAll (Stmt.ofItems body) = program.contents := by
    rw [Tree.contents]
    exact Stmt.contentsAll_ofItems fun t _ => Stmt.contents_ofTree t
  -- What is drawn and what is left out add up to what the program says.
  have hbalance := hdepicts.drawn_add_leftOut
  rw [hleft, hcontents] at hbalance
  refine ⟨hdepicts.reaches_iff, hbalance, ?_⟩
  rw [← hbalance]
  exact left_eq_add

section
open Tree.Sample (program loop choice read skip)

/-- A loop around a condition whose two sides read, in which nothing is left out. -/
theorem drawn_eq_contents_nested :
    let program := program [skip, loop "a" [choice "b" [read "x"] [read "x"]] []]
    ∃ draft, drawn .graph program = .ok draft ∧
      (draft.chart.drawn 0 draft.chart.size).map .ok = program.contents ∧
      program.contents = {.ok (.condition (.text "a")), .ok (.condition (.text "b")),
        .ok (.input "x"), .ok (.input "x")} := by
  intro program
  obtain ⟨draft, hdrawn⟩ : ∃ draft, drawn .graph program = .ok draft := ⟨_, rfl⟩
  have hall := (drawn_eq_contents_iff_leftOut_eq_zero _ _ _ draft hdrawn).2.2
  exact ⟨draft, hdrawn, hall.mpr rfl, rfl⟩

/-- A loop that reads `y` when its condition fails.  It is drawn without a refusal, and no node has
the box for `y`. -/
theorem drawn_ne_contents_loop_else :
    let program := program [loop "a" [read "x"] [read "y"]]
    ∃ draft, drawn .graph program = .ok draft ∧
      (∀ v, draft.chart.Reaches 0 v ↔ v < draft.chart.size) ∧
      draft.chart.drawn 0 draft.chart.size = {.condition (.text "a"), .input "x"} ∧
      program.contents = {.ok (.condition (.text "a")), .ok (.input "x"), .ok (.input "y")} ∧
      (draft.chart.drawn 0 draft.chart.size).map .ok ≠ program.contents := by
  intro program
  obtain ⟨draft, hdrawn, hboxes⟩ : ∃ draft, drawn .graph program = .ok draft ∧
      draft.chart.drawn 0 draft.chart.size = {.condition (.text "a"), .input "x"} :=
    ⟨_, rfl, rfl⟩
  refine ⟨draft, hdrawn, (depicts_drawn hdrawn).reaches_iff, hboxes, rfl, fun heq => ?_⟩
  rw [hboxes] at heq
  have hcard := congrArg Multiset.card heq
  exact absurd hcard (by decide)

end

/-! ### Runs -/

/-- What a run of a program meets is the same by its tree and by its statements. -/
theorem execution_ofItems (body ignores : Tree) (place : Place Tree) (outcomes : List Branch) :
    Stmt.execution (Stmt.ofItems body) outcomes
      = (Tree.node .program [body, ignores] place).execution outcomes := by
  have hcourse := Stmt.course_ofTree (.node .program [body, ignores] place) fun _ => []
  rw [Stmt.ofTree] at hcourse
  rw [Stmt.execution, Tree.execution, hcourse]

/-- No loop of the statements does anything in the end if none of the tree does. -/
theorem areElseFree_ofItems {body ignores : Tree} {place : Place Tree}
    (h : ∀ loop ∈ (Tree.node .program [body, ignores] place).loops, loop.orelse.hasNoItems = true) :
    Stmt.areElseFree (Stmt.ofItems body) = true := by
  rw [Tree.loops] at h
  rw [(Stmt.loopsAlike_ofItems fun t _ => Stmt.loopsAlike_ofTree t).elseFree]
  exact List.all_eq_true.mpr h

/-- All conditions of a program that was read from source stand for texts. -/
theorem areWorded_ofItems {body : List Tree} (h : ∀ t ∈ body, t.ParsedStatement) :
    Stmt.areWorded (Stmt.ofItems (.list body)) = true := by
  rw [Stmt.ofItems_list]
  exact Stmt.areWorded_map_ofTree fun t ht => Stmt.isWorded_ofTree (h t ht)

/-- A description at a smaller depth is the same, unless the depth is not enough. -/
theorem described_eq_or_endless {depth depth' : Nat} (h : depth ≤ depth') (chart : Chart) :
    described depth chart = described depth' chart ∨ described depth chart = .error .endless := by
  have hcurtails : ∀ first, Curtails (do describeNode 1 first; number depth 0)
      (do describeNode 1 first; number depth' 0) :=
    fun first => .bind (.refl _) fun _ => curtails_number h 0
  unfold described
  rcases hcurtails ((chart[0]?.map (·.box)).getD .start)
      ⟨chart.setIndex 0 1, graphSettings.toArray⟩ with hsame | ⟨plot, hgives⟩
  · exact Or.inl (by simp only [hsame])
  · exact Or.inr (by simp only [hgives])

/-- What becomes of a program that was read from source, where no loop does anything when its
condition fails.  Either it is refused as it is drawn, or the depth is not enough, or its graph is
described; and then the walks along the graph are the runs of the program. -/
theorem graphOf_describes_execution {program : Tree} (hparsed : program.ParsedProgram)
    (helse : ∀ loop ∈ program.loops, loop.orelse.hasNoItems = true) :
    (∃ refusal, drawn .graph program = .error refusal ∧
      graphOf program = .error (.refusal refusal)) ∨
    graphOf program = .error (.chart .endless) ∨
    ∃ graph, graphOf program = .ok (Dot.digraph graph) ∧
      ∀ outcomes labels, Dot.Walk graph "node1" outcomes labels ↔
        labels = program.execution outcomes := by
  obtain ⟨hbody⟩ := hparsed
  unfold graphOf
  cases hdrawn : drawn .graph _ with
  | error refusal => exact Or.inl ⟨refusal, rfl, rfl⟩
  | ok draft =>
      have hdepicts := depicts_drawn hdrawn
      refine Or.inr ?_
      cases hpruned : pruned depthLimit draft.chart with
      | error fault =>
          cases fault_eq_endless_of_pruned hdepicts hpruned
          exact Or.inl (by simp only [Except.mapError, bind, Except.bind, hpruned])
      | ok chart =>
          obtain ⟨need, graph, hgraph, hwalk⟩ := exists_described_execution hdepicts
            (areElseFree_ofItems helse) (areWorded_ofItems hbody) hpruned
          -- At a depth that is great enough there is a graph; the limit gives the same or is not
          -- enough.
          have hdeep := hgraph _ (Nat.le_max_right depthLimit need)
          rcases described_eq_or_endless (Nat.le_max_left depthLimit need) chart with hsame | hgives
          · refine Or.inr ⟨graph, ?_, fun outcomes labels => ?_⟩
            · simp only [Except.mapError, bind, Except.bind, hpruned, hsame, hdeep]
              rfl
            · rw [hwalk, execution_ofItems]
          · exact Or.inl (by simp only [Except.mapError, bind, Except.bind, hpruned, hgives])

section
variable {path : String} {args : List String} {files : Files} {text : String} {program : Tree}
  (hread : files.read path = .ok text) (hparse : Source.parse .file (fileText text) = .ok program)
include hread hparse

/-- A program file that can be read is drawn as a graph, and nothing is printed. -/
theorem graph_eq : graph (path :: args) files
    = match graphOf program with
      | .ok dot => (⟨"", .finished⟩, some ⟨"flowchart", "png", "dot", dot⟩)
      | .error failure => (⟨"", .failed failure⟩, none) := by
  simp only [graph, graphSession, hread, hparse]
  cases graphOf program <;> rfl

/-- The whole command, for a file with a program in which no loop does anything when its condition
fails.  Either it fails because the program is refused as it is drawn or because the depth is not
enough, or it shows the description of a graph along which the walks are the runs of the program. -/
theorem graph_shows_execution (helse : ∀ loop ∈ program.loops, loop.orelse.hasNoItems = true) :
    (∃ refusal, drawn .graph program = .error refusal ∧
      graph (path :: args) files = (⟨"", .failed (.refusal refusal)⟩, none)) ∨
    graph (path :: args) files = (⟨"", .failed (.chart .endless)⟩, none) ∨
    ∃ statements, graph (path :: args) files
        = (⟨"", .finished⟩, some ⟨"flowchart", "png", "dot", Dot.digraph statements⟩) ∧
      ∀ outcomes labels, Dot.Walk statements "node1" outcomes labels ↔
        labels = program.execution outcomes := by
  rw [graph_eq hread hparse]
  have hparsed := Source.parsedProgram_of_parse hparse
  rcases graphOf_describes_execution hparsed helse with ⟨refusal, hdrawn, hgraph⟩ | hgraph |
    ⟨statements, hgraph, hwalk⟩
  · exact Or.inl ⟨refusal, hdrawn, by rw [hgraph]⟩
  · exact Or.inr (Or.inl (by rw [hgraph]))
  · exact Or.inr (Or.inr ⟨statements, by rw [hgraph], hwalk⟩)

end

end Command

end Flowchart
