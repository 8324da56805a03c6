import Flowchart.Proofs.Dot.Walk
import Flowchart.Proofs.Program.Execution
import Flowchart.Proofs.Program.IdleLoops

/-!
# `Flowchart.Proofs.Program.Meaning`: the graph of a program means what the program does

A program is drawn as a chart, the chart is pruned, and what is left of it is numbered and described
as a graph.  Along the way the walk through the chart stays the same:

* a run of the program is a walk along the chart (`Chart.Depicts.walk`);
* that is a walk along the pruned chart (`Chart.Prunes.walk`);
* and that is a walk along the graph (`Chart.Plots.walk`), in which there is no other for the same
  outcomes (`Dot.Walk.labels_eq`).

What is left to show is that the pruned chart can be described.  Every box but a condition has a
text in a graph, and so has a condition that stands for one (`Stmt.letters`).  A node that is
reached in the pruned chart has been marked or is the end, so that its links lead to nodes
(`Chart.Depicts.exists_pruned`).
-/

set_option autoImplicit false

namespace Flowchart

/-! ### Texts of conditions -/

namespace Expr

open Stmt (bind_eq_ok)

/-- Whether an expression stands for a text.  The only one that does not is a name that is no text
itself, and such a name cannot be written in a program. -/
def isWorded : Expr → Bool
  | name (.value _) => false
  | _ => true

/-- The result, if there is one, is a text. -/
def GivesText (result : Except Refusal Piece) : Prop :=
  ∀ piece, result = .ok piece → ∃ s, piece = .text s

/-- A text is a text. -/
theorem givesText_pure (s : String) : GivesText (pure (.text s)) := by
  intro piece hpiece
  cases hpiece
  exact ⟨s, rfl⟩

/-- Steps of which the last one gives a text give a text. -/
theorem givesText_bind {α : Type} {first : Except Refusal α} {next : α → Except Refusal Piece}
    (h : ∀ a, GivesText (next a)) : GivesText (first >>= next) := by
  intro piece hpiece
  obtain ⟨a, -, hnext⟩ := bind_eq_ok.mp hpiece
  exact h a piece hnext

/-- What has no parentheses around it stands for itself. -/
theorem givesText_of_bare {e : Expr} (hwrap : e.wrap = pure) (h : GivesText e.bare) :
    GivesText e.piece := by
  intro piece hpiece
  rw [Expr.piece, hwrap, bind_pure] at hpiece
  exact h piece hpiece

/-- Every expression that stands for something stands for a text, but for such names. -/
theorem givesText_piece (e : Expr) (h : e.isWorded = true) : GivesText e.piece := by
  cases e with
  | name id =>
      cases id with
      | value t => exact nomatch h
      | text s =>
          refine givesText_of_bare rfl ?_
          rw [bare]
          exact givesText_pure s
  | number n =>
      refine givesText_of_bare rfl ?_
      rw [bare]
      cases n.text? with
      | some text => exact givesText_pure text
      | none => exact fun _ hpiece => nomatch hpiece
  | string s =>
      refine givesText_of_bare rfl ?_
      rw [bare]
      exact givesText_pure _
  | call function args keywords =>
      refine givesText_of_bare rfl ?_
      rw [bare]
      exact givesText_bind fun _ => givesText_bind fun _ => givesText_bind fun _ =>
        givesText_bind fun _ => givesText_pure _
  -- The parentheses around an operation make a text of whatever it is.
  | binary left sign right => exact givesText_bind fun _ => givesText_bind fun _ => givesText_pure _
  | junction sign operands => exact givesText_bind fun _ => givesText_bind fun _ => givesText_pure _
  | comparison left signs others =>
      exact givesText_bind fun _ => givesText_bind fun _ => givesText_pure _
  | obstacle refusal =>
      refine givesText_of_bare rfl ?_
      rw [bare]
      exact fun _ hpiece => nomatch hpiece

end Expr

/-- Every box but a condition has a text in a graph. -/
theorem Box.label_of_not_condition {box : Box} (h : box.isCondition = false) :
    box.label = .ok box.text := by
  cases box <;> first | rfl | cases h

namespace Stmt

/-- The box of a condition that stands for a text has one in a graph. -/
theorem label_conditionBox {test : Expr} {box : Box} (h : conditionBox test = .ok box)
    (hworded : test.isWorded = true) : box.label = .ok box.text := by
  simp only [conditionBox, bind_eq_ok] at h
  obtain ⟨piece, hpiece, wording, hwording, hbox⟩ := h
  obtain ⟨s, rfl⟩ := Expr.givesText_piece test hworded piece hpiece
  cases hwording
  cases hbox
  rfl

mutual

/-- Whether the conditions of a statement, at any depth, stand for texts. -/
def isWorded : Stmt → Bool
  | .ifElse test body orelse => test.isWorded && areWorded body && areWorded orelse
  | .whileLoop test body _ _ => test.isWorded && areWorded body
  | .program body => areWorded body
  | _ => true

/-- Whether the conditions of several statements do. -/
def areWorded : List Stmt → Bool
  | [] => true
  | stmt :: rest => stmt.isWorded && areWorded rest

end

end Stmt

namespace Chart

/-- The box at a node has a text in a graph. -/
def Lettered (chart : Chart) (v : NodeId) : Prop :=
  ∃ node, chart[v]? = some node ∧ node.box.label = .ok node.box.text

/-- A node has a text in a graph if its box has one. -/
theorem Holds.lettered {chart : Chart} {v : NodeId} {box : Box} (h : chart.Holds v box)
    (hlabel : box.label = .ok box.text) : chart.Lettered v := by
  obtain ⟨node, hnode, rfl⟩ := h
  exact ⟨node, hnode, hlabel⟩

end Chart

namespace Stmt

variable {chart : Chart}

/-- Wherever a statement stands, the boxes at its nodes have texts if its conditions do. -/
def Letters (chart : Chart) (stmt : Stmt) : Prop :=
  ∀ u lo v hi, chart.Shows .graph stmt u lo v hi → stmt.isWorded = true →
    ∀ w, lo ≤ w → w < hi → chart.Lettered w

/-- The boxes of statements have texts if those of each statement do. -/
theorem letters_all {stmts : List Stmt} (h : ∀ stmt ∈ stmts, Letters chart stmt)
    {u lo v hi : NodeId} (hshows : chart.ShowsAll .graph stmts u lo v hi)
    (hworded : areWorded stmts = true) {w : NodeId} (hlo : lo ≤ w) (hhi : w < hi) :
    chart.Lettered w := by
  induction stmts generalizing u lo with
  | nil =>
      rw [Chart.ShowsAll] at hshows
      rw [hshows.2] at hhi
      exact absurd hhi (Nat.not_lt.mpr hlo)
  | cons stmt rest ih =>
      rw [Chart.ShowsAll] at hshows
      obtain ⟨mid, next, hstmt, hrest⟩ := hshows
      rw [areWorded, Bool.and_eq_true] at hworded
      -- The nodes of the first statement come before those of the others.
      by_cases hnext : w < next
      · exact h stmt List.mem_cons_self u lo mid next hstmt hworded.1 w hlo hnext
      · exact ih (fun s hs => h s (List.mem_cons_of_mem _ hs)) hrest hworded.2
          (Nat.le_of_not_lt hnext)

/-- The boxes of a condition have texts if those of the statements on its two sides do. -/
theorem letters_ifElse {test : Expr} {body orelse : List Stmt}
    (hbody : ∀ stmt ∈ body, Letters chart stmt) (horelse : ∀ stmt ∈ orelse, Letters chart stmt) :
    Letters chart (.ifElse test body orelse) := by
  intro u lo v hi hshows hworded w hlo hhi
  rw [Chart.Shows] at hshows
  obtain ⟨box, yesEnd, no, noEnd, hcondition, -, hbox, -, hyesHead, hyes, hnoHead, hno, -, -, hjoin,
    rfl⟩ := hshows
  rw [isWorded, Bool.and_eq_true, Bool.and_eq_true] at hworded
  rcases split_ifElse no hlo hhi with rfl | rfl | ⟨hlo', hhi'⟩ | rfl | ⟨hlo', hhi'⟩ | rfl
  · exact hbox.lettered (label_conditionBox hcondition hworded.1.1)
  · exact hyesHead.lettered rfl
  · exact letters_all hbody hyes hworded.1.2 hlo' hhi'
  · exact hnoHead.lettered rfl
  · exact letters_all horelse hno hworded.2 hlo' hhi'
  · exact hjoin.lettered rfl

/-- The boxes of a loop have texts if those of the statements of its body do. -/
theorem letters_whileLoop {test : Expr} {body orelse : List Stmt} {refusal : Refusal}
    (hbody : ∀ stmt ∈ body, Letters chart stmt) :
    Letters chart (.whileLoop test body orelse refusal) := by
  intro u lo v hi hshows hworded w hlo hhi
  rw [Chart.Shows] at hshows
  obtain ⟨-, box, bodyEnd, hcondition, -, hjoin, -, hbox, -, hyesHead, hyes, -, hnoHead, rfl⟩ :=
    hshows
  rw [isWorded, Bool.and_eq_true] at hworded
  rcases split_whileLoop hlo hhi with rfl | rfl | rfl | ⟨hlo', hhi'⟩ | rfl
  · exact hjoin.lettered rfl
  · exact hbox.lettered (label_conditionBox hcondition hworded.1)
  · exact hyesHead.lettered rfl
  · exact letters_all hbody hyes hworded.2 hlo' hhi'
  · exact hnoHead.lettered rfl

/-- Every statement whose conditions have texts has texts at all its nodes. -/
theorem letters (stmt : Stmt) : Letters chart stmt := by
  induction stmt using nestedInduction with
  | single stmt box hbox =>
      intro u lo v hi hshows _ w hlo hhi
      rw [Chart.shows_single hbox] at hshows
      obtain ⟨shown, rfl, -, hholds, -, rfl⟩ := hshows
      rw [Nat.le_antisymm (Nat.le_of_lt_succ hhi) hlo]
      exact hholds.lettered (Box.label_of_not_condition (box?_plain hbox).1)
  | ifElse test body orelse hbody horelse => exact letters_ifElse hbody horelse
  | whileLoop test body orelse refusal hbody => exact letters_whileLoop hbody
  | skip =>
      intro u lo v hi hshows _ w hlo hhi
      rw [Chart.Shows] at hshows
      rw [hshows.2] at hhi
      exact absurd hhi (Nat.not_lt.mpr hlo)
  | program body hbody =>
      intro u lo v hi hshows hworded w hlo hhi
      rw [Chart.Shows] at hshows
      obtain ⟨bodyEnd, hall, -, hstop, rfl⟩ := hshows
      rw [isWorded] at hworded
      -- The stop comes after all nodes of the statements.
      rcases Nat.lt_succ_iff_lt_or_eq.mp hhi with hlt | rfl
      · exact letters_all hbody hall hworded hlo hlt
      · exact hstop.lettered rfl
  | refused refusal =>
      intro u lo v hi hshows
      rw [Chart.Shows] at hshows
      exact hshows.elim

end Stmt

namespace Chart.Depicts

/-! ### The graph of a program -/

variable {chart : Chart} {body : List Stmt} {last : NodeId} (h : chart.Depicts body last)

include h

/-- All boxes of a program have texts if its conditions do. -/
theorem lettered (hworded : Stmt.areWorded body = true) {v : NodeId} {node : Node}
    (hnode : chart[v]? = some node) : node.box.label = .ok node.box.text := by
  have hlettered : chart.Lettered v := by
    rcases Nat.eq_zero_or_pos v with rfl | hpos
    · exact h.built.start.lettered rfl
    · exact Stmt.letters _ 0 1 last chart.size h.shows (by rw [Stmt.isWorded]; exact hworded) v hpos
        (lt_size hnode)
  obtain ⟨found, hfound, hlabel⟩ := hlettered
  rw [hnode] at hfound
  cases hfound
  exact hlabel

variable {chart' : Chart} (hprunes : Prunes chart (.node 0) chart')

include hprunes

/-- Pruning gives no node a number that counts. -/
theorem isNumbered_pruned (v : NodeId) : isNumbered (chart'.index v) = false := by
  cases hnode' : chart'[v]? with
  | none => rw [index, hnode']; rfl
  | some node' =>
      obtain ⟨node, hnode, htrims⟩ :=
        (hprunes.swept h.built.toTidy h.start_final).trimmed.exists_old hnode'
      rw [index_eq hnode']
      rcases htrims.index with hkept | ⟨hzero, -⟩
      · rw [hkept, h.built.fresh hnode]
        rfl
      · rw [hzero]
        rfl

/-- Whatever is reached in the pruned chart of a program can be described. -/
theorem exists_pruned (hworded : Stmt.areWorded body = true) (v : NodeId)
    (hv : chart'.Reaches 0 v) :
    ∃ node arrows, chart'[v]? = some node ∧ node.box.label = .ok node.box.text ∧
      node.box.isJoint = false ∧ node.exit.isBranch = node.box.isCondition ∧
      node.exit.arrows = some arrows := by
  have htidy := h.built.toTidy
  have htrimmed := (hprunes.swept htidy h.start_final).trimmed
  obtain ⟨⟨node', hnode', hsettled⟩, hfinal⟩ :=
    hprunes.settled_of_reached_after htidy h.start_final h.not_marked hv
  obtain ⟨node, hnode, htrims⟩ := htrimmed.exists_old hnode'
  obtain ⟨arrows, harrows⟩ : ∃ arrows, node'.exit.arrows = some arrows := by
    -- A node was marked when all of its links led to nodes.
    rcases hsettled with hindex | hopen
    · refine Exit.exists_arrows fun target ht => ?_
      exact (htrimmed.lands_of_marked ⟨node', hnode', hindex⟩ (h.not_marked v)
        ⟨node', hnode', ht⟩).1
    · exact ⟨[], by rw [hopen]; rfl⟩
  refine ⟨node', arrows, hnode', ?_, ?_, ?_, harrows⟩
  · rw [htrims.box_eq]
    exact h.lettered hworded hnode
  · rw [htrims.box_eq]
    exact isJoint_of_final hnode hfinal
  · rw [htrims.exit.isBranch_eq, htrims.box_eq]
    exact Bool.eq_iff_iff.mpr ⟨h.built.condition hnode, h.built.branches hnode⟩

end Chart.Depicts

namespace Command

open Chart

/-- The graph of a program that was drawn and pruned, where no loop does anything in the end and no
condition is a name that is no text.  Every depth that is great enough gives the same graph, and for
all outcomes of the conditions there is one walk along it, from its first node on, which shows what
a run of the program meets with these outcomes. -/
theorem exists_described_execution {chart chart' : Chart} {body : List Stmt} {last : NodeId}
    (h : chart.Depicts body last) (helse : Stmt.areElseFree body = true)
    (hworded : Stmt.areWorded body = true) {depth : Nat}
    (hpruned : pruned depth chart = .ok chart') :
    ∃ need graph, (∀ deep, need ≤ deep → described deep chart' = .ok graph) ∧
      ∀ outcomes labels, Dot.Walk graph "node1" outcomes labels ↔
        labels = Stmt.execution body outcomes := by
  have htidy := h.built.toTidy
  have hprunes := prunes_of_run (pruned_eq_ok.mp hpruned)
  have htidy' := (hprunes.swept htidy h.start_final).trimmed.tidy htidy
  obtain ⟨need, graph, chart'', nodes, hgraph, hren, hplots, hmem, hname⟩ :=
    exists_described htidy' (h.isNumbered_pruned hprunes) (h.exists_pruned hprunes hworded)
  refine ⟨need, graph, hgraph, fun outcomes labels => ?_⟩
  -- The run is a walk along the chart, then along the pruned chart, and then along the graph.
  have hwalk := hprunes.walk htidy h.start_final h.not_marked (h.walk helse outcomes) (.node 0)
    Relation.ReflTransGen.refl (meets_node.mpr Relation.ReflTransGen.refl)
  have hexecution := hplots.walk (hren.walk hwalk) 0 rfl hmem
  rw [hname] at hexecution
  constructor
  · exact fun hother => hexecution.labels_eq hother
  · rintro rfl
    exact hexecution

end Command

end Flowchart
