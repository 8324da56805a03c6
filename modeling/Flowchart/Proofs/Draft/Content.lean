import Flowchart.Proofs.Draft.Picture
import Mathlib.Algebra.Order.Group.Multiset
import Mathlib.Data.List.Intervals
import Mathlib.Data.Multiset.Filter

/-!
# `Flowchart.Proofs.Draft.Content`: which statements have their box in the chart

Everything a program says should stand in its chart, and should stand there once.  `Stmt.contents`
counts what a program says: the box of every assignment and every call, and the condition of every
`if` and every loop, at any depth.  What is refused counts with its refusal, so that nothing but a
statement without a part in the flow counts for nothing.

A loop may have statements of its own for the case that its condition fails.  Drawing a loop draws
its condition and its body, and passes over these: they are neither drawn nor refused.
`Stmt.leftOut` counts them.  What is drawn and what is left out are together what the program says,

    drawn + left out = contents

and this is proved for every statement at its place in a chart (`Stmt.accounted`), by adding up the
boxes between the first and the last of its nodes.  `Chart.Depicts.drawn_add_leftOut` reads it for
the chart of a whole program.
-/

set_option autoImplicit false

namespace Flowchart

/-- Whether a box belongs to a statement.  The start, the end and the joints belong to none. -/
def Box.isOfStatement : Box → Bool
  | start | stop | join | head => false
  | _ => true

/-- A condition belongs to a statement. -/
theorem Box.isOfStatement_of_isCondition {box : Box} (h : box.isCondition = true) :
    box.isOfStatement = true := by
  cases box <;> simp_all [isCondition, isOfStatement]

namespace Chart

/-! ### Boxes between two nodes -/

/-- The box at a node, if it belongs to a statement. -/
def statementBox? (chart : Chart) (v : NodeId) : Option Box :=
  (chart[v]?.map Node.box).filter Box.isOfStatement

/-- The boxes of statements from the node `lo` up to but not including the node `hi`. -/
def drawn (chart : Chart) (lo hi : NodeId) : Multiset Box :=
  ((List.Ico lo hi).filterMap chart.statementBox? : List Box)

/-- No boxes between a node and itself. -/
theorem drawn_self (chart : Chart) (v : NodeId) : chart.drawn v v = 0 := by
  simp [drawn]

/-- The boxes between two nodes can be counted in two parts. -/
theorem drawn_add (chart : Chart) {lo mid hi : NodeId} (hlo : lo ≤ mid) (hhi : mid ≤ hi) :
    chart.drawn lo mid + chart.drawn mid hi = chart.drawn lo hi := by
  simp only [drawn, Multiset.coe_add, ← List.filterMap_append, List.Ico.append_consecutive hlo hhi]

/-- The box at a node counts if it belongs to a statement. -/
theorem Holds.statementBox?_eq {chart : Chart} {v : NodeId} {box : Box} (h : chart.Holds v box) :
    chart.statementBox? v = if box.isOfStatement then some box else none := by
  obtain ⟨node, hnode, rfl⟩ := h
  simp [statementBox?, hnode, Option.filter]

/-- The box of a statement counts once. -/
theorem Holds.drawn_box {chart : Chart} {v : NodeId} {box : Box} (h : chart.Holds v box)
    (hbox : box.isOfStatement = true) : chart.drawn v (v + 1) = {box} := by
  simp [drawn, h.statementBox?_eq, hbox]

/-- The other boxes do not count. -/
theorem Holds.drawn_other {chart : Chart} {v : NodeId} {box : Box} (h : chart.Holds v box)
    (hbox : box.isOfStatement = false) : chart.drawn v (v + 1) = 0 := by
  simp [drawn, h.statementBox?_eq, hbox]

end Chart

namespace Stmt

/-! ### What a statement says -/

mutual

/-- What a statement says: its box and those of the statements inside it, at any depth.  What is
refused counts with its refusal. -/
def contents : Stmt → Multiset (Except Refusal Box)
  | .read target => {readBox target}
  | .assign target value => {assignBox target value}
  | .update target sign value => {updateBox target sign value}
  | .perform function args keywords => {performBox function args keywords}
  | .ifElse test body orelse => conditionBox test ::ₘ (contentsAll body + contentsAll orelse)
  | .whileLoop test body orelse _ => conditionBox test ::ₘ (contentsAll body + contentsAll orelse)
  | .skip => 0
  | .program body => contentsAll body
  | .refused refusal => {.error refusal}

/-- What several statements say. -/
def contentsAll : List Stmt → Multiset (Except Refusal Box)
  | [] => 0
  | stmt :: rest => contents stmt + contentsAll rest

end

mutual

/-- What a statement says for the case that the condition of a loop fails.  The loop may be the
statement itself or, at any depth, inside it. -/
def leftOut : Stmt → Multiset (Except Refusal Box)
  | .ifElse _ body orelse => leftOutAll body + leftOutAll orelse
  | .whileLoop _ body orelse _ => leftOutAll body + contentsAll orelse
  | .program body => leftOutAll body
  | _ => 0

/-- What several statements say for this case. -/
def leftOutAll : List Stmt → Multiset (Except Refusal Box)
  | [] => 0
  | stmt :: rest => leftOut stmt + leftOutAll rest

end

/-- A statement that is drawn as one box says that box. -/
theorem contents_single {stmt : Stmt} {box : Except Refusal Box} (h : stmt.box? = some box) :
    stmt.contents = {box} ∧ stmt.leftOut = 0 := by
  cases stmt <;> cases h <;> exact ⟨by rw [contents], by rw [leftOut]; all_goals simp⟩

/-! ### Adding up the boxes of a statement -/

/-- The boxes from `lo` up to `hi` and what is left out are together the whole. -/
structure Accounts (chart : Chart) (left whole : Multiset (Except Refusal Box)) (lo hi : NodeId) :
    Prop where
  le : lo ≤ hi
  balance : (chart.drawn lo hi).map .ok + left = whole

section Accounts

variable {chart : Chart} {lo mid hi v : NodeId}
  {left left' whole whole' : Multiset (Except Refusal Box)}

/-- Nothing is drawn and nothing left out. -/
theorem Accounts.refl (v : NodeId) : Accounts chart 0 0 v v where
  le := Nat.le_refl v
  balance := by rw [Chart.drawn_self]; rfl

/-- One part of a program after another. -/
theorem Accounts.trans (h : Accounts chart left whole lo mid)
    (h' : Accounts chart left' whole' mid hi) :
    Accounts chart (left + left') (whole + whole') lo hi where
  le := Nat.le_trans h.le h'.le
  balance := by
    rw [← Chart.drawn_add chart h.le h'.le, Multiset.map_add, add_add_add_comm, h.balance,
      h'.balance]

/-- What is left out besides counts on both sides. -/
theorem Accounts.leave (h : Accounts chart left whole lo hi)
    (more : Multiset (Except Refusal Box)) :
    Accounts chart (left + more) (whole + more) lo hi where
  le := h.le
  balance := by rw [← add_assoc, h.balance]

/-- The box of a statement is accounted for by that statement. -/
theorem accounts_box {box : Box} (h : chart.Holds v box) (hbox : box.isOfStatement = true) :
    Accounts chart 0 {.ok box} v (v + 1) where
  le := Nat.le_succ v
  balance := by rw [h.drawn_box hbox]; rfl

/-- The other boxes need no statement. -/
theorem accounts_other {box : Box} (h : chart.Holds v box) (hbox : box.isOfStatement = false) :
    Accounts chart 0 0 v (v + 1) where
  le := Nat.le_succ v
  balance := by rw [h.drawn_other hbox]; rfl

end Accounts

/-- A statement is accounted for wherever it stands. -/
def Accounted (chart : Chart) (stmt : Stmt) : Prop :=
  ∀ u lo v hi, chart.Shows .graph stmt u lo v hi → Accounts chart stmt.leftOut stmt.contents lo hi

variable {chart : Chart}

/-- Statements one after the other are accounted for if each of them is. -/
theorem accounts_all {stmts : List Stmt} (h : ∀ stmt ∈ stmts, Accounted chart stmt)
    {u lo v hi : NodeId} (hshows : chart.ShowsAll .graph stmts u lo v hi) :
    Accounts chart (leftOutAll stmts) (contentsAll stmts) lo hi := by
  induction stmts generalizing u lo with
  | nil =>
      rw [Chart.ShowsAll] at hshows
      rw [hshows.2, leftOutAll, contentsAll]
      exact Accounts.refl lo
  | cons stmt rest ih =>
      rw [Chart.ShowsAll] at hshows
      obtain ⟨mid, next, hstmt, hrest⟩ := hshows
      rw [leftOutAll, contentsAll]
      exact (h stmt List.mem_cons_self u lo mid next hstmt).trans
        (ih (fun s hs => h s (List.mem_cons_of_mem _ hs)) hrest)

/-- A statement that is drawn as one box. -/
theorem accounted_single {stmt : Stmt} {box : Except Refusal Box} (h : stmt.box? = some box) :
    Accounted chart stmt := by
  intro u lo v hi hshows
  rw [Chart.shows_single h] at hshows
  obtain ⟨shown, rfl, -, hholds, -, rfl⟩ := hshows
  rw [(contents_single h).1, (contents_single h).2]
  refine accounts_box hholds ?_
  rcases box?_cases h with ⟨_, rfl⟩ | ⟨_, _, rfl⟩ | ⟨_, rfl⟩ | ⟨_, rfl⟩ <;> rfl

/-- A condition with two bodies.  All that it says is drawn. -/
theorem accounted_ifElse {test : Expr} {body orelse : List Stmt}
    (hbody : ∀ stmt ∈ body, Accounted chart stmt)
    (horelse : ∀ stmt ∈ orelse, Accounted chart stmt) :
    Accounted chart (.ifElse test body orelse) := by
  intro u lo v hi hshows
  rw [Chart.Shows] at hshows
  obtain ⟨box, yesEnd, no, noEnd, hcondition, -, hbox, -, hyesHead, hyes, hnoHead, hno, -, -, hjoin,
    rfl⟩ := hshows
  have hcond :=
    accounts_box hbox (Box.isOfStatement_of_isCondition (isCondition_conditionBox hcondition))
  -- Of the nodes of a condition only its own and those of the two bodies count.
  have htotal := hcond.trans ((accounts_other hyesHead rfl).trans ((accounts_all hbody hyes).trans
    ((accounts_other hnoHead rfl).trans
      ((accounts_all horelse hno).trans (accounts_other hjoin rfl)))))
  simpa [leftOut, contents, hcondition, Multiset.singleton_add] using htotal

/-- A loop.  Its condition and its body are drawn; what it says for the case that the condition
fails is left out, and so counts on both sides. -/
theorem accounted_whileLoop {test : Expr} {body orelse : List Stmt} {refusal : Refusal}
    (hbody : ∀ stmt ∈ body, Accounted chart stmt) :
    Accounted chart (.whileLoop test body orelse refusal) := by
  intro u lo v hi hshows
  rw [Chart.Shows] at hshows
  obtain ⟨-, box, bodyEnd, hcondition, -, hjoin, -, hbox, -, hyesHead, hyes, -, hnoHead, rfl⟩ :=
    hshows
  have hcond :=
    accounts_box hbox (Box.isOfStatement_of_isCondition (isCondition_conditionBox hcondition))
  have htotal := (accounts_other hjoin rfl).trans (hcond.trans ((accounts_other hyesHead rfl).trans
    ((accounts_all hbody hyes).trans (accounts_other hnoHead rfl))))
  -- No node belongs to the statements for the case that the condition fails.
  simpa [leftOut, contents, hcondition, Multiset.singleton_add]
    using htotal.leave (contentsAll orelse)

/-- Every statement is accounted for. -/
theorem accounted (stmt : Stmt) : Accounted chart stmt := by
  induction stmt using nestedInduction with
  | single stmt box hbox => exact accounted_single hbox
  | ifElse test body orelse hbody horelse => exact accounted_ifElse hbody horelse
  | whileLoop test body orelse refusal hbody => exact accounted_whileLoop hbody
  | skip =>
      intro u lo v hi hshows
      rw [Chart.Shows] at hshows
      rw [hshows.2]
      simpa [leftOut, contents] using Accounts.refl lo
  | program body hbody =>
      intro u lo v hi hshows
      rw [Chart.Shows] at hshows
      obtain ⟨bodyEnd, hall, -, hstop, rfl⟩ := hshows
      simpa [leftOut, contents] using (accounts_all hbody hall).trans (accounts_other hstop rfl)
  | refused refusal =>
      intro u lo v hi hshows
      rw [Chart.Shows] at hshows
      exact hshows.elim

end Stmt

namespace Chart.Depicts

/-! ### The chart of a program -/

variable {chart : Chart} {body : List Stmt} {last : NodeId} (h : chart.Depicts body last)

include h

/-- The nodes that are reached from the start of a program are all there are. -/
theorem reaches_iff (v : NodeId) : chart.Reaches 0 v ↔ v < chart.size := by
  obtain ⟨start, hstart, -⟩ := h.built.start
  exact ⟨h.built.toTidy.lt_size_of_reaches (lt_size hstart), h.built.connected⟩

/-- What is drawn of a program and what is left out are together what it says. -/
theorem drawn_add_leftOut :
    (chart.drawn 0 chart.size).map .ok + Stmt.leftOutAll body = Stmt.contentsAll body := by
  -- The first node is the start, which belongs to no statement.
  have hprogram := Stmt.accounted (.program body) 0 1 last chart.size h.shows
  have htotal := (Stmt.accounts_other h.built.start rfl).trans hprogram
  rw [Stmt.leftOut, Stmt.contents, zero_add, zero_add] at htotal
  exact htotal.balance

end Chart.Depicts

end Flowchart
