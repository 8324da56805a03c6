import Flowchart.Proofs.Chart.Cells
import Flowchart.Proofs.Draft.Picture
import Mathlib.Data.List.Forall2

/-!
# `Flowchart.Proofs.Draft.Plan`: the cells of a program, by its statements alone

`Stmt.planned` is a recursion on the statements, without a chart: it lists the nodes of a statement
in the order in which they are drawn, each with its box and its cell.  A side for `yes` has a column
of its own, so that the column of a node is the number of bodies of conditions around it
(`Stmt.columnsFit`), and exactly the heads get no cell (`Stmt.cell_eq_none_iff`).

A chart drawn for a console consists of the planned nodes (`Chart.Realizes`): they have the planned
boxes, every one but the last leads on to later nodes, and only conditions lead to heads.
-/

set_option autoImplicit false

namespace Flowchart

/-! ### A plan by the statements alone -/

/-- A node as it is planned: its box, and its cell unless it gets none. -/
structure Planned where
  box : Except Refusal Box
  cell : Option Cell

namespace Stmt

mutual

/-- The row in which it goes on after a statement that begins in the given row. -/
def rowAfter : Stmt → Nat → Nat
  | .read _, row | .assign _ _, row | .update _ _ _, row | .perform _ _ _, row => row + 1
  | .ifElse _ _ orelse, row => rowAfterAll orelse (row + 1) + 1
  | .program body, row => rowAfterAll body row
  | .whileLoop _ _ _ _, row | .skip, row | .refused _, row => row

/-- The row in which it goes on after several statements. -/
def rowAfterAll : List Stmt → Nat → Nat
  | [], row => row
  | stmt :: rest, row => rowAfterAll rest (stmt.rowAfter row)

end

mutual

/-- The nodes of a statement that begins in the given cell, in the order in which they are drawn.
The body of a condition begins beside it and has a column of its own, the other side begins below
it, and the join stands below that side. -/
def planned : Stmt → (row column : Nat) → List Planned
  | .read target, row, column => [⟨readBox target, some ⟨row, column⟩⟩]
  | .assign target value, row, column => [⟨assignBox target value, some ⟨row, column⟩⟩]
  | .update target sign value, row, column => [⟨updateBox target sign value, some ⟨row, column⟩⟩]
  | .perform function args keywords, row, column =>
    [⟨performBox function args keywords, some ⟨row, column⟩⟩]
  | .ifElse test body orelse, row, column =>
    ⟨conditionBox test, some ⟨row, column⟩⟩ ::
      (⟨.ok .head, none⟩ :: plannedAll body row (column + 1)) ++
      (⟨.ok .head, none⟩ :: plannedAll orelse (row + 1) column) ++
      [⟨.ok .join, some ⟨rowAfterAll orelse (row + 1), column⟩⟩]
  | .program body, row, column => plannedAll body row column
  | .whileLoop _ _ _ _, _, _ | .skip, _, _ | .refused _, _, _ => []

/-- The nodes of several statements. -/
def plannedAll : List Stmt → (row column : Nat) → List Planned
  | [], _, _ => []
  | stmt :: rest, row, column =>
    stmt.planned row column ++ plannedAll rest (stmt.rowAfter row) column

end

mutual

/-- For each node of a statement, in the order in which they are drawn, how many bodies of
conditions within the statement are around it. -/
def enclosing : Stmt → List Nat
  | .read _ | .assign _ _ | .update _ _ _ | .perform _ _ _ => [0]
  | .ifElse _ body orelse =>
    0 :: (0 :: enclosingAll body).map (· + 1) ++ (0 :: enclosingAll orelse) ++ [0]
  | .program body => enclosingAll body
  | .whileLoop _ _ _ _ | .skip | .refused _ => []

/-- For each node of several statements, how many bodies of conditions are around it. -/
def enclosingAll : List Stmt → List Nat
  | [] => []
  | stmt :: rest => enclosing stmt ++ enclosingAll rest

end

/-- A statement that is drawn as one box takes one row. -/
theorem rowAfter_single {stmt : Stmt} {box : Except Refusal Box} (h : stmt.box? = some box)
    (row : Nat) : stmt.rowAfter row = row + 1 := by
  cases stmt <;> cases h <;> rfl

/-- A statement that is drawn as one box is planned as one node. -/
theorem planned_single {stmt : Stmt} {box : Except Refusal Box} (h : stmt.box? = some box)
    (row column : Nat) : stmt.planned row column = [⟨box, some ⟨row, column⟩⟩] := by
  cases stmt <;> cases h <;> rfl

/-- No body is around the only node of a statement. -/
theorem enclosing_single {stmt : Stmt} {box : Except Refusal Box} (h : stmt.box? = some box) :
    stmt.enclosing = [0] := by
  cases stmt <;> cases h <;> rfl

/-- The column of a node is that of its statement and one more for each body around it. -/
def ColumnsFit (column : Nat) : List Planned → List Nat → Prop :=
  List.Forall₂ fun entry depth => ∀ cell, entry.cell = some cell → cell.column = column + depth

/-- The columns of statements fit if those of each of them do. -/
theorem columnsFit_all {stmts : List Stmt}
    (h : ∀ stmt ∈ stmts, ∀ row column, ColumnsFit column (stmt.planned row column) stmt.enclosing)
    (row column : Nat) : ColumnsFit column (plannedAll stmts row column) (enclosingAll stmts) := by
  induction stmts generalizing row with
  | nil => exact .nil
  | cons stmt rest ih =>
      exact List.rel_append (h stmt List.mem_cons_self row column)
        (ih (fun s hs => h s (List.mem_cons_of_mem _ hs)) _)

/-- The column of a planned node is that of its statement and one more for each body around it. -/
theorem columnsFit (stmt : Stmt) (row column : Nat) :
    ColumnsFit column (stmt.planned row column) stmt.enclosing := by
  induction stmt using nestedInduction generalizing row column with
  | single stmt box hbox =>
      rw [planned_single hbox, enclosing_single hbox]
      refine .cons ?_ .nil
      intro cell hcell
      cases hcell
      rfl
  | ifElse test body orelse hbody horelse =>
      have hyes := columnsFit_all hbody row (column + 1)
      have hno := columnsFit_all horelse (row + 1) column
      -- In the column beside, one body more is around everything.
      have hbeside : ColumnsFit column (plannedAll body row (column + 1))
          ((enclosingAll body).map (· + 1)) := by
        refine List.forall₂_map_right_iff.mpr (hyes.imp fun entry depth hentry cell hcell => ?_)
        rw [hentry cell hcell]
        omega
      rw [planned, enclosing]
      refine List.rel_append (List.rel_append (.cons ?_ (.cons ?_ hbeside)) (.cons ?_ hno))
        (.cons ?_ .nil)
      all_goals
        intro cell hcell
        cases hcell
      · rfl
      · rfl
  | whileLoop | skip | refused => exact .nil
  | program body hbody => exact columnsFit_all hbody row column

/-- Exactly the heads among the nodes of statements get no cell if that holds of each statement. -/
theorem cell_eq_none_iff_all {stmts : List Stmt}
    (h : ∀ stmt ∈ stmts, ∀ row column, ∀ entry ∈ stmt.planned row column,
      entry.cell = none ↔ entry.box = .ok .head) (row column : Nat) :
    ∀ entry ∈ plannedAll stmts row column, entry.cell = none ↔ entry.box = .ok .head := by
  induction stmts generalizing row with
  | nil =>
      intro entry hentry
      cases hentry
  | cons stmt rest ih =>
      intro entry hentry
      rw [plannedAll] at hentry
      rcases List.mem_append.mp hentry with hentry | hentry
      · exact h stmt List.mem_cons_self row column entry hentry
      · exact ih (fun s hs => h s (List.mem_cons_of_mem _ hs)) _ entry hentry

/-- In the plan of a statement exactly the heads get no cell. -/
theorem cell_eq_none_iff (stmt : Stmt) (row column : Nat) :
    ∀ entry ∈ stmt.planned row column, entry.cell = none ↔ entry.box = .ok .head := by
  induction stmt using nestedInduction generalizing row column with
  | single stmt box hbox =>
      intro entry hentry
      rw [planned_single hbox, List.mem_singleton] at hentry
      subst hentry
      refine ⟨fun h => ?_, fun h => ?_⟩
      · cases h
      · -- The box of a statement is no joint, and so no head.
        have hjoint := (box?_plain (hbox.trans (congrArg some h))).2
        cases hjoint
  | ifElse test body orelse hbody horelse =>
      intro entry hentry
      have hyes := cell_eq_none_iff_all hbody row (column + 1)
      have hno := cell_eq_none_iff_all horelse (row + 1) column
      -- Nor is that of a condition.
      have hcond : conditionBox test ≠ .ok .head := by
        intro h
        have := isCondition_conditionBox h
        cases this
      rw [planned] at hentry
      simp only [List.mem_append, List.mem_cons, List.not_mem_nil, or_false] at hentry
      rcases hentry with ((rfl | rfl | hentry) | rfl | hentry) | rfl
      · simp [hcond]
      · simp
      · exact hyes entry hentry
      · simp
      · exact hno entry hentry
      · simp
  | whileLoop | skip | refused =>
      intro entry hentry
      cases hentry
  | program body hbody => exact cell_eq_none_iff_all hbody row column

end Stmt

/-! ### The nodes of a console chart -/

namespace Chart

/-- A node leads on to a later box that is no head, or branches to two later heads. -/
inductive Onward (chart : Chart) (v : Nat) : Prop
  | next {w : Nat} {box : Box} (hnext : chart.Next v w) (hlt : v < w) (hbox : chart.Holds w box)
      (hne : box ≠ .head)
  | fork {no yes : Nat} (hforks : chart.Forks v no yes) (hno : v < no) (hyes : v < yes)
      (hnoBox : chart.Holds no .head) (hyesBox : chart.Holds yes .head)

/-- The nodes from `lo` on have the planned boxes. -/
def HoldsAll (chart : Chart) : Nat → List Planned → Prop
  | _, [] => True
  | lo, entry :: rest =>
    (∃ box, entry.box = .ok box ∧ chart.Holds lo box) ∧ chart.HoldsAll (lo + 1) rest

/-- The nodes of two plans, the second of which goes on where the first one ends. -/
theorem holdsAll_append (chart : Chart) (lo : Nat) (plan plan' : List Planned) :
    chart.HoldsAll lo (plan ++ plan')
      ↔ chart.HoldsAll lo plan ∧ chart.HoldsAll (lo + plan.length) plan' := by
  induction plan generalizing lo with
  | nil => simp [HoldsAll]
  | cons entry rest ih =>
      simp only [List.cons_append, HoldsAll, ih, and_assoc, List.length_cons]
      rw [Nat.add_assoc, Nat.add_comm 1]

/-- The nodes from `lo` up to `hi` are the planned ones, with the node `u` before them and the node
`v` as the last of all these. -/
structure Realizes (chart : Chart) (plan : List Planned) (u lo v hi : Nat) : Prop where
  size : hi = lo + plan.length
  boxes : chart.HoldsAll lo plan
  first : v = u ∨ ∃ w, chart.Next u w
  last : v = u ∨ lo ≤ v ∧ v < hi ∧ ∃ box, chart.Holds v box ∧ box ≠ .head
  onward : ∀ w, w = u ∨ lo ≤ w ∧ w < hi → w ≠ v → chart.Onward w

/-- An empty plan has no nodes. -/
theorem Realizes.nil (chart : Chart) (u lo : Nat) : chart.Realizes [] u lo u lo where
  size := rfl
  boxes := trivial
  first := Or.inl rfl
  last := Or.inl rfl
  onward := by
    intro w hw hne
    omega

/-- The last of the nodes is before those that are drawn next. -/
theorem Realizes.last_lt {chart : Chart} {plan : List Planned} {u lo v hi : Nat}
    (h : chart.Realizes plan u lo v hi) (hlt : u < lo) : v < hi := by
  have hsize := h.size
  rcases h.last with rfl | ⟨-, hlast, -⟩
  · omega
  · exact hlast

/-- The node before the planned ones leads on if the last one does. -/
theorem Realizes.exists_next {chart : Chart} {plan : List Planned} {u lo v hi w : Nat}
    (h : chart.Realizes plan u lo v hi) (hnext : chart.Next v w) : ∃ w', chart.Next u w' := by
  rcases h.first with rfl | hfirst
  · exact ⟨w, hnext⟩
  · exact hfirst

/-- Two plans one after the other are realized as one. -/
theorem Realizes.append {chart : Chart} {plan plan' : List Planned} {u lo mid next v hi : Nat}
    (h : chart.Realizes plan u lo mid next) (h' : chart.Realizes plan' mid next v hi) :
    chart.Realizes (plan ++ plan') u lo v hi where
  size := by rw [h'.size, h.size, List.length_append, Nat.add_assoc]
  boxes := by
    have hnext := h'.boxes
    rw [h.size] at hnext
    exact (holdsAll_append chart lo plan plan').mpr ⟨h.boxes, hnext⟩
  first := by
    rcases h.first with rfl | hnext
    · exact h'.first
    · exact Or.inr hnext
  last := by
    have hle := h.size
    have hle' := h'.size
    -- The last node is that of the second plan, unless this is empty.
    rcases h'.last with rfl | ⟨hlo, hhi, hbox⟩
    · rcases h.last with rfl | ⟨hlo, hhi, hbox⟩
      · exact Or.inl rfl
      · exact Or.inr ⟨hlo, by omega, hbox⟩
    · exact Or.inr ⟨by omega, hhi, hbox⟩
  onward := by
    intro w hw hne
    -- The node in the middle is the last one of the first plan and the one before the second.
    by_cases hmid : w = mid
    · exact h'.onward w (Or.inl hmid) hne
    · by_cases hlt : w < next ∨ w = u
      · exact h.onward w (by omega) hmid
      · exact h'.onward w (by omega) hne

end Chart

namespace Stmt

/-- The nodes of a statement are the planned ones. -/
def Realized (stmt : Stmt) : Prop :=
  ∀ (chart : Chart) (u lo v hi : Nat), u < lo → chart.Shows .console stmt u lo v hi →
    ∀ row column, chart.Realizes (stmt.planned row column) u lo v hi

/-- Statements are the planned nodes if each of them is. -/
theorem realizes_all {stmts : List Stmt} (h : ∀ stmt ∈ stmts, Realized stmt) {chart : Chart}
    {u lo v hi : Nat} (hlt : u < lo) (hshows : chart.ShowsAll .console stmts u lo v hi)
    (row column : Nat) : chart.Realizes (plannedAll stmts row column) u lo v hi := by
  induction stmts generalizing u lo row with
  | nil =>
      rw [Chart.ShowsAll] at hshows
      obtain ⟨rfl, rfl⟩ := hshows
      exact Chart.Realizes.nil chart v hi
  | cons stmt rest ih =>
      rw [Chart.ShowsAll] at hshows
      obtain ⟨mid, next, hfirst, hrest⟩ := hshows
      have hstmt := h stmt List.mem_cons_self chart u lo mid next hlt hfirst row column
      exact hstmt.append
        (ih (fun s hs => h s (List.mem_cons_of_mem _ hs)) (hstmt.last_lt hlt) hrest _)

/-- A statement that is drawn as one box is the planned node. -/
theorem realized_single {stmt : Stmt} {box : Except Refusal Box} (hbox : stmt.box? = some box) :
    Realized stmt := by
  intro chart u lo v hi hlt hshows row column
  rw [Chart.shows_single hbox] at hshows
  obtain ⟨shown, rfl, hnext, hholds, rfl, rfl⟩ := hshows
  -- Heads come from conditions and loops only.
  have hne : shown ≠ .head := by
    rintro rfl
    have hjoint := (box?_plain hbox).2
    cases hjoint
  rw [planned_single hbox]
  refine ⟨rfl, ⟨⟨shown, rfl, hholds⟩, trivial⟩, Or.inr ⟨_, hnext⟩,
    Or.inr ⟨Nat.le_refl _, Nat.lt_succ_self _, shown, hholds, hne⟩, ?_⟩
  intro w hw hw'
  have hu : w = u := by omega
  subst hu
  exact .next hnext hlt hholds hne

/-- A condition is the planned nodes if the statements on its two sides are. -/
theorem realized_ifElse {test : Expr} {body orelse : List Stmt}
    (hbody : ∀ stmt ∈ body, Realized stmt) (horelse : ∀ stmt ∈ orelse, Realized stmt) :
    Realized (.ifElse test body orelse) := by
  intro chart u lo v hi hlt hshows row column
  rw [Chart.Shows] at hshows
  obtain ⟨box, yesEnd, no, noEnd, hbox, hnext, hholds, hforks, hyesBox, hyes, hnoBox, hno, hyesNext,
    hnoNext, hjoin, rfl⟩ := hshows
  have hyes := realizes_all hbody (Nat.lt_succ_self _) hyes row (column + 1)
  have hno := realizes_all horelse (Nat.lt_succ_self _) hno (row + 1) column
  have hyesSize := hyes.size
  have hnoSize := hno.size
  have hne : box ≠ .head := by
    rintro rfl
    have hcond := isCondition_conditionBox hbox
    cases hcond
  refine ⟨?_, ?_, Or.inr ⟨lo, hnext⟩,
    Or.inr ⟨by omega, Nat.lt_succ_self _, .join, hjoin, by decide⟩, ?_⟩
  · rw [planned]
    simp only [List.length_append, List.length_cons, List.length_nil]
    omega
  · rw [planned]
    -- The plan counts from the condition on, and the chart numbers its nodes in this order.
    have hnoAt : lo + ((plannedAll body row (column + 1)).length + 1 + 1) = no := by omega
    have hjoinAt : lo + ((plannedAll body row (column + 1)).length + 1 + 1 +
        ((plannedAll orelse (row + 1) column).length + 1)) = v := by omega
    simp only [Chart.holdsAll_append, Chart.HoldsAll, List.length_append, List.length_cons, hnoAt,
      hjoinAt]
    exact ⟨⟨⟨⟨box, hbox, hholds⟩, ⟨.head, rfl, hyesBox⟩, hyes.boxes⟩,
      ⟨.head, rfl, hnoBox⟩, hno.boxes⟩, ⟨.join, rfl, hjoin⟩, trivial⟩
  · intro w hw hwv
    have hnoLast := hno.last_lt (Nat.lt_succ_self _)
    have hyesLast := hyes.last_lt (Nat.lt_succ_self _)
    -- Which part of the condition the node is in.
    by_cases hu : w = u
    · subst hu
      exact .next hnext hlt hholds hne
    by_cases hcond : w = lo
    · subst hcond
      exact .fork hforks (by omega) (by omega) hnoBox hyesBox
    by_cases hyesEnd : w = yesEnd
    · subst hyesEnd
      exact .next hyesNext (by omega) hjoin (by decide)
    by_cases hnoEnd : w = noEnd
    · subst hnoEnd
      exact .next hnoNext hnoLast hjoin (by decide)
    by_cases hside : w < no
    · exact hyes.onward w (by omega) hyesEnd
    · exact hno.onward w (by omega) hnoEnd

/-- A console chart shows a statement as the planned nodes. -/
theorem realized (stmt : Stmt) : Realized stmt := by
  induction stmt using nestedInduction with
  | single stmt box hbox => exact realized_single hbox
  | ifElse test body orelse hbody horelse => exact realized_ifElse hbody horelse
  -- There are no loops on a console.
  | whileLoop test body orelse refusal hbody =>
      intro chart u lo v hi hlt hshows
      rw [Chart.Shows] at hshows
      cases hshows.1
  | skip =>
      intro chart u lo v hi hlt hshows row column
      rw [Chart.Shows] at hshows
      obtain ⟨rfl, rfl⟩ := hshows
      exact Chart.Realizes.nil chart v hi
  | program body hbody =>
      intro chart u lo v hi hlt hshows row column
      rw [Chart.Shows] at hshows
      exact realizes_all hbody hlt hshows row column
  | refused refusal =>
      intro chart u lo v hi hlt hshows
      rw [Chart.Shows] at hshows
      cases hshows

end Stmt

end Flowchart
