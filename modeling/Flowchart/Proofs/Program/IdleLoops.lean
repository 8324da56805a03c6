import Flowchart.Command.Graph
import Flowchart.Proofs.Chart.Silence
import Flowchart.Proofs.Draft.Picture

/-!
# `Flowchart.Proofs.Program.IdleLoops`: the programs whose charts can be pruned

Pruning ends if and only if there is no endless way through joints and conditions
(`Flowchart.Proofs.Chart.Silence`).  This module says which programs have such a way in their
charts.

Statements are passable if a run may get through them without coming upon a box other than a
condition: statements that have no part in the chart, loops, and conditions with a passable side.  A
loop with a passable body is idle.

* `Stmt.settling`: a statement without idle loops leaves the ways quiet.  A loop that is not idle
  has a box on every way through its body, and the way from its condition out of the loop is that of
  the statements behind it.
* `Stmt.circles`: an idle loop has a way from its condition through its body back to its condition
  (`Stmt.sliding` is the way past a passable statement).
* So pruning ends for programs without idle loops (`Command.exists_pruned_of_not_idle`) and for no
  others (`Command.pruned_eq_endless_of_idle`).

All of it is by induction on statements, from what `Chart.Shows` says about the place where a
statement stands.
-/

set_option autoImplicit false

namespace Flowchart

namespace Chart

/-! ### Ways through light nodes -/

/-- The nodes that the node leads to are quiet. -/
def Calm (chart : Chart) (u : NodeId) : Prop :=
  ∀ w, chart.Leads u (.node w) → chart.Quiet w

/-- A node is quiet if those that it leads to are. -/
theorem Calm.quiet {chart : Chart} {u : NodeId} (h : chart.Calm u) : chart.Quiet u :=
  Acc.intro u fun w hw => h w hw.2

/-- A node that leads on to a quiet one leads to quiet nodes only. -/
theorem Next.calm {chart : Chart} {u v : NodeId} (h : chart.Next u v) (hv : chart.Quiet v) :
    chart.Calm u := by
  intro w hw
  cases h.eq_of_leads hw
  exact hv

/-- A condition is quiet if both of its sides are. -/
theorem Forks.quiet {chart : Chart} {u no yes : NodeId} (h : chart.Forks u no yes)
    (hno : chart.Quiet no) (hyes : chart.Quiet yes) : chart.Quiet u := by
  obtain ⟨node, hnode, hexit⟩ := h
  refine Acc.intro u fun w hw => ?_
  have hmem := hw.2.mem hnode
  simp only [hexit, Exit.links, List.mem_cons, List.not_mem_nil, or_false, Link.node.injEq] at hmem
  rcases hmem with rfl | rfl
  · exact hno
  · exact hyes

/-- The two sides of a condition stand behind it. -/
theorem Forks.behind {chart : Chart} {u no yes : NodeId} (h : chart.Forks u no yes) :
    chart.Behind no u ∧ chart.Behind yes u := by
  obtain ⟨node, hnode, hexit⟩ := h
  -- A condition is a light node, whatever is on its sides.
  have hlight : chart.Light u := ⟨node, hnode, Or.inr (by rw [hexit]; rfl)⟩
  exact ⟨⟨hlight, node, hnode, by simp [hexit, Exit.links]⟩,
    ⟨hlight, node, hnode, by simp [hexit, Exit.links]⟩⟩

/-- A box that is neither a joint nor a condition ends every way through light nodes. -/
theorem Tidy.not_light_of_holds {chart : Chart} (h : chart.Tidy) {v : NodeId} {box : Box}
    (hv : chart.Holds v box) (hjoint : box.isJoint = false) (hcond : box.isCondition = false) :
    ¬ chart.Light v := by
  obtain ⟨node, hnode, rfl⟩ := hv
  rintro ⟨found, hfound, hlight⟩
  rw [hnode] at hfound
  cases hfound
  rcases hlight with hlight | hbranch
  · rw [hjoint] at hlight
    exact nomatch hlight
  · rw [h.condition hnode hbranch] at hcond
    exact nomatch hcond

/-- Joints are light nodes. -/
theorem Holds.light {chart : Chart} {v : NodeId} {box : Box} (hv : chart.Holds v box)
    (hjoint : box.isJoint = true) : chart.Light v := by
  obtain ⟨node, hnode, rfl⟩ := hv
  exact ⟨node, hnode, Or.inl hjoint⟩

end Chart

namespace Stmt

/-! ### Idle loops -/

mutual

/-- Whether a run may get through a statement without coming upon a box other than a condition. -/
def isPassable : Stmt → Bool
  | .skip | .whileLoop _ _ _ _ => true
  | .ifElse _ body orelse => arePassable body || arePassable orelse
  | _ => false

/-- Whether a run may get through several statements so. -/
def arePassable : List Stmt → Bool
  | [] => true
  | stmt :: rest => stmt.isPassable && arePassable rest

end

mutual

/-- Whether a statement is or holds, at any depth, a loop whose body is passable.  What a loop does
in the end has no part in its chart. -/
def hasIdleLoop : Stmt → Bool
  | .ifElse _ body orelse => haveIdleLoop body || haveIdleLoop orelse
  | .whileLoop _ body _ _ => arePassable body || haveIdleLoop body
  | .program body => haveIdleLoop body
  | _ => false

/-- Whether one of several statements is or holds such a loop. -/
def haveIdleLoop : List Stmt → Bool
  | [] => false
  | stmt :: rest => stmt.hasIdleLoop || haveIdleLoop rest

end

/-- A statement that stands for one box is not passable, and no loop. -/
theorem isPassable_of_box? {stmt : Stmt} {box : Except Refusal Box} (h : stmt.box? = some box) :
    stmt.isPassable = false ∧ stmt.hasIdleLoop = false := by
  cases stmt <;> cases h <;> exact ⟨rfl, rfl⟩

/-- The nodes of a condition with two sides: the condition, the head and the body of `yes`, the head
and the body of `no`, and the join. -/
theorem split_ifElse {lo v w : Nat} (no : Nat) (hlo : lo ≤ w) (hhi : w < v + 1) :
    w = lo ∨ w = lo + 1 ∨ (lo + 2 ≤ w ∧ w < no) ∨ w = no ∨ (no + 1 ≤ w ∧ w < v) ∨ w = v := by
  omega

/-- The nodes of a loop: the join at the top, the condition, the head and the body of `yes`, and the
head of `no`. -/
theorem split_whileLoop {lo v w : Nat} (hlo : lo ≤ w) (hhi : w < v + 1) :
    w = lo ∨ w = lo + 1 ∨ w = lo + 2 ∨ (lo + 3 ≤ w ∧ w < v) ∨ w = v := by
  omega

/-- What holds where statements without idle loops stand between the nodes `u` and `v`: the way into
them is quiet if the way on from them is, or if they are not passable; and if the way on is quiet,
so are all of their nodes. -/
structure Settles (chart : Chart) (passable : Bool) (u lo v hi : NodeId) : Prop where
  calm : (passable = true → chart.Calm v) → chart.Calm u
  quiet : chart.Calm v → ∀ w, lo ≤ w → w < hi → chart.Quiet w

/-- A statement without idle loops settles wherever it stands. -/
def Settling (chart : Chart) (stmt : Stmt) : Prop :=
  ∀ u lo v hi, chart.Shows .graph stmt u lo v hi → stmt.hasIdleLoop = false →
    Settles chart stmt.isPassable u lo v hi

/-- Statements settle if each of them does. -/
theorem settles_all {chart : Chart} {stmts : List Stmt} (h : ∀ stmt ∈ stmts, Settling chart stmt)
    {u lo v hi : NodeId} (hshows : chart.ShowsAll .graph stmts u lo v hi)
    (hidle : haveIdleLoop stmts = false) : Settles chart (arePassable stmts) u lo v hi := by
  induction stmts generalizing u lo with
  | nil =>
      rw [Chart.ShowsAll] at hshows
      obtain ⟨rfl, rfl⟩ := hshows
      exact ⟨fun hcalm => hcalm rfl, fun _ w hw hw' => absurd hw' (Nat.not_lt.mpr hw)⟩
  | cons stmt rest ih =>
      rw [Chart.ShowsAll] at hshows
      obtain ⟨mid, next, hstmt, hrest⟩ := hshows
      rw [haveIdleLoop, Bool.or_eq_false_iff] at hidle
      have hfirst := h stmt List.mem_cons_self u lo mid next hstmt hidle.1
      have hsecond := ih (fun s hs => h s (List.mem_cons_of_mem _ hs)) hrest hidle.2
      constructor
      · intro hcalm
        -- All are passable if the first one and the others are.
        refine hfirst.calm fun hpass => hsecond.calm fun hpass' => hcalm ?_
        rw [arePassable, hpass, hpass']
        rfl
      · intro hcalm w hlo hhi
        -- The nodes of the first statement come before those of the others.
        by_cases hnext : w < next
        · exact hfirst.quiet (hsecond.calm fun _ => hcalm) w hlo hnext
        · exact hsecond.quiet hcalm w (Nat.le_of_not_lt hnext) hhi

variable {chart : Chart} (htidy : chart.Tidy)

include htidy in
/-- A statement that is drawn as one box settles: the box ends every way. -/
theorem settling_single {stmt : Stmt} {box : Except Refusal Box} (h : stmt.box? = some box) :
    Settling chart stmt := by
  intro u lo v hi hshows _
  rw [Chart.shows_single h] at hshows
  obtain ⟨shown, rfl, hnext, hholds, rfl, rfl⟩ := hshows
  obtain ⟨hcond, hjoint⟩ := box?_plain h
  have hquiet := Chart.quiet_of_not_light (htidy.not_light_of_holds hholds hjoint hcond)
  refine ⟨fun _ => hnext.calm hquiet, fun _ w hlo hhi => ?_⟩
  rw [Nat.le_antisymm (Nat.le_of_lt_succ hhi) hlo]
  exact hquiet

/-- A condition settles if the statements on its two sides do. -/
theorem settling_ifElse {test : Expr} {body orelse : List Stmt}
    (hbody : ∀ stmt ∈ body, Settling chart stmt) (horelse : ∀ stmt ∈ orelse, Settling chart stmt) :
    Settling chart (.ifElse test body orelse) := by
  intro u lo v hi hshows hidle
  rw [Chart.Shows] at hshows
  obtain ⟨box, yesEnd, no, noEnd, -, hnext, -, hforks, -, hyes, -, hno, hyesEnd, hnoEnd, -, rfl⟩ :=
    hshows
  rw [hasIdleLoop, Bool.or_eq_false_iff] at hidle
  have hfirst := settles_all hbody hyes hidle.1
  have hsecond := settles_all horelse hno hidle.2
  constructor
  · -- A side that is passable ends at the join, from which the way on is quiet.
    intro hcalm
    have hyesCalm := hfirst.calm fun hpass =>
      hyesEnd.calm (hcalm (by rw [isPassable, hpass]; rfl)).quiet
    have hnoCalm := hsecond.calm fun hpass =>
      hnoEnd.calm (hcalm (by rw [isPassable, hpass, Bool.or_true])).quiet
    exact hnext.calm (hforks.quiet hnoCalm.quiet hyesCalm.quiet)
  · intro hcalm w hlo hhi
    have hyesEndCalm := hyesEnd.calm hcalm.quiet
    have hnoEndCalm := hnoEnd.calm hcalm.quiet
    have hyesCalm := hfirst.calm fun _ => hyesEndCalm
    have hnoCalm := hsecond.calm fun _ => hnoEndCalm
    -- One part of the condition after the other.
    rcases split_ifElse no hlo hhi with rfl | rfl | ⟨hlo', hhi'⟩ | rfl | ⟨hlo', hhi'⟩ | rfl
    · exact hforks.quiet hnoCalm.quiet hyesCalm.quiet
    · exact hyesCalm.quiet
    · exact hfirst.quiet hyesEndCalm w hlo' hhi'
    · exact hnoCalm.quiet
    · exact hsecond.quiet hnoEndCalm w hlo' hhi'
    · exact hcalm.quiet

/-- A loop settles if the statements of its body do. -/
theorem settling_whileLoop {test : Expr} {body orelse : List Stmt} {refusal : Refusal}
    (hbody : ∀ stmt ∈ body, Settling chart stmt) :
    Settling chart (.whileLoop test body orelse refusal) := by
  intro u lo v hi hshows hidle
  rw [Chart.Shows] at hshows
  obtain ⟨-, box, bodyEnd, -, hnext, -, htop, -, hforks, -, hyes, hback, -, rfl⟩ := hshows
  rw [hasIdleLoop, Bool.or_eq_false_iff] at hidle
  have hfirst := settles_all hbody hyes hidle.2
  -- The body is not passable, so its way does not come back to the top without a box.
  have hyesCalm := hfirst.calm fun hpass => by
    rw [hidle.1] at hpass
    cases hpass
  have hcond : chart.Calm v → chart.Quiet (lo + 1) := fun hcalm =>
    hforks.quiet hcalm.quiet hyesCalm.quiet
  constructor
  · -- A loop is passable: its condition may fail at once.
    exact fun hcalm => hnext.calm (htop.calm (hcond (hcalm rfl))).quiet
  · intro hcalm w hlo hhi
    have htopQuiet := (htop.calm (hcond hcalm)).quiet
    rcases split_whileLoop hlo hhi with rfl | rfl | rfl | ⟨hlo', hhi'⟩ | rfl
    · exact htopQuiet
    · exact hcond hcalm
    · exact hyesCalm.quiet
    · exact hfirst.quiet (hback.calm htopQuiet) w hlo' hhi'
    · exact hcalm.quiet

include htidy in
/-- A program settles if its statements do. -/
theorem settling_program {body : List Stmt} (hbody : ∀ stmt ∈ body, Settling chart stmt) :
    Settling chart (.program body) := by
  intro u lo v hi hshows hidle
  rw [Chart.Shows] at hshows
  obtain ⟨bodyEnd, hall, hstop, hholds, rfl⟩ := hshows
  rw [hasIdleLoop] at hidle
  have hfirst := settles_all hbody hall hidle
  have hquiet := Chart.quiet_of_not_light (htidy.not_light_of_holds hholds rfl rfl)
  refine ⟨fun _ => hfirst.calm fun _ => hstop.calm hquiet, fun _ w hlo hhi => ?_⟩
  rcases Nat.lt_succ_iff_lt_or_eq.mp hhi with hlt | rfl
  · exact hfirst.quiet (hstop.calm hquiet) w hlo hlt
  · exact hquiet

include htidy in
/-- Every statement without idle loops settles. -/
theorem settling (stmt : Stmt) : Settling chart stmt := by
  induction stmt using nestedInduction with
  | single stmt box hbox => exact settling_single htidy hbox
  | ifElse test body orelse hbody horelse => exact settling_ifElse hbody horelse
  | whileLoop test body orelse refusal hbody => exact settling_whileLoop hbody
  | skip =>
      intro u lo v hi hshows _
      rw [Chart.Shows] at hshows
      obtain ⟨rfl, rfl⟩ := hshows
      exact ⟨fun hcalm => hcalm rfl, fun _ w hw hw' => absurd hw' (Nat.not_lt.mpr hw)⟩
  | program body hbody => exact settling_program htidy hbody
  | refused refusal =>
      intro u lo v hi hshows _
      rw [Chart.Shows] at hshows
      exact hshows.elim

/-! ### Ways past a passable statement -/

/-- Whatever `v` leads to stands behind what `u` leads to. -/
def Slides (chart : Chart) (u v : NodeId) : Prop :=
  ∀ w, chart.Leads v (.node w) →
    ∃ x, chart.Leads u (.node x) ∧ Relation.ReflTransGen chart.Behind w x

/-- A passable statement is one that a way through light nodes may pass, wherever it stands. -/
def Sliding (chart : Chart) (stmt : Stmt) : Prop :=
  ∀ u lo v hi, chart.Shows .graph stmt u lo v hi → stmt.isPassable = true → Slides chart u v

/-- A way without nodes can be passed. -/
theorem Slides.refl (u : NodeId) : Slides chart u u :=
  fun w hw => ⟨w, hw, Relation.ReflTransGen.refl⟩

/-- Two ways that can be passed, one after the other, can be passed as one. -/
theorem Slides.trans {u v w : NodeId} (huv : Slides chart u v) (hvw : Slides chart v w) :
    Slides chart u w := by
  intro x hx
  obtain ⟨y, hy, hxy⟩ := hvw x hx
  obtain ⟨z, hz, hyz⟩ := huv y hy
  exact ⟨z, hz, hxy.trans hyz⟩

/-- Passable statements can be passed if each of them can. -/
theorem slides_all {stmts : List Stmt} (h : ∀ stmt ∈ stmts, Sliding chart stmt) {u lo v hi : NodeId}
    (hshows : chart.ShowsAll .graph stmts u lo v hi) (hpass : arePassable stmts = true) :
    Slides chart u v := by
  induction stmts generalizing u lo with
  | nil =>
      rw [Chart.ShowsAll] at hshows
      rw [hshows.1]
      exact Slides.refl u
  | cons stmt rest ih =>
      rw [Chart.ShowsAll] at hshows
      obtain ⟨mid, next, hstmt, hrest⟩ := hshows
      rw [arePassable, Bool.and_eq_true] at hpass
      exact (h stmt List.mem_cons_self u lo mid next hstmt hpass.1).trans
        (ih (fun s hs => h s (List.mem_cons_of_mem _ hs)) hrest hpass.2)

/-- The way through one side of a condition to the join: the condition is `lo`, the side begins at
the head `head` and ends at `sideEnd`. -/
theorem slides_side {u lo head sideEnd v : NodeId} (hnext : chart.Next u lo)
    (hhead : chart.Behind head lo) (hholds : chart.Holds head .head)
    (hside : Slides chart head sideEnd) (hend : chart.Next sideEnd v)
    (hjoin : chart.Holds v .join) : Slides chart u v := by
  intro w hw
  obtain ⟨x, hx, hvx⟩ := hside v hend.leads
  have hwv : chart.Behind w v := ⟨hjoin.light rfl, hw⟩
  have hxhead : chart.Behind x head := ⟨hholds.light rfl, hx⟩
  exact ⟨lo, hnext.leads, ((Relation.ReflTransGen.head hwv hvx).tail hxhead).tail hhead⟩

/-- Every passable statement is one that a way through light nodes may pass. -/
theorem sliding (stmt : Stmt) : Sliding chart stmt := by
  induction stmt using nestedInduction with
  | single stmt box hbox =>
      intro u lo v hi _ hpass
      rw [(isPassable_of_box? hbox).1] at hpass
      exact nomatch hpass
  | ifElse test body orelse hbody horelse =>
      intro u lo v hi hshows hpass
      rw [Chart.Shows] at hshows
      obtain ⟨box, yesEnd, no, noEnd, -, hnext, -, hforks, hyesHead, hyes, hnoHead, hno, hyesEnd,
        hnoEnd, hjoin, rfl⟩ := hshows
      rw [isPassable, Bool.or_eq_true] at hpass
      -- The way goes through the side that is passable.
      rcases hpass with hpass | hpass
      · exact slides_side hnext hforks.behind.2 hyesHead (slides_all hbody hyes hpass) hyesEnd hjoin
      · exact slides_side hnext hforks.behind.1 hnoHead (slides_all horelse hno hpass) hnoEnd hjoin
  | whileLoop test body orelse refusal hbody =>
      intro u lo v hi hshows _ w hw
      rw [Chart.Shows] at hshows
      obtain ⟨-, box, bodyEnd, -, hnext, hjoin, htop, -, hforks, -, -, -, hhead, rfl⟩ := hshows
      -- The way goes from the top of the loop to its condition and out of it.
      have hwv : chart.Behind w v := ⟨hhead.light rfl, hw⟩
      have htop' : chart.Behind (lo + 1) lo := ⟨hjoin.light rfl, htop.leads⟩
      exact ⟨lo, hnext.leads, ((Relation.ReflTransGen.single hwv).tail hforks.behind.1).tail htop'⟩
  | skip =>
      intro u lo v hi hshows _
      rw [Chart.Shows] at hshows
      rw [hshows.1]
      exact Slides.refl u
  | program body hbody => exact fun u lo v hi _ hpass => by simp [isPassable] at hpass
  | refused refusal => exact fun u lo v hi _ hpass => by simp [isPassable] at hpass

/-- There is a condition that stands behind itself, with light nodes only on the way. -/
def Circles (chart : Chart) : Prop :=
  ∃ v no yes, chart.Forks v no yes ∧ Relation.TransGen chart.Behind v v

/-- Where statements with an idle loop stand, a condition stands behind itself, if that holds of
each statement. -/
theorem circles_all {stmts : List Stmt}
    (h : ∀ stmt ∈ stmts, ∀ u lo v hi, chart.Shows .graph stmt u lo v hi →
      stmt.hasIdleLoop = true → Circles chart) {u lo v hi : NodeId}
    (hshows : chart.ShowsAll .graph stmts u lo v hi) (hidle : haveIdleLoop stmts = true) :
    Circles chart := by
  induction stmts generalizing u lo with
  | nil => exact nomatch hidle
  | cons stmt rest ih =>
      rw [Chart.ShowsAll] at hshows
      obtain ⟨mid, next, hstmt, hrest⟩ := hshows
      rw [haveIdleLoop, Bool.or_eq_true] at hidle
      -- The idle loop is in the first statement or in a later one.
      rcases hidle with hidle | hidle
      · exact h stmt List.mem_cons_self u lo mid next hstmt hidle
      · exact ih (fun s hs => h s (List.mem_cons_of_mem _ hs)) hrest hidle

/-- Where an idle loop stands, its condition stands behind itself. -/
theorem circles {stmt : Stmt} {u lo v hi : NodeId} (hshows : chart.Shows .graph stmt u lo v hi)
    (hidle : stmt.hasIdleLoop = true) : Circles chart := by
  induction stmt using nestedInduction generalizing u lo v hi with
  | single stmt box hbox =>
      rw [(isPassable_of_box? hbox).2] at hidle
      exact nomatch hidle
  | ifElse test body orelse hbody horelse =>
      rw [Chart.Shows] at hshows
      obtain ⟨box, yesEnd, no, noEnd, -, -, -, -, -, hyes, -, hno, -, -, -, -⟩ := hshows
      rw [hasIdleLoop, Bool.or_eq_true] at hidle
      rcases hidle with hidle | hidle
      · exact circles_all (fun s hs _ _ _ _ => hbody s hs) hyes hidle
      · exact circles_all (fun s hs _ _ _ _ => horelse s hs) hno hidle
  | whileLoop test body orelse refusal hbody =>
      rw [Chart.Shows] at hshows
      obtain ⟨-, box, bodyEnd, -, -, hjoin, htop, -, hforks, hhead, hyes, hback, -, -⟩ := hshows
      rw [hasIdleLoop, Bool.or_eq_true] at hidle
      rcases hidle with hpass | hidle
      · -- From the condition into the body, through it to the top, and to the condition again.
        obtain ⟨x, hx, hlox⟩ := slides_all (fun s _ => sliding s) hyes hpass lo hback.leads
        have hcond : chart.Behind (lo + 1) lo := ⟨hjoin.light rfl, htop.leads⟩
        have hbodyHead : chart.Behind x (lo + 2) := ⟨hhead.light rfl, hx⟩
        exact ⟨lo + 1, v, lo + 2, hforks,
          Relation.TransGen.head' hcond ((hlox.tail hbodyHead).tail hforks.behind.2)⟩
      · exact circles_all (fun s hs _ _ _ _ => hbody s hs) hyes hidle
  | skip => simp [hasIdleLoop] at hidle
  | program body hbody =>
      rw [Chart.Shows] at hshows
      obtain ⟨bodyEnd, hall, -, -, -⟩ := hshows
      rw [hasIdleLoop] at hidle
      exact circles_all (fun s hs _ _ _ _ => hbody s hs) hall hidle
  | refused refusal => simp [hasIdleLoop] at hidle

end Stmt

namespace Chart.Depicts

variable {chart : Chart} {body : List Stmt} {last : NodeId} (h : chart.Depicts body last)

include h

/-- The start of a program is no joint. -/
theorem start_final : chart.beyond? (.node 0) = none := by
  obtain ⟨node, hnode, hbox⟩ := h.built.start
  exact beyond?_eq_none hnode (by rw [hbox]; rfl)

/-- The nodes of a program that was drawn have no numbers. -/
theorem not_marked (v : NodeId) : ¬ chart.Marked v := by
  rintro ⟨node, hnode, hindex⟩
  rw [h.built.fresh hnode] at hindex
  exact nomatch hindex

/-- The last node of a program is its stop. -/
theorem last_stop : chart.Holds last .stop := by
  have hshows := h.shows
  rw [Shows] at hshows
  obtain ⟨-, -, -, hstop, -⟩ := hshows
  exact hstop

/-- The only open link of a program is behind its end, which is no light node. -/
theorem firm : chart.Firm := by
  rintro v hlight ⟨node, hnode, hopen⟩
  by_cases hv : v = last
  · rw [hv] at hlight
    exact h.built.toTidy.not_light_of_holds h.last_stop rfl rfl hlight
  · obtain ⟨found, hfound, hclosed⟩ := h.closed v (lt_size hnode) hv
    rw [hnode] at hfound
    cases hfound
    exact hclosed hopen

/-- Without idle loops all nodes of a program are quiet. -/
theorem quiet (hidle : Stmt.haveIdleLoop body = false) (v : NodeId) : chart.Quiet v := by
  obtain ⟨leaf, hleaf, hopen⟩ := h.leaf
  have hcalm : chart.Calm last := by
    intro w hw
    exact nomatch hw.eq_of_next hleaf hopen
  have hsettles := Stmt.settling h.built.toTidy _ 0 1 last chart.size h.shows
    (by rw [Stmt.hasIdleLoop]; exact hidle)
  by_cases hlt : v < chart.size
  · rcases Nat.eq_zero_or_pos v with rfl | hpos
    · exact quiet_of_not_light (h.built.toTidy.not_light_of_holds h.built.start rfl rfl)
    · exact hsettles.quiet hcalm v hpos hlt
  · exact quiet_of_not_light fun ⟨node, hnode, _⟩ => hlt (lt_size hnode)

/-- Without idle loops pruning a program ends. -/
theorem exists_prunes (hidle : Stmt.haveIdleLoop body = false) :
    ∃ chart', Prunes chart (.node 0) chart' := by
  obtain ⟨start, hstart, -⟩ := h.built.start
  exact comesBack h.built.toTidy h.firm h.start_final (h.quiet hidle) (lt_size hstart) _ chart
    (Trimmed.refl chart) (Finset.Subset.refl _)

/-- With an idle loop pruning a program does not end. -/
theorem not_prunes (hidle : Stmt.haveIdleLoop body = true) (chart' : Chart) :
    ¬ Prunes chart (.node 0) chart' := by
  intro hprunes
  obtain ⟨v, no, yes, ⟨node, hnode, hexit⟩, hself⟩ :=
    Stmt.circles h.shows (by rw [Stmt.hasIdleLoop]; exact hidle)
  have hquiet := hprunes.quiet_of_branch h.built.toTidy h.start_final h.not_marked hnode
    (by rw [hexit]; rfl) (h.built.connected (lt_size hnode))
  exact hquiet.not_behind_self hself

end Chart.Depicts

namespace Command

open Chart

/-- Pruning that ends leaves the pruned chart. -/
theorem pruned_eq_ok {depth : Nat} {chart chart' : Chart} :
    pruned depth chart = .ok chart' ↔ (prune depth (.node 0)).run chart = .ok () chart' := by
  unfold pruned
  cases (prune depth (.node 0)).run chart with
  | ok _ found => simp
  | error fault found => simp

/-- Pruning that fails tells the fault. -/
theorem pruned_eq_error {depth : Nat} {chart : Chart} {fault : Fault} :
    pruned depth chart = .error fault ↔
      ∃ chart', (prune depth (.node 0)).run chart = .error fault chart' := by
  unfold pruned
  cases (prune depth (.node 0)).run chart with
  | ok _ found => simp
  | error fault found => simp

section
variable {chart : Chart} {body : List Stmt} {last : NodeId} (h : chart.Depicts body last)
include h

/-- Nothing but want of depth stops the pruning of a program. -/
theorem fault_eq_endless_of_pruned {depth : Nat} {fault : Fault}
    (herror : pruned depth chart = .error fault) : fault = .endless := by
  obtain ⟨start, hstart, -⟩ := h.built.start
  obtain ⟨chart', hrun⟩ := pruned_eq_error.mp herror
  exact fault_eq_endless h.built.toTidy h.firm h.start_final (lt_size hstart) (Trimmed.refl chart)
    hrun

/-- A program without idle loops is pruned at every depth that is great enough. -/
theorem exists_pruned_of_not_idle (hidle : Stmt.haveIdleLoop body = false) :
    ∃ need chart', ∀ depth, need ≤ depth → pruned depth chart = .ok chart' := by
  obtain ⟨chart', hprunes⟩ := h.exists_prunes hidle
  obtain ⟨need, hrun⟩ := hprunes.run
  exact ⟨need, chart', fun depth hdepth => pruned_eq_ok.mpr (hrun depth hdepth)⟩

/-- A program with an idle loop is pruned at no depth. -/
theorem pruned_eq_endless_of_idle (hidle : Stmt.haveIdleLoop body = true) (depth : Nat) :
    pruned depth chart = .error .endless := by
  cases hpruned : pruned depth chart with
  | ok chart' => exact absurd (prunes_of_run (pruned_eq_ok.mp hpruned)) (h.not_prunes hidle chart')
  | error fault => rw [fault_eq_endless_of_pruned h hpruned]

end

end Command

end Flowchart
