import Flowchart.Proofs.Draft.Growth

/-!
# `Flowchart.Proofs.Draft.Picture`: where a statement stands in a chart

`Chart.Shows` says, without a word about how charts are made, that a chart shows a statement: which
node leads into it, which nodes are its own, and which node leads on from it.  The nodes of a
statement stand in the order in which they were drawn, so that they are a range of numbers.

`Stmt.shows_draw` is the only theorem about making charts here: a chart that was made by drawing a
statement shows it, and so does every extension of that chart.  `Chart.depicts_draw` reads it for a
whole program.  What the passes do with the chart of a program is proved from `Shows` alone.
-/

set_option autoImplicit false

namespace Flowchart.Chart

/-- A box that was not refused stands alone between two nodes: `u` leads to it, and it is the node
that leads on. -/
def ShowsBox (chart : Chart) (box : Except Refusal Box) (u lo v hi : NodeId) : Prop :=
  ∃ shown, box = .ok shown ∧ chart.Next u lo ∧ chart.Holds lo shown ∧ v = lo ∧ hi = lo + 1

mutual

/-- The chart shows a statement after the node `u`, as the nodes from `lo` up to but not including
`hi`, and goes on from the node `v`. -/
def Shows (chart : Chart) (medium : Medium) : Stmt → (u lo v hi : NodeId) → Prop
  | .read target, u, lo, v, hi => chart.ShowsBox (Stmt.readBox target) u lo v hi
  | .assign target value, u, lo, v, hi => chart.ShowsBox (Stmt.assignBox target value) u lo v hi
  | .update target sign value, u, lo, v, hi =>
    chart.ShowsBox (Stmt.updateBox target sign value) u lo v hi
  | .perform function args keywords, u, lo, v, hi =>
    chart.ShowsBox (Stmt.performBox function args keywords) u lo v hi
  | .ifElse test body orelse, u, lo, v, hi =>
    -- the condition, the head and the body of `yes`, the head and the body of `no`, the join
    ∃ box yesEnd no noEnd, Stmt.conditionBox test = .ok box ∧ chart.Next u lo ∧
      chart.Holds lo box ∧ chart.Forks lo no (lo + 1) ∧
      chart.Holds (lo + 1) .head ∧ chart.ShowsAll medium body (lo + 1) (lo + 2) yesEnd no ∧
      chart.Holds no .head ∧ chart.ShowsAll medium orelse no (no + 1) noEnd v ∧
      chart.Next yesEnd v ∧ chart.Next noEnd v ∧ chart.Holds v .join ∧ hi = v + 1
  | .whileLoop test body _ _, u, lo, v, hi =>
    -- the join at the top, the condition, the head and the body of `yes`, the head of `no`
    medium = .graph ∧ ∃ box bodyEnd, Stmt.conditionBox test = .ok box ∧ chart.Next u lo ∧
      chart.Holds lo .join ∧ chart.Next lo (lo + 1) ∧
      chart.Holds (lo + 1) box ∧ chart.Forks (lo + 1) v (lo + 2) ∧
      chart.Holds (lo + 2) .head ∧ chart.ShowsAll medium body (lo + 2) (lo + 3) bodyEnd v ∧
      chart.Next bodyEnd lo ∧ chart.Holds v .head ∧ hi = v + 1
  | .skip, u, lo, v, hi => v = u ∧ hi = lo
  | .program body, u, lo, v, hi =>
    match medium with
    | .graph => ∃ bodyEnd, chart.ShowsAll medium body u lo bodyEnd v ∧ chart.Next bodyEnd v ∧
        chart.Holds v .stop ∧ hi = v + 1
    | .console => chart.ShowsAll medium body u lo v hi
  | .refused _, _, _, _, _ => False

/-- The chart shows statements one after the other. -/
def ShowsAll (chart : Chart) (medium : Medium) : List Stmt → (u lo v hi : NodeId) → Prop
  | [], u, lo, v, hi => v = u ∧ hi = lo
  | stmt :: rest, u, lo, v, hi =>
    ∃ mid next, chart.Shows medium stmt u lo mid next ∧ chart.ShowsAll medium rest mid next v hi

end

/-- A statement that is drawn as one box is shown as that box. -/
theorem shows_single {chart : Chart} {medium : Medium} {stmt : Stmt} {box : Except Refusal Box}
    (h : stmt.box? = some box) (u lo v hi : NodeId) :
    chart.Shows medium stmt u lo v hi ↔ chart.ShowsBox box u lo v hi := by
  cases stmt <;> cases h <;> rw [Shows]

end Flowchart.Chart

namespace Flowchart.Stmt

open Draft

/-- A statement is shown by every chart that extends the one in which it was drawn to its end. -/
def Shown (medium : Medium) (stmt : Stmt) : Prop :=
  ∀ draft draft' : Draft, draft.Sound → (stmt.draw medium).run draft = .ok () draft' →
    ∀ chart : Chart, draft'.chart.Extends chart →
      chart.Shows medium stmt draft.current draft.chart.size draft'.current draft'.chart.size

/-- Statements drawn one after the other are shown one after the other. -/
theorem showsAll_drawAll {medium : Medium} {stmts : List Stmt}
    (h : ∀ stmt ∈ stmts, Shown medium stmt) {draft draft' : Draft} (hsound : draft.Sound)
    (hrun : (drawAll medium stmts).run draft = .ok () draft') {chart : Chart}
    (hext : draft'.chart.Extends chart) :
    chart.ShowsAll medium stmts draft.current draft.chart.size draft'.current
      draft'.chart.size := by
  induction stmts generalizing draft with
  | nil =>
      rw [drawAll] at hrun
      cases hrun
      rw [Chart.ShowsAll]
      exact ⟨rfl, rfl⟩
  | cons stmt rest ih =>
      rw [run_drawAll_cons] at hrun
      cases hfirst : (stmt.draw medium).run draft with
      | error refusal draft₁ =>
          rw [hfirst] at hrun
          cases hrun
      | ok _ draft₁ =>
          rw [hfirst] at hrun
          have hrest : ∀ s ∈ rest, Shown medium s := fun s hs => h s (List.mem_cons_of_mem _ hs)
          have hsound₁ := (completes_draw hsound hfirst).sound
          -- What is drawn afterwards only extends the chart that shows the first statement.
          have hgrown := (completes_drawAll hsound₁ hrun).grown
          rw [Chart.ShowsAll]
          exact ⟨draft₁.current, draft₁.chart.size,
            h stmt List.mem_cons_self draft draft₁ hsound hfirst chart (hgrown.trans hext),
            ih hrest hsound₁ hrun⟩

/-- A statement that is drawn as one box is shown. -/
theorem shown_single {medium : Medium} {stmt : Stmt} {box : Except Refusal Box}
    (h : stmt.box? = some box) : Shown medium stmt := by
  intro draft draft' hsound hrun chart hext
  rw [run_draw_single medium h] at hrun
  cases box with
  | error refusal => exact nomatch hrun
  | ok box =>
      cases hrun
      obtain ⟨node, hnode, hbox, -⟩ := getElem?_append_size hsound box
      rw [Chart.shows_single h]
      exact ⟨box, rfl, hext.next (next_append hsound box), hext.holds ⟨node, hnode, hbox⟩, rfl,
        size_append draft box⟩

/-- A condition is shown if the statements on its two sides are. -/
theorem shown_ifElse {medium : Medium} {test : Expr} {body orelse : List Stmt}
    (hbody : ∀ stmt ∈ body, Shown medium stmt) (horelse : ∀ stmt ∈ orelse, Shown medium stmt) :
    Shown medium (.ifElse test body orelse) := by
  intro draft draft' hsound hrun chart hext
  rw [run_draw_ifElse] at hrun
  cases hbox : conditionBox test with
  | error refusal => rw [hbox] at hrun; exact nomatch hrun
  | ok box =>
      rw [hbox] at hrun
      simp only at hrun
      cases hyes : (drawAll medium body).run (draft.entered box) with
      | error refusal draft₁ => rw [hyes] at hrun; exact nomatch hrun
      | ok _ draft₁ =>
          rw [hyes] at hrun
          simp only at hrun
          cases hno : (drawAll medium orelse).run (draft₁.openBranch draft.chart.size .no) with
          | error refusal draft₂ => rw [hno] at hrun; exact nomatch hrun
          | ok _ draft₂ =>
              rw [hno] at hrun
              cases hrun
              have hcond := isCondition_conditionBox hbox
              have hfirst := completes_drawAll (sound_entered hsound hcond) hyes
              have hwithin := (within_entered hsound hcond).leaves hfirst.toLeaves
              have hsecond := completes_drawAll hwithin.leaves_openNo.sound hno
              -- The end of the side of `yes` has waited for the join.
              obtain ⟨last, hlast, hopen, hne⟩ := hwithin.other_end hfirst.sound hsecond.toLeaves
              -- The charts from the body of `no` back to the condition, each extended by `chart`.
              have hext₂ := (extends_joinWith hsecond.sound hlast hopen hne).trans hext
              have hextNo := hsecond.grown.trans hext₂
              have hext₁ := hwithin.extends_openNo.trans hextNo
              have hextYes := hfirst.grown.trans hext₁
              have hextBox := (extends_entered hsound hcond).trans hextYes
              obtain ⟨node, hnode, hnodeBox, -⟩ := getElem?_append_size hsound box
              obtain ⟨yesHead, hyesHead, hyesBox, -⟩ :=
                getElem?_openBranch_size (built_append hsound box) hnode .yes
              obtain ⟨cond, hcondNode, -⟩ := hwithin.half
              obtain ⟨noHead, hnoHead, hnoBox, -⟩ :=
                getElem?_openBranch_size hwithin.built hcondNode .no
              obtain ⟨join, hjoin, hjoinBox, -⟩ := getElem?_joinWith_size hsecond.sound hlast
              have hshowsYes := showsAll_drawAll hbody (sound_entered hsound hcond) hyes hext₁
              have hshowsNo := showsAll_drawAll horelse hwithin.leaves_openNo.sound hno hext₂
              rw [size_append] at hyesHead
              rw [current_entered, size_entered] at hshowsYes
              rw [current_openBranch, size_openBranch] at hshowsNo
              rw [Chart.Shows]
              exact ⟨box, draft₁.current, draft₁.chart.size, draft₂.current, hbox,
                hextBox.next (next_append hsound box), hextBox.holds ⟨node, hnode, hnodeBox⟩,
                hextNo.forks hwithin.forks_openNo, hextYes.holds ⟨_, hyesHead, hyesBox⟩,
                hshowsYes, hextNo.holds ⟨_, hnoHead, hnoBox⟩, hshowsNo,
                hext.next (next_joinWith hsecond.sound hlast _ (Or.inl rfl)),
                hext.next (next_joinWith hsecond.sound hlast _ (Or.inr rfl)),
                hext.holds ⟨_, hjoin, hjoinBox⟩, size_joinWith _ _⟩

/-- A loop is shown if the statements of its body are. -/
theorem shown_whileLoop {medium : Medium} {test : Expr} {body orelse : List Stmt}
    {refusal : Refusal} (hbody : ∀ stmt ∈ body, Shown medium stmt) :
    Shown medium (.whileLoop test body orelse refusal) := by
  intro draft draft' hsound hrun chart hext
  cases medium with
  | console => rw [draw] at hrun; cases hrun
  | graph =>
      rw [run_draw_whileLoop] at hrun
      cases hbox : conditionBox test with
      | error refusal => rw [hbox] at hrun; cases hrun
      | ok box =>
          rw [hbox] at hrun
          simp only at hrun
          cases hyes : (drawAll .graph body).run ((draft.append .join).entered box) with
          | error refusal draft₁ => rw [hyes] at hrun; cases hrun
          | ok _ draft₁ =>
              rw [hyes] at hrun
              cases hrun
              have hcond := isCondition_conditionBox hbox
              have htop := completes_append hsound .join rfl
              have hfirst := completes_drawAll (sound_entered htop.sound hcond) hyes
              have hwithin := (within_entered htop.sound hcond).leaves hfirst.toLeaves
              have htopLt : draft.chart.size < draft₁.chart.size := by
                have hsize := hwithin.grown.size_le
                rw [size_append] at hsize
                omega
              -- The body leads back before the side for `no` is opened.
              have hwithin' := hwithin.closeLoop hfirst.sound htopLt
              -- The charts from the end of the body back to the top, each extended by `chart`.
              have hextLoop := hwithin'.extends_openNo.trans hext
              have hext₁ := (extends_closeLoop hfirst.sound).trans hextLoop
              have hextYes := hfirst.grown.trans hext₁
              have hextBox := (extends_entered htop.sound hcond).trans hextYes
              have hextTop := (extends_append htop.sound box).trans hextBox
              obtain ⟨top, htopNode, htopBox, -⟩ := getElem?_append_size hsound .join
              obtain ⟨node, hnode, hnodeBox, -⟩ := getElem?_append_size htop.sound box
              obtain ⟨yesHead, hyesHead, hyesBox, -⟩ :=
                getElem?_openBranch_size (built_append htop.sound box) hnode .yes
              obtain ⟨cond, hcondNode, -⟩ := hwithin'.half
              obtain ⟨noHead, hnoHead, hnoBox, -⟩ :=
                getElem?_openBranch_size hwithin'.built hcondNode .no
              have hshows := showsAll_drawAll hbody (sound_entered htop.sound hcond) hyes hext₁
              have hforks := hext.forks hwithin'.forks_openNo
              have hnext := hextBox.next (next_append htop.sound box)
              have hback := hextLoop.next (next_closeLoop hfirst.sound)
              have hholds := hextBox.holds ⟨node, hnode, hnodeBox⟩
              have hyesHolds := hextYes.holds ⟨_, hyesHead, hyesBox⟩
              have hnoHolds := hext.holds ⟨_, hnoHead, hnoBox⟩
              -- The nodes are counted from the top of the loop.
              rw [current_entered, size_entered, size_append] at hshows
              rw [size_closeLoop, size_append] at hforks
              rw [size_append] at hnext hholds
              rw [size_append, size_append] at hyesHolds
              rw [size_closeLoop] at hnoHolds
              rw [current_openBranch, size_openBranch, size_closeLoop, Chart.Shows]
              exact ⟨rfl, box, draft₁.current, hbox, hextTop.next (next_append hsound .join),
                hextTop.holds ⟨top, htopNode, htopBox⟩, hnext, hholds, hforks, hyesHolds, hshows,
                hback, hnoHolds, rfl⟩

/-- A program is shown if its statements are. -/
theorem shown_program {medium : Medium} {body : List Stmt}
    (hbody : ∀ stmt ∈ body, Shown medium stmt) : Shown medium (.program body) := by
  intro draft draft' hsound hrun chart hext
  rw [run_draw_program] at hrun
  cases hfirst : (drawAll medium body).run draft with
  | error refusal draft₁ => rw [hfirst] at hrun; exact nomatch hrun
  | ok _ draft₁ =>
      rw [hfirst] at hrun
      have hsound₁ := (completes_drawAll hsound hfirst).sound
      cases medium with
      -- Only a graph has a box for the end of the program.
      | console =>
          cases hrun
          rw [Chart.Shows]
          exact showsAll_drawAll hbody hsound hfirst hext
      | graph =>
          cases hrun
          obtain ⟨stop, hstop, hstopBox, -⟩ := getElem?_append_size hsound₁ .stop
          have hext₁ := (extends_append hsound₁ .stop).trans hext
          rw [Chart.Shows]
          exact ⟨draft₁.current, showsAll_drawAll hbody hsound hfirst hext₁,
            hext.next (next_append hsound₁ .stop), hext.holds ⟨stop, hstop, hstopBox⟩,
            size_append draft₁ .stop⟩

/-- A chart that was made by drawing a statement shows it, and so does every extension of it. -/
theorem shows_draw (medium : Medium) (stmt : Stmt) : Shown medium stmt := by
  induction stmt using nestedInduction with
  | single stmt box hbox => exact shown_single hbox
  | ifElse test body orelse hbody horelse => exact shown_ifElse hbody horelse
  | whileLoop test body orelse refusal hbody => exact shown_whileLoop hbody
  | skip =>
      intro draft draft' hsound hrun chart hext
      rw [draw] at hrun
      cases hrun
      rw [Chart.Shows]
      exact ⟨rfl, rfl⟩
  | program body hbody => exact shown_program hbody
  | refused refusal =>
      intro draft draft' hsound hrun chart hext
      rw [draw] at hrun
      cases hrun

end Flowchart.Stmt

namespace Flowchart.Chart

/-! ### The chart of a program -/

/-- A chart that shows a program and nothing else, and whose only open link is at the node
`last`. -/
structure Depicts (chart : Chart) (body : List Stmt) (last : NodeId) : Prop where
  built : chart.Built
  shows : chart.Shows .graph (.program body) 0 1 last chart.size
  leaf : ∃ node, chart[last]? = some node ∧ node.exit = .next .nowhere
  closed : ∀ v, v < chart.size → v ≠ last → chart.Closed v

/-- The chart of a program that was drawn to its end. -/
theorem depicts_draw {body : List Stmt} {draft : Draft}
    (h : ((Stmt.program body).draw .graph).run Draft.empty = .ok () draft) :
    draft.chart.Depicts body draft.current := by
  have hcompletes := Stmt.completes_draw Draft.sound_empty h
  refine ⟨hcompletes.sound.built, Stmt.shows_draw .graph (.program body) _ draft Draft.sound_empty h
    _ (Extends.refl _), hcompletes.sound.ready, fun v hv hne => ?_⟩
  refine hcompletes.closed v hv ?_ hne
  -- Every node is the start or was drawn after it.
  rcases Nat.eq_zero_or_pos v with hzero | hpos
  · exact Or.inl hzero
  · exact Or.inr hpos

end Flowchart.Chart
