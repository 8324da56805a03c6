import Flowchart.Proofs.Draft.Edits
import Mathlib.Data.List.Induction

/-!
# `Flowchart.Proofs.Draft.Growth`: what drawing statements leaves behind

A drawing may be refused at any depth, and then its draft stays as it is.  So there are two
promises:

* `Draft.Leaves` is kept in any case.  The draft is sound, only open links have been turned, and of
  the old nodes only the current one has changed.
* `Draft.Completes` is kept by a drawing that comes to its end.  It says in addition that no new
  node has an open link, but for the new current node.

`Stmt.Grows` puts them together, and `Stmt.grows_draw` proves it for every statement, by
`Stmt.nestedInduction`.  Between the moment when a condition is drawn and the one when its side for
`no` is opened, `Draft.Within` holds; it is what a refusal in the body of the condition leaves
behind.

A draft lives through a series of calls, some of which may be refused (`Draft.afterAll`).
`Draft.open_at_current_afterAll` says what holds after each of them.
-/

set_option autoImplicit false

namespace Flowchart

/-- The draft after a condition was drawn and its side for `yes` opened. -/
def Draft.entered (draft : Draft) (box : Box) : Draft :=
  (draft.append box).openBranch draft.chart.size .yes

/-- A condition and the head of its first side are two more nodes. -/
@[simp] theorem Draft.size_entered (draft : Draft) (box : Box) :
    (draft.entered box).chart.size = draft.chart.size + 2 := by
  simp [Draft.entered]

/-- Drawing goes on from the head of the first side. -/
theorem Draft.current_entered (draft : Draft) (box : Box) :
    (draft.entered box).current = draft.chart.size + 1 :=
  Draft.size_append draft box

namespace Stmt

/-! ### The run of a drawing -/

/-- The box of a statement that is drawn as one box. -/
def box? : Stmt → Option (Except Refusal Box)
  | read target => some (readBox target)
  | assign target value => some (assignBox target value)
  | update target sign value => some (updateBox target sign value)
  | perform function args keywords => some (performBox function args keywords)
  | _ => none

/-- A statement is one box, a condition, a loop, nothing, a program or refused.  The statements
inside it come first. -/
@[elab_as_elim]
theorem nestedInduction {motive : Stmt → Prop}
    (single : ∀ stmt box, stmt.box? = some box → motive stmt)
    (ifElse : ∀ test body orelse, (∀ stmt ∈ body, motive stmt) → (∀ stmt ∈ orelse, motive stmt) →
      motive (.ifElse test body orelse))
    (whileLoop : ∀ test body orelse refusal, (∀ stmt ∈ body, motive stmt) →
      motive (.whileLoop test body orelse refusal))
    (skip : motive .skip)
    (program : ∀ body, (∀ stmt ∈ body, motive stmt) → motive (.program body))
    (refused : ∀ refusal, motive (.refused refusal)) : ∀ stmt, motive stmt
  -- The statements inside are members of the lists, and so smaller than the whole.
  | .read _ | .assign _ _ | .update _ _ _ | .perform _ _ _ => single _ _ rfl
  | .ifElse test body orelse =>
      ifElse test body orelse
        (fun stmt _ => nestedInduction single ifElse whileLoop skip program refused stmt)
        (fun stmt _ => nestedInduction single ifElse whileLoop skip program refused stmt)
  | .whileLoop test body orelse refusal =>
      whileLoop test body orelse refusal
        (fun stmt _ => nestedInduction single ifElse whileLoop skip program refused stmt)
  | .skip => skip
  | .program body =>
      program body (fun stmt _ => nestedInduction single ifElse whileLoop skip program refused stmt)
  | .refused refusal => refused refusal

/-- A statement that is drawn as one box draws that box, unless it is refused. -/
theorem draw_single (medium : Medium) {stmt : Stmt} {box : Except Refusal Box}
    (h : stmt.box? = some box) :
    stmt.draw medium = Drawing.lift box >>= fun box => modify (·.append box) := by
  cases stmt <;> cases h <;> rw [draw]

/-- What is left behind by a statement that is drawn as one box. -/
theorem run_draw_single (medium : Medium) {stmt : Stmt} {box : Except Refusal Box}
    (h : stmt.box? = some box) (draft : Draft) :
    (stmt.draw medium).run draft
      = match box with
        | .ok box => .ok () (draft.append box)
        | .error refusal => .error refusal draft := by
  rw [draw_single medium h]
  cases box <;> rfl

/-- What is left behind by a condition: its box, the side for `yes`, the side for `no` and a join of
their ends, up to the first refusal. -/
theorem run_draw_ifElse (medium : Medium) (test : Expr) (body orelse : List Stmt) (draft : Draft) :
    (draw medium (.ifElse test body orelse)).run draft
      = match conditionBox test with
        | .error refusal => .error refusal draft
        | .ok box =>
          match (drawAll medium body).run (draft.entered box) with
          | .error refusal draft => .error refusal draft
          | .ok _ draft₁ =>
            match (drawAll medium orelse).run (draft₁.openBranch draft.chart.size .no) with
            | .error refusal draft => .error refusal draft
            | .ok _ draft₂ => .ok () (draft₂.joinWith draft₁.current) := by
  rw [draw]
  cases conditionBox test with
  | error refusal => rfl
  | ok box =>
      simp only [EStateM.run_bind, Drawing.lift, Drawing.append, Drawing.current, EStateM.run_pure,
        EStateM.run_modify, EStateM.run_get]
      -- The condition is the node that has just been drawn.
      rw [show (draft.append box).current = draft.chart.size from rfl, ← Draft.entered]
      cases (drawAll medium body).run (draft.entered box) with
      | error refusal draft => rfl
      | ok _ draft₁ =>
          simp only
          cases (drawAll medium orelse).run (draft₁.openBranch draft.chart.size .no) <;> rfl

/-- What is left behind by a loop: the join at its top, the condition, the body with a link back to
the join and the side for `no`, up to the first refusal. -/
theorem run_draw_whileLoop (test : Expr) (body orelse : List Stmt) (refusal : Refusal)
    (draft : Draft) :
    (draw .graph (.whileLoop test body orelse refusal)).run draft
      = match conditionBox test with
        | .error refusal => .error refusal (draft.append .join)
        | .ok box =>
          match (drawAll .graph body).run ((draft.append .join).entered box) with
          | .error refusal draft => .error refusal draft
          | .ok _ draft₁ =>
            .ok () ((draft₁.closeLoop draft.chart.size).openBranch
              (draft.append .join).chart.size .no) := by
  rw [draw]
  cases conditionBox test with
  | error refusal => rfl
  | ok box =>
      simp only [EStateM.run_bind, Drawing.lift, Drawing.append, Drawing.current, EStateM.run_pure,
        EStateM.run_modify, EStateM.run_get]
      -- The condition and the top of the loop are known by the sizes of the chart before them.
      rw [show ((draft.append .join).append box).current = (draft.append .join).chart.size from rfl,
        show (draft.append .join).current = draft.chart.size from rfl, ← Draft.entered]
      cases (drawAll .graph body).run ((draft.append .join).entered box) <;> rfl

/-- What is left behind by a program: its statements, and in a graph a stop after them. -/
theorem run_draw_program (medium : Medium) (body : List Stmt) (draft : Draft) :
    (draw medium (.program body)).run draft
      = match (drawAll medium body).run draft with
        | .error refusal draft => .error refusal draft
        | .ok _ draft =>
          match medium with
          | .graph => .ok () (draft.append .stop)
          | .console => .ok () draft := by
  cases medium <;> rw [draw, EStateM.run_bind] <;>
    cases (drawAll _ body).run draft <;> rfl

/-- What is left behind by statements: the first one's draft is what the others begin with. -/
theorem run_drawAll_cons (medium : Medium) (stmt : Stmt) (rest : List Stmt) (draft : Draft) :
    (drawAll medium (stmt :: rest)).run draft
      = match (stmt.draw medium).run draft with
        | .ok _ draft => (drawAll medium rest).run draft
        | .error refusal draft => .error refusal draft := by
  rw [drawAll, EStateM.run_bind]
  cases (stmt.draw medium).run draft <;> rfl

end Stmt

namespace Chart

/-- A node without an open link. -/
def Closed (chart : Chart) (v : NodeId) : Prop :=
  ∃ node, chart[v]? = some node ∧ Link.nowhere ∉ node.exit.links

/-- A node with one turned link is closed. -/
theorem Next.closed {chart : Chart} {u v : NodeId} (h : chart.Next u v) : chart.Closed u := by
  obtain ⟨node, hnode, hexit⟩ := h
  exact ⟨node, hnode, by simp [hexit, Exit.links]⟩

/-- A node with two turned links is closed. -/
theorem Forks.closed {chart : Chart} {u no yes : NodeId} (h : chart.Forks u no yes) :
    chart.Closed u := by
  obtain ⟨node, hnode, hexit⟩ := h
  exact ⟨node, hnode, by simp [hexit, Exit.links]⟩

/-- A node without an open link keeps its exit. -/
theorem Extends.closed {chart chart' : Chart} (h : chart.Extends chart') {v : NodeId}
    (hv : chart.Closed v) : chart'.Closed v := by
  obtain ⟨node, hnode, hlinks⟩ := hv
  obtain ⟨exit, hnode', hfill⟩ := h v node hnode
  refine ⟨_, hnode', fun hopen => ?_⟩
  -- An open link can only stand where one stood before.
  obtain ⟨old, hold, hnew⟩ := Exit.Rel.exists_old hfill hopen
  rcases hnew with rfl | rfl
  · exact hlinks hold
  · exact hlinks hold

end Chart

namespace Draft

/-! ### What a drawing leaves behind -/

/-- What may have become of a draft while statements were drawn, be it to their end or not: its
chart is extended, at nodes other than the current one not at all, and unless nothing has happened
the current node is a new one. -/
structure Leaves (draft draft' : Draft) : Prop where
  sound : draft'.Sound
  grown : draft.chart.Extends draft'.chart
  kept : ∀ v, v < draft.chart.size → v ≠ draft.current → draft'.chart[v]? = draft.chart[v]?
  moved : draft' = draft ∨ draft.chart.size ≤ draft'.current

/-- What has become of a draft when statements were drawn to their end: the former current node and
the new ones have no open links, but for the new current node. -/
structure Completes (draft draft' : Draft) : Prop extends Leaves draft draft' where
  closed : ∀ v, v < draft'.chart.size → v = draft.current ∨ draft.chart.size ≤ v →
    v ≠ draft'.current → draft'.chart.Closed v

/-- Drawing nothing comes to its end. -/
theorem Completes.refl {draft : Draft} (h : draft.Sound) : draft.Completes draft where
  sound := h
  grown := Chart.Extends.refl _
  kept := fun _ _ _ => rfl
  moved := Or.inl rfl
  closed := by
    intro v hlt hnew hne
    rcases hnew with rfl | hge
    · exact absurd rfl hne
    · omega

/-- What two drawings leave behind, one after the other. -/
theorem Leaves.trans {a b c : Draft} (hab : a.Leaves b) (hbc : b.Leaves c) : a.Leaves c where
  sound := hbc.sound
  grown := hab.grown.trans hbc.grown
  kept := by
    intro v hv hne
    have hsize := hab.grown.size_le
    -- The node at which the second drawing begins is the old one or a new one.
    have hne' : v ≠ b.current := by
      rcases hab.moved with rfl | hge
      · exact hne
      · omega
    rw [hbc.kept v (by omega) hne', hab.kept v hv hne]
  moved := by
    have hsize := hab.grown.size_le
    rcases hbc.moved with rfl | hge
    · exact hab.moved
    · exact Or.inr (by omega)

/-- Two drawings that come to their end, one after the other, do so as one. -/
theorem Completes.trans {a b c : Draft} (hab : a.Completes b) (hbc : b.Completes c) :
    a.Completes c where
  toLeaves := hab.toLeaves.trans hbc.toLeaves
  closed := by
    intro v hlt hnew hne
    by_cases hv : v = b.current ∨ b.chart.size ≤ v
    · exact hbc.closed v hlt hv hne
    · obtain ⟨hcurrent, hsize⟩ := not_or.mp hv
      exact hbc.grown.closed (hab.closed v (by omega) hnew hcurrent)

/-- A box other than a condition is drawn to its end. -/
theorem completes_append {draft : Draft} (h : draft.Sound) (box : Box)
    (hbox : box.isCondition = false) : draft.Completes (draft.append box) where
  sound := h.append box hbox
  grown := extends_append h box
  kept := fun v hv hne => getElem?_append_of_ne box hv hne
  moved := Or.inr (Nat.le_refl _)
  closed := by
    intro v hlt hnew hne
    rcases hnew with rfl | hge
    · exact (next_append h box).closed
    · rw [size_append] at hlt
      exact absurd (Nat.le_antisymm (Nat.le_of_lt_succ hlt) hge) hne

/-! ### Conditions and loops -/

/-- The state of a draft within a condition whose side for `yes` leads to the node `yes` and whose
other side is still open: what was drawn before the condition is as it was, and the condition and
the current node are new ones. -/
structure Within (draft inner : Draft) (condition yes : NodeId) : Prop where
  built : inner.chart.Built
  grown : draft.chart.Extends inner.chart
  kept : ∀ v, v < draft.chart.size → v ≠ draft.current → inner.chart[v]? = draft.chart[v]?
  ahead : draft.chart.size ≤ inner.current
  isNew : draft.chart.size ≤ condition
  isPast : condition ≠ inner.current
  half : ∃ node, inner.chart[condition]? = some node ∧
    node.exit = .branch .nowhere (.node yes)

section Entered
variable {draft : Draft} (h : draft.Sound) {box : Box} (hbox : box.isCondition = true)
include h hbox

/-- A new condition has two open sides. -/
theorem getElem?_append_condition :
    ∃ node, (draft.append box).chart[draft.chart.size]? = some node ∧ node.box = box ∧
      node.exit = .branch .nowhere .nowhere := by
  obtain ⟨node, hnode, hnodeBox, hexit⟩ := getElem?_append_size h box
  refine ⟨node, hnode, hnodeBox, ?_⟩
  rw [hexit]
  cases box <;> first | rfl | exact nomatch hbox

/-- Opening the first side of a condition turns an open link. -/
theorem extends_entered : (draft.append box).chart.Extends (draft.entered box).chart := by
  obtain ⟨node, hnode, -, hexit⟩ := getElem?_append_condition h hbox
  exact extends_openBranch (built_append h box) hnode (by rw [hexit]; rfl) (by rw [hexit]; rfl)

/-- The draft is sound past a new condition. -/
theorem sound_entered : (draft.entered box).Sound := by
  obtain ⟨node, hnode, -, hexit⟩ := getElem?_append_condition h hbox
  exact sound_openBranch (built_append h box) hnode (by rw [hexit]; rfl) (by rw [hexit]; rfl)

/-- Past a condition the draft is within it. -/
theorem within_entered :
    draft.Within (draft.entered box) draft.chart.size (draft.chart.size + 1) where
  built := (sound_entered h hbox).built
  grown := (extends_append h box).trans (extends_entered h hbox)
  kept := by
    intro v hv hne
    obtain ⟨node, hnode, -, -⟩ := getElem?_append_condition h hbox
    have hlt : v < (draft.append box).chart.size := by rw [size_append]; omega
    -- Only the condition has been changed since it was appended, and it is new.
    rw [entered, getElem?_openBranch (built_append h box) hnode .yes v hlt,
      if_neg (Nat.ne_of_gt hv), getElem?_append_of_ne box hv hne]
  ahead := by
    show draft.chart.size ≤ (draft.append box).chart.size
    rw [size_append]
    exact Nat.le_succ _
  isNew := Nat.le_refl _
  isPast := by
    show draft.chart.size ≠ (draft.append box).chart.size
    rw [size_append]
    omega
  half := by
    obtain ⟨node, hnode, -, hexit⟩ := getElem?_append_condition h hbox
    have hlt : draft.chart.size < (draft.append box).chart.size := by rw [size_append]; omega
    have hnew := getElem?_openBranch (built_append h box) hnode .yes _ hlt
    rw [if_pos rfl] at hnew
    refine ⟨_, hnew, ?_⟩
    show node.exit.setSlot _ _ = _
    rw [hexit, size_append]
    rfl

end Entered

namespace Within
variable {draft inner : Draft} {condition yes : NodeId} (h : draft.Within inner condition yes)
include h

/-- The condition is a node of the chart. -/
theorem condition_lt : condition < inner.chart.size := by
  obtain ⟨node, hnode, -⟩ := h.half
  exact Chart.lt_size hnode

/-- Within a condition nothing but new nodes has changed. -/
theorem toLeaves (hsound : inner.Sound) : draft.Leaves inner where
  sound := hsound
  grown := h.grown
  kept := h.kept
  moved := Or.inr h.ahead

/-- Whatever is drawn further stays within the condition. -/
theorem leaves {inner' : Draft} (hleaves : inner.Leaves inner') :
    draft.Within inner' condition yes := by
  have hlt := h.condition_lt
  have hsize := h.grown.size_le
  have hahead := h.ahead
  have hne : condition ≠ inner'.current := by
    rcases hleaves.moved with rfl | hge
    · exact h.isPast
    · exact Nat.ne_of_lt (Nat.lt_of_lt_of_le hlt hge)
  refine { built := hleaves.sound.built, grown := h.grown.trans hleaves.grown, kept := ?_,
           ahead := ?_, isNew := h.isNew, isPast := hne, half := ?_ }
  · intro v hv hvne
    rw [hleaves.kept v (by omega) (Nat.ne_of_lt (Nat.lt_of_lt_of_le hv hahead)), h.kept v hv hvne]
  · rcases hleaves.moved with rfl | hge
    · exact hahead
    · exact Nat.le_trans hsize hge
  · obtain ⟨node, hnode, hexit⟩ := h.half
    refine ⟨node, ?_, hexit⟩
    rw [hleaves.kept condition hlt h.isPast, hnode]

/-- A path led back stays within the condition. -/
theorem closeLoop (hsound : inner.Sound) {top : NodeId} (htop : top < inner.chart.size) :
    draft.Within (inner.closeLoop top) condition yes where
  built := built_closeLoop hsound htop
  grown := h.grown.trans (extends_closeLoop hsound)
  kept := by
    intro v hv hne
    rw [getElem?_closeLoop_of_ne (Nat.ne_of_lt (Nat.lt_of_lt_of_le hv h.ahead)), h.kept v hv hne]
  ahead := h.ahead
  isNew := h.isNew
  isPast := h.isPast
  half := by
    obtain ⟨node, hnode, hexit⟩ := h.half
    exact ⟨node, by rw [getElem?_closeLoop_of_ne h.isPast, hnode], hexit⟩

/-- Opening the side for `no` turns an open link. -/
theorem extends_openNo : inner.chart.Extends (inner.openBranch condition .no).chart := by
  obtain ⟨node, hnode, hexit⟩ := h.half
  exact extends_openBranch h.built hnode (by rw [hexit]; rfl) (by rw [hexit]; rfl)

/-- The condition leads to the heads of both sides. -/
theorem forks_openNo :
    (inner.openBranch condition .no).chart.Forks condition inner.chart.size yes := by
  obtain ⟨node, hnode, hexit⟩ := h.half
  have hnew := getElem?_openBranch h.built hnode .no condition h.condition_lt
  rw [if_pos rfl] at hnew
  refine ⟨_, hnew, ?_⟩
  show node.exit.setSlot _ _ = _
  rw [hexit]
  rfl

/-- With the side for `no` opened, nothing but new nodes has changed. -/
theorem leaves_openNo : draft.Leaves (inner.openBranch condition .no) := by
  obtain ⟨node, hnode, hexit⟩ := h.half
  refine { sound := ?_, grown := h.grown.trans h.extends_openNo, kept := ?_, moved := ?_ }
  · exact sound_openBranch h.built hnode (by rw [hexit]; rfl) (by rw [hexit]; rfl)
  · intro v hv hne
    rw [getElem?_openBranch h.built hnode .no v (Nat.lt_of_lt_of_le hv h.grown.size_le),
      if_neg (Nat.ne_of_gt (Nat.lt_of_lt_of_le hv h.isNew)), h.kept v hv hne]
  · exact Or.inr h.grown.size_le

/-- The end of one side is out of reach while the other side is drawn: it still is open, and is not
the current node. -/
theorem other_end (hsound : inner.Sound) {draft' : Draft}
    (hleaves : (inner.openBranch condition .no).Leaves draft') :
    ∃ node, draft'.chart[inner.current]? = some node ∧ node.exit = .next .nowhere ∧
      inner.current ≠ draft'.current := by
  obtain ⟨last, hlast, hopen⟩ := hsound.ready
  have hlt : inner.current < inner.chart.size := hsound.current_lt
  refine ⟨last, ?_, hopen, ?_⟩
  · obtain ⟨node, hnode, -⟩ := h.half
    rw [hleaves.kept inner.current (by rw [size_openBranch]; exact Nat.lt_succ_of_lt hlt)
      (Nat.ne_of_lt hlt), getElem?_openBranch h.built hnode .no _ hlt, if_neg h.isPast, hlast]
  · rcases hleaves.moved with rfl | hge
    · exact Nat.ne_of_lt hlt
    · rw [size_openBranch] at hge
      exact Nat.ne_of_lt (Nat.lt_of_lt_of_le (Nat.lt_succ_of_lt hlt) hge)

end Within

/-- Joining two new paths changes nothing but new nodes. -/
theorem Leaves.joinWith {draft inner : Draft} (h : draft.Leaves inner)
    {other : NodeId} {node : Node} (hahead : draft.chart.size ≤ inner.current)
    (hother : draft.chart.size ≤ other) (hnode : inner.chart[other]? = some node)
    (hopen : node.exit = .next .nowhere) (hne : other ≠ inner.current) :
    draft.Leaves (inner.joinWith other) where
  sound := sound_joinWith h.sound hnode hopen hne
  grown := h.grown.trans (extends_joinWith h.sound hnode hopen hne)
  kept := by
    intro v hv hvne
    rw [getElem?_joinWith_of_ne (Nat.lt_of_lt_of_le hv h.grown.size_le)
      (Nat.ne_of_lt (Nat.lt_of_lt_of_le hv hother))
      (Nat.ne_of_lt (Nat.lt_of_lt_of_le hv hahead)), h.kept v hv hvne]
  moved := Or.inr h.grown.size_le

/-- A condition is drawn to its end when its two sides are, the one for `yes` first, and their ends
are joined. -/
theorem completes_joinWith {draft draft₁ draft₂ : Draft} (h : draft.Sound) {box : Box}
    (hbox : box.isCondition = true) (hyes : (draft.entered box).Completes draft₁)
    (hno : (draft₁.openBranch draft.chart.size .no).Completes draft₂) :
    draft.Completes (draft₂.joinWith draft₁.current) := by
  have hwithin := (within_entered h hbox).leaves hyes.toLeaves
  obtain ⟨last, hlast₂, hopen, hne⟩ := hwithin.other_end hyes.sound hno.toLeaves
  have hleaves := hwithin.leaves_openNo.trans hno.toLeaves
  have hahead : draft.chart.size ≤ draft₂.current := by
    rcases hno.moved with rfl | hge
    · exact hwithin.grown.size_le
    · rw [size_openBranch] at hge
      exact Nat.le_trans hwithin.grown.size_le (Nat.le_trans (Nat.le_succ _) hge)
  have hext := extends_joinWith hno.sound hlast₂ hopen hne
  refine { hleaves.joinWith hahead hwithin.ahead hlast₂ hopen hne with closed := ?_ }
  intro v hv hnew hcurrent
  rw [size_joinWith] at hv
  have hv₂ : v < draft₂.chart.size := Nat.lt_of_le_of_ne (Nat.le_of_lt_succ hv) hcurrent
  by_cases hend : v = draft₁.current ∨ v = draft₂.current
  · -- The ends of both sides lead to the join.
    exact (next_joinWith hno.sound hlast₂ v hend).closed
  obtain ⟨hv₁, hvne⟩ := not_or.mp hend
  refine hext.closed ?_
  rcases Nat.lt_or_ge v draft₁.chart.size with hlt₁ | hge₁
  · refine hno.grown.closed ?_
    rcases Nat.lt_trichotomy v draft.chart.size with hbefore | rfl | hafter
    · -- The former current node leads to the condition.
      have hv₀ : v = draft.current := hnew.resolve_right (Nat.not_le_of_lt hbefore)
      subst hv₀
      exact hwithin.extends_openNo.closed
        (hyes.grown.closed ((extends_entered h hbox).closed (next_append h box).closed))
    · -- The condition has both of its sides.
      exact hwithin.forks_openNo.closed
    · -- A node of the side of `yes`.
      refine hwithin.extends_openNo.closed (hyes.closed v hlt₁ ?_ hv₁)
      rw [size_entered]
      show v = (draft.append box).chart.size ∨ _
      rw [size_append]
      omega
  · -- A node of the side of `no`.
    refine hno.closed v hv₂ ?_ hvne
    rw [size_openBranch]
    show v = draft₁.chart.size ∨ _
    omega

/-- A loop is drawn to its end when its body is, whose end then leads back to the top of the
loop. -/
theorem completes_loop {draft draft₁ : Draft} (h : draft.Sound) {box : Box}
    (hbox : box.isCondition = true) (hbody : ((draft.append .join).entered box).Completes draft₁) :
    draft.Completes ((draft₁.closeLoop draft.chart.size).openBranch
      (draft.append .join).chart.size .no) := by
  have htop := completes_append h .join rfl
  have hwithin := (within_entered htop.sound hbox).leaves hbody.toLeaves
  have htopLt : draft.chart.size < draft₁.chart.size := by
    have hsize := hwithin.grown.size_le
    rw [size_append] at hsize
    omega
  have hwithin' := hwithin.closeLoop hbody.sound htopLt
  have hloop : draft₁.chart.Extends _ :=
    (extends_closeLoop hbody.sound).trans hwithin'.extends_openNo
  refine { htop.toLeaves.trans hwithin'.leaves_openNo with closed := ?_ }
  intro v hv hnew hcurrent
  rw [size_openBranch, size_closeLoop] at hv
  have hcurrent' : v ≠ draft₁.chart.size := by
    rw [← size_closeLoop draft₁ draft.chart.size]
    exact hcurrent
  have hlt₁ : v < draft₁.chart.size := by omega
  by_cases hend : v = draft₁.current
  · -- The end of the body leads back to the top.
    subst hend
    exact hwithin'.extends_openNo.closed (next_closeLoop hbody.sound).closed
  rcases Nat.lt_trichotomy v (draft.append .join).chart.size with hbefore | rfl | hafter
  · by_cases hv₀ : v = (draft.append .join).current
    · -- The top of the loop leads to the condition.
      rw [hv₀]
      exact hloop.closed (hbody.grown.closed ((extends_entered htop.sound hbox).closed
        (next_append htop.sound box).closed))
    · exact hwithin'.leaves_openNo.grown.closed (htop.closed v hbefore hnew hv₀)
  · exact hwithin'.forks_openNo.closed
  · refine hloop.closed (hbody.closed v hlt₁ ?_ hend)
    rw [size_entered]
    show v = ((draft.append .join).append box).chart.size ∨ _
    rw [size_append]
    omega

end Draft

namespace Stmt

open Draft

/-- What the result of a drawing says of the draft it began with. -/
def Outcome (draft : Draft) : EStateM.Result Refusal Draft Unit → Prop
  | .ok _ draft' => draft.Completes draft'
  | .error _ draft' => draft.Leaves draft'

/-- Drawing keeps its promise from every sound draft. -/
def Grows (drawing : Drawing Unit) : Prop :=
  ∀ draft : Draft, draft.Sound → Outcome draft (drawing.run draft)

/-- Statements drawn one after the other. -/
theorem grows_drawAll {medium : Medium} {stmts : List Stmt}
    (h : ∀ stmt ∈ stmts, Grows (stmt.draw medium)) : Grows (drawAll medium stmts) := by
  induction stmts with
  | nil =>
      intro draft hsound
      exact Completes.refl hsound
  | cons stmt rest ih =>
      intro draft hsound
      have hfirst := h stmt List.mem_cons_self draft hsound
      rw [run_drawAll_cons]
      cases hrun : (stmt.draw medium).run draft with
      -- The refusal of the first statement is that of all.
      | error refusal draft₁ =>
          rw [hrun] at hfirst
          exact hfirst
      | ok _ draft₁ =>
          rw [hrun] at hfirst
          have hrest := ih (fun s hs => h s (List.mem_cons_of_mem _ hs)) draft₁ hfirst.sound
          simp only
          cases hrun' : (drawAll medium rest).run draft₁ with
          | error refusal draft₂ =>
              rw [hrun'] at hrest
              exact hfirst.toLeaves.trans hrest
          | ok _ draft₂ =>
              rw [hrun'] at hrest
              exact hfirst.trans hrest

/-- A step that may be refused and what follows it succeed together. -/
theorem bind_eq_ok {α β : Type} {x : Except Refusal α} {f : α → Except Refusal β} {b : β} :
    x >>= f = .ok b ↔ ∃ a, x = .ok a ∧ f a = .ok b := by
  cases x with
  | error refusal => exact ⟨fun h => (nomatch h), fun ⟨_, h, _⟩ => (nomatch h)⟩
  | ok a =>
      refine ⟨fun h => ⟨a, rfl, h⟩, fun ⟨a', ha, hf⟩ => ?_⟩
      cases ha
      exact hf

/-- A statement is drawn as something read, assigned, shown or done. -/
theorem box?_cases {stmt : Stmt} {box : Box} (h : stmt.box? = some (.ok box)) :
    (∃ name, box = .input name) ∨ (∃ name value, box = .assignment name value) ∨
      (∃ values, box = .output values) ∨ ∃ text, box = .process text := by
  cases stmt with
  | read target =>
      have hbox : readBox target = .ok box := Option.some.inj h
      -- Each box is made from what was not refused on the way, and its form is that of the last
      -- step.
      simp only [readBox, bind_eq_ok] at hbox
      obtain ⟨_, _, name, _, hbox⟩ := hbox
      cases hbox
      exact Or.inl ⟨name, rfl⟩
  | assign target value =>
      have hbox : assignBox target value = .ok box := Option.some.inj h
      simp only [assignBox, bind_eq_ok] at hbox
      obtain ⟨_, _, _, _, name, _, value, _, hbox⟩ := hbox
      cases hbox
      exact Or.inr (Or.inl ⟨name, value, rfl⟩)
  | update target sign value =>
      have hbox : updateBox target sign value = .ok box := Option.some.inj h
      simp only [updateBox, bind_eq_ok] at hbox
      obtain ⟨_, _, _, _, _, _, name, _, _, _, hbox⟩ := hbox
      cases hbox
      exact Or.inr (Or.inl ⟨name, _, rfl⟩)
  | perform function args keywords =>
      have hbox : performBox function args keywords = .ok box := Option.some.inj h
      simp only [performBox, bind_eq_ok] at hbox
      obtain ⟨_, _, isPrinter, _, hbox⟩ := hbox
      cases isPrinter with
      | false =>
          simp only [Bool.false_eq_true, if_false, bind_eq_ok] at hbox
          obtain ⟨_, _, text, _, hbox⟩ := hbox
          cases hbox
          exact Or.inr (Or.inr (Or.inr ⟨text, rfl⟩))
      | true =>
          simp only [if_true, bind_eq_ok] at hbox
          obtain ⟨_, _, values, _, hbox⟩ := hbox
          cases hbox
          exact Or.inr (Or.inr (Or.inl ⟨values, rfl⟩))
  | ifElse | whileLoop | skip | program | refused => exact nomatch h

/-- The box of a statement is neither a condition nor a joint. -/
theorem box?_plain {stmt : Stmt} {box : Box} (h : stmt.box? = some (.ok box)) :
    box.isCondition = false ∧ box.isJoint = false := by
  rcases box?_cases h with ⟨_, rfl⟩ | ⟨_, _, rfl⟩ | ⟨_, rfl⟩ | ⟨_, rfl⟩ <;> exact ⟨rfl, rfl⟩

/-- The box of a condition is one. -/
theorem isCondition_conditionBox {test : Expr} {box : Box} (h : conditionBox test = .ok box) :
    box.isCondition = true := by
  simp only [conditionBox, bind_eq_ok] at h
  obtain ⟨_, _, _, _, hbox⟩ := h
  cases hbox
  rfl

/-- A statement that is drawn as one box keeps the promise. -/
theorem grows_single {medium : Medium} {stmt : Stmt} {box : Except Refusal Box}
    (h : stmt.box? = some box) : Grows (stmt.draw medium) := by
  intro draft hsound
  rw [run_draw_single medium h]
  cases box with
  | ok box => exact completes_append hsound box (box?_plain h).1
  | error refusal => exact (Completes.refl hsound).toLeaves

/-- A condition keeps the promise if its two sides do. -/
theorem grows_ifElse {medium : Medium} {test : Expr} {body orelse : List Stmt}
    (hbody : Grows (drawAll medium body)) (horelse : Grows (drawAll medium orelse)) :
    Grows (draw medium (.ifElse test body orelse)) := by
  intro draft hsound
  rw [run_draw_ifElse]
  cases hbox : conditionBox test with
  | error refusal => exact (Completes.refl hsound).toLeaves
  | ok box =>
      have hcond := isCondition_conditionBox hbox
      have hwithin := within_entered hsound hcond
      have hfirst := hbody _ (sound_entered hsound hcond)
      simp only
      cases hrun : (drawAll medium body).run (draft.entered box) with
      -- A refusal in the first side leaves the draft within the condition.
      | error refusal draft₁ =>
          rw [hrun] at hfirst
          exact (hwithin.leaves hfirst).toLeaves hfirst.sound
      | ok _ draft₁ =>
          rw [hrun] at hfirst
          have hwithin₁ := hwithin.leaves hfirst.toLeaves
          have hno := hwithin₁.leaves_openNo
          have hsecond := horelse _ hno.sound
          simp only
          cases hrun' : (drawAll medium orelse).run
              (draft₁.openBranch draft.chart.size .no) with
          -- A refusal in the second side comes when both sides have been opened.
          | error refusal draft₂ =>
              rw [hrun'] at hsecond
              exact hno.trans hsecond
          | ok _ draft₂ =>
              rw [hrun'] at hsecond
              exact completes_joinWith hsound hcond hfirst hsecond

/-- A loop keeps the promise if its body does. -/
theorem grows_whileLoop {medium : Medium} {test : Expr} {body orelse : List Stmt}
    {refusal : Refusal} (hbody : Grows (drawAll medium body)) :
    Grows (draw medium (.whileLoop test body orelse refusal)) := by
  intro draft hsound
  cases medium with
  -- A console refuses every loop before anything of it is drawn.
  | console => exact (Completes.refl hsound).toLeaves
  | graph =>
      have htop := completes_append hsound .join rfl
      rw [run_draw_whileLoop]
      cases hbox : conditionBox test with
      | error refusal => exact htop.toLeaves
      | ok box =>
          have hcond := isCondition_conditionBox hbox
          have hfirst := hbody _ (sound_entered htop.sound hcond)
          simp only
          cases hrun : (drawAll .graph body).run ((draft.append .join).entered box) with
          | error refusal draft₁ =>
              rw [hrun] at hfirst
              exact htop.toLeaves.trans
                (((within_entered htop.sound hcond).leaves hfirst).toLeaves hfirst.sound)
          | ok _ draft₁ =>
              rw [hrun] at hfirst
              exact completes_loop hsound hcond hfirst

/-- A program keeps the promise if its statements do. -/
theorem grows_program {medium : Medium} {body : List Stmt} (hbody : Grows (drawAll medium body)) :
    Grows (draw medium (.program body)) := by
  intro draft hsound
  have hfirst := hbody draft hsound
  rw [run_draw_program]
  cases hrun : (drawAll medium body).run draft with
  | error refusal draft₁ =>
      rw [hrun] at hfirst
      exact hfirst
  | ok _ draft₁ =>
      rw [hrun] at hfirst
      cases medium with
      | graph => exact hfirst.trans (completes_append hfirst.sound .stop rfl)
      | console => exact hfirst

/-- Every statement keeps the promise, on every medium. -/
theorem grows_draw (medium : Medium) (stmt : Stmt) : Grows (stmt.draw medium) := by
  induction stmt using nestedInduction with
  | single stmt box hbox => exact grows_single hbox
  | ifElse test body orelse hbody horelse =>
      exact grows_ifElse (grows_drawAll hbody) (grows_drawAll horelse)
  | whileLoop test body orelse refusal hbody => exact grows_whileLoop (grows_drawAll hbody)
  | skip => exact fun draft hsound => Completes.refl hsound
  | program body hbody => exact grows_program (grows_drawAll hbody)
  | refused refusal => exact fun draft hsound => (Completes.refl hsound).toLeaves

/-- A statement that is not refused is drawn to its end. -/
theorem completes_draw {medium : Medium} {stmt : Stmt} {draft draft' : Draft} (h : draft.Sound)
    (hrun : (stmt.draw medium).run draft = .ok () draft') : draft.Completes draft' := by
  have hgrows := grows_draw medium stmt draft h
  rw [hrun] at hgrows
  exact hgrows

/-- Statements none of which is refused are drawn to their end. -/
theorem completes_drawAll {medium : Medium} {stmts : List Stmt} {draft draft' : Draft}
    (h : draft.Sound) (hrun : (drawAll medium stmts).run draft = .ok () draft') :
    draft.Completes draft' := by
  have hgrows : Grows (drawAll medium stmts) := grows_drawAll fun s _ => grows_draw medium s
  have houtcome := hgrows draft h
  rw [hrun] at houtcome
  exact houtcome

end Stmt

namespace Draft

/-! ### Series of calls -/

/-- The draft that is left behind, whether a drawing has come to its end or was refused. -/
def left : EStateM.Result Refusal Draft Unit → Draft
  | .ok _ draft => draft
  | .error _ draft => draft

/-- The draft that a call leaves behind. -/
def after (medium : Medium) (draft : Draft) (call : Stmt) : Draft :=
  left ((call.draw medium).run draft)

/-- The draft that a series of calls leaves behind, the first of which finds a start only. -/
def afterAll (medium : Medium) (calls : List Stmt) : Draft :=
  calls.foldl (after medium) empty

/-- The last call of a series finds what the others have left behind. -/
theorem afterAll_snoc (medium : Medium) (calls : List Stmt) (call : Stmt) :
    afterAll medium (calls ++ [call]) = (afterAll medium calls).after medium call := by
  rw [afterAll, List.foldl_append]
  rfl

/-- No call of a series is refused. -/
def AllDrawn (medium : Medium) (calls : List Stmt) : Prop :=
  ∀ earlier call later, calls = earlier ++ call :: later →
    ∃ draft, (call.draw medium).run (afterAll medium earlier) = .ok () draft

/-- A call keeps the weaker promise in any case. -/
theorem leaves_after (medium : Medium) {draft : Draft} (h : draft.Sound) (call : Stmt) :
    draft.Leaves (draft.after medium call) := by
  have hgrows := Stmt.grows_draw medium call draft h
  unfold after
  cases hrun : (call.draw medium).run draft with
  | ok _ draft' =>
      rw [hrun] at hgrows
      exact hgrows.toLeaves
  | error refusal draft' =>
      rw [hrun] at hgrows
      exact hgrows

/-- Every series of calls leaves a sound draft behind. -/
theorem sound_afterAll (medium : Medium) (calls : List Stmt) : (afterAll medium calls).Sound := by
  have key : ∀ (calls : List Stmt) (draft : Draft), draft.Sound →
      (calls.foldl (after medium) draft).Sound := by
    intro calls
    induction calls with
    | nil => exact fun draft h => h
    | cons call rest ih => exact fun draft h => ih _ (leaves_after medium h call).sound
  exact key calls empty sound_empty

/-- As long as no call is refused, the current node is the only one with an open link. -/
theorem closed_afterAll (medium : Medium) (calls : List Stmt) (h : AllDrawn medium calls) :
    ∀ v, v < (afterAll medium calls).chart.size → v ≠ (afterAll medium calls).current →
      (afterAll medium calls).chart.Closed v := by
  induction calls using List.reverseRecOn with
  | nil =>
      intro v hv hne
      exact absurd (Nat.lt_one_iff.mp hv) hne
  | append_singleton calls call ih =>
      have hsound := sound_afterAll medium calls
      obtain ⟨draft, hrun⟩ := h calls call [] rfl
      have hlast : afterAll medium (calls ++ [call]) = draft := by
        rw [afterAll_snoc, after, hrun, left]
      have hgrows := Stmt.completes_draw hsound hrun
      rw [hlast]
      intro v hv hne
      -- The last call closes what it has drawn and where it has begun; the rest was closed before.
      by_cases hnew : v = (afterAll medium calls).current ∨ (afterAll medium calls).chart.size ≤ v
      · exact hgrows.closed v hv hnew hne
      · obtain ⟨hcurrent, hsize⟩ := not_or.mp hnew
        have hbefore : AllDrawn medium calls := by
          intro earlier c later hcalls
          exact h earlier c (later ++ [call]) (by rw [hcalls]; simp)
        exact hgrows.grown.closed (ih hbefore v (Nat.lt_of_not_le hsize) hcurrent)

/-- The draft after any series of calls, the last of which finds the draft `before`.  Each call may
succeed or be refused at any depth.  The current node is reached from the start, is no condition and
has an open link; every node is reached from the start; and the last call has added nodes and turned
open links, and done nothing else.  If no call was refused, the link of the current node is the only
open one. -/
theorem open_at_current_afterAll (medium : Medium) (calls : List Stmt) (call : Stmt) :
    let before := afterAll medium calls
    let draft := afterAll medium (calls ++ [call])
    (∃ node, draft.chart[draft.current]? = some node ∧ node.box.isCondition = false ∧
      node.exit = .next .nowhere) ∧
    draft.chart.Reaches 0 draft.current ∧
    (∀ v, v < draft.chart.size → draft.chart.Reaches 0 v) ∧
    before.chart.Extends draft.chart ∧
    (AllDrawn medium (calls ++ [call]) → ∀ v node, draft.chart[v]? = some node →
      Link.nowhere ∈ node.exit.links → v = draft.current) := by
  intro before draft
  have hsound : draft.Sound := sound_afterAll medium (calls ++ [call])
  refine ⟨?_, hsound.built.connected hsound.current_lt, fun v => hsound.built.connected, ?_, ?_⟩
  · obtain ⟨node, hnode, hexit⟩ := hsound.ready
    refine ⟨node, hnode, ?_, hexit⟩
    -- A condition would have two links.
    cases hcond : node.box.isCondition with
    | false => rfl
    | true =>
        have hbranch := hsound.built.branches hnode hcond
        rw [hexit] at hbranch
        exact nomatch hbranch
  · have hleaves := leaves_after medium (sound_afterAll medium calls) call
    rw [← afterAll_snoc] at hleaves
    exact hleaves.grown
  · intro hall v node hnode hopen
    by_contra hne
    obtain ⟨node', hnode', hclosed⟩ :=
      closed_afterAll medium (calls ++ [call]) hall v (Chart.lt_size hnode) hne
    rw [hnode] at hnode'
    cases hnode'
    exact hclosed hopen

end Draft

end Flowchart
