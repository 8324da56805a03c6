import Flowchart.Proofs.Draft.Growth

/-!
# `Flowchart.Proofs.Draft.Invariant`: what each change of a draft keeps

A drawing changes its draft by `append`, `openBranch`, `joinWith` and `closeLoop` and in no other
way.  So a property of drafts that each of these keeps (`Stmt.KeptByEdits`) is kept by every
drawing, be it refused or not (`Stmt.keptBy_draw`).  What every drawing keeps holds after each
series of them (`Stmt.KeptBy.afterAll`).
-/

set_option autoImplicit false

namespace Flowchart.Stmt

/-- Each change of a draft keeps a property of it. -/
structure KeptByEdits (P : Draft → Prop) : Prop where
  append : ∀ draft box, P draft → P (draft.append box)
  openBranch : ∀ draft condition side, P draft → P (draft.openBranch condition side)
  joinWith : ∀ draft other, P draft → P (draft.joinWith other)
  closeLoop : ∀ draft top, P draft → P (draft.closeLoop top)

/-- A drawing keeps a property of drafts, be it refused or not. -/
def KeptBy (P : Draft → Prop) {α : Type} (drawing : Drawing α) : Prop :=
  ∀ draft, P draft → match drawing.run draft with
    | .ok _ draft' => P draft'
    | .error _ draft' => P draft'

section Kept
variable {P : Draft → Prop}

/-- A drawing without effect keeps every property. -/
theorem keptBy_pure {α : Type} (a : α) : KeptBy P (pure a : Drawing α) :=
  fun _ h => h

/-- A refusal leaves the draft as it is. -/
theorem keptBy_throw {α : Type} (refusal : Refusal) : KeptBy P (throw refusal : Drawing α) :=
  fun _ h => h

/-- Looking up the current node leaves the draft as it is. -/
theorem keptBy_current : KeptBy P Drawing.current :=
  fun _ h => h

/-- A change of the draft keeps what the change keeps. -/
theorem keptBy_modify {f : Draft → Draft} (h : ∀ draft, P draft → P (f draft)) :
    KeptBy P (modify f : Drawing Unit) :=
  h

/-- Two drawings one after the other keep what each of them keeps. -/
theorem KeptBy.bind {α β : Type} {drawing : Drawing α} {next : α → Drawing β} (h : KeptBy P drawing)
    (hnext : ∀ a, KeptBy P (next a)) : KeptBy P (drawing >>= next) := by
  intro draft hdraft
  have hfirst := h draft hdraft
  rw [EStateM.run_bind]
  cases hrun : drawing.run draft with
  | error refusal draft₁ =>
      rw [hrun] at hfirst
      exact hfirst
  | ok a draft₁ =>
      rw [hrun] at hfirst
      exact hnext a draft₁ hfirst

/-- What a drawing keeps holds of the draft it completes. -/
theorem KeptBy.ok {α : Type} {drawing : Drawing α} (h : KeptBy P drawing) {draft draft' : Draft}
    (hdraft : P draft) {a : α} (hrun : drawing.run draft = .ok a draft') : P draft' := by
  have hkept := h draft hdraft
  rw [hrun] at hkept
  exact hkept

/-- What a drawing keeps holds of the draft that a refusal leaves behind. -/
theorem KeptBy.error {α : Type} {drawing : Drawing α} (h : KeptBy P drawing) {draft draft' : Draft}
    (hdraft : P draft) {refusal : Refusal} (hrun : drawing.run draft = .error refusal draft') :
    P draft' := by
  have hkept := h draft hdraft
  rw [hrun] at hkept
  exact hkept

/-- What every call keeps is kept by a series of calls, some of which may be refused. -/
theorem KeptBy.afterAll {medium : Medium} (h : ∀ call : Stmt, KeptBy P (call.draw medium))
    (hempty : P Draft.empty) (calls : List Stmt) : P (Draft.afterAll medium calls) := by
  induction calls using List.reverseRecOn with
  | nil => exact hempty
  | append_singleton calls call ih =>
      rw [Draft.afterAll_snoc, Draft.after]
      cases hrun : (call.draw medium).run (Draft.afterAll medium calls) with
      | ok _ draft => exact (h call).ok ih hrun
      | error refusal draft => exact (h call).error ih hrun

/-- A step that may be refused leaves the draft as it is. -/
theorem keptBy_lift {α : Type} (result : Except Refusal α) : KeptBy P (Drawing.lift result) := by
  cases result with
  | ok a => exact keptBy_pure a
  | error refusal => exact keptBy_throw refusal

/-- Statements drawn one after the other keep what each of them keeps. -/
theorem keptBy_drawAll {medium : Medium} {stmts : List Stmt}
    (h : ∀ stmt ∈ stmts, KeptBy P (stmt.draw medium)) : KeptBy P (drawAll medium stmts) := by
  induction stmts with
  | nil =>
      rw [drawAll]
      exact keptBy_pure ()
  | cons stmt rest ih =>
      rw [drawAll]
      exact .bind (h stmt List.mem_cons_self)
        fun _ => ih fun s hs => h s (List.mem_cons_of_mem _ hs)

variable (hP : KeptByEdits P)
include hP

/-- Appending a box keeps what each change of a draft keeps. -/
theorem keptBy_append (box : Box) : KeptBy P (Drawing.append box) :=
  .bind (keptBy_modify fun draft => hP.append draft box) fun _ => keptBy_current

/-- What each change of a draft keeps is kept by drawing. -/
theorem keptBy_draw (medium : Medium) (stmt : Stmt) : KeptBy P (stmt.draw medium) := by
  induction stmt using nestedInduction with
  | single stmt box hbox =>
      rw [draw_single medium hbox]
      exact .bind (keptBy_lift box) fun box => keptBy_modify fun draft => hP.append draft box
  | ifElse test body orelse hbody horelse =>
      rw [draw]
      refine .bind (keptBy_lift _) fun box => .bind (keptBy_append hP box) fun condition => ?_
      refine .bind (keptBy_modify fun draft => hP.openBranch draft condition .yes) fun _ => ?_
      refine .bind (keptBy_drawAll hbody) fun _ => .bind keptBy_current fun bodyEnd => ?_
      refine .bind (keptBy_modify fun draft => hP.openBranch draft condition .no) fun _ => ?_
      exact .bind (keptBy_drawAll horelse) fun _ =>
        keptBy_modify fun draft => hP.joinWith draft bodyEnd
  | whileLoop test body orelse refusal hbody =>
      cases medium with
      | console =>
          rw [draw]
          exact keptBy_throw refusal
      | graph =>
          rw [draw]
          refine .bind (keptBy_append hP .join) fun top => .bind (keptBy_lift _) fun box => ?_
          refine .bind (keptBy_append hP box) fun condition => ?_
          refine .bind (keptBy_modify fun draft => hP.openBranch draft condition .yes) fun _ => ?_
          refine .bind (keptBy_drawAll hbody) fun _ => ?_
          exact .bind (keptBy_modify fun draft => hP.closeLoop draft top) fun _ =>
            keptBy_modify fun draft => hP.openBranch draft condition .no
  | skip =>
      rw [draw]
      exact keptBy_pure ()
  | program body hbody =>
      cases medium with
      | graph =>
          rw [draw]
          exact .bind (keptBy_drawAll hbody)
            fun _ => keptBy_modify fun draft => hP.append draft .stop
      | console =>
          rw [draw]
          exact .bind (keptBy_drawAll hbody) fun _ => keptBy_pure ()
  | refused refusal =>
      rw [draw]
      exact keptBy_throw refusal

end Kept

end Flowchart.Stmt
