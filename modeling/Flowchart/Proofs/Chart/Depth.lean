import Flowchart.Chart.Layout
import Flowchart.Chart.Numbering

/-!
# `Flowchart.Proofs.Chart.Depth`: what the depth of a pass is for

The passes over a chart go down to a given depth, and give up with `Fault.endless` where that is not
enough.  The depth has no other part in what they do.  `Curtails` says this of two passes of which
the second has the greater depth: wherever the first one does not give up, both do the same.

It holds of steps one after the other (`Curtails.bind`), and so by induction on the depth of the
layout (`curtails_layOut`) and of numbering (`curtails_number`).
-/

set_option autoImplicit false

namespace Flowchart.Chart

/-- The first pass does the same as the second one, unless it gives up for want of depth. -/
def Curtails {σ α : Type} (pass pass' : EStateM Fault σ α) : Prop :=
  ∀ s, pass.run s = pass'.run s ∨ ∃ s', pass.run s = .error .endless s'

section
variable {σ α β : Type} {pass pass' : EStateM Fault σ α}

/-- A pass does the same as itself. -/
theorem Curtails.refl (pass : EStateM Fault σ α) : Curtails pass pass :=
  fun _ => Or.inl rfl

/-- What gives up at once curtails every pass. -/
theorem curtails_endless (pass : EStateM Fault σ α) : Curtails (throw .endless) pass :=
  fun s => Or.inr ⟨s, rfl⟩

/-- A pass may be curtailed more than once. -/
theorem Curtails.trans {pass'' : EStateM Fault σ α} (h : Curtails pass pass')
    (h' : Curtails pass' pass'') : Curtails pass pass'' := by
  intro s
  rcases h s with hsame | hgives
  · rw [hsame]
    exact h' s
  · exact Or.inr hgives

/-- Steps one after the other. -/
theorem Curtails.bind {next next' : α → EStateM Fault σ β} (h : Curtails pass pass')
    (hnext : ∀ a, Curtails (next a) (next' a)) : Curtails (pass >>= next) (pass' >>= next') := by
  intro s
  rw [EStateM.run_bind, EStateM.run_bind]
  rcases h s with hsame | ⟨s', hgives⟩
  · rw [hsame]
    cases pass'.run s with
    | ok a s' => exact hnext a s'
    | error fault s' => exact Or.inl rfl
  · rw [hgives]
    exact Or.inr ⟨s', rfl⟩

/-- A pass that comes to its end does so with more depth. -/
theorem Curtails.ok (h : Curtails pass pass') {s s' : σ} {a : α} (hrun : pass.run s = .ok a s') :
    pass'.run s = .ok a s' := by
  rcases h s with hsame | ⟨_, hgives⟩
  · rw [← hsame, hrun]
  · rw [hgives] at hrun
    cases hrun

end

/-- What curtails by one level curtails by any number of them. -/
theorem curtails_of_succ {σ α : Type} {pass : Nat → EStateM Fault σ α}
    (h : ∀ depth, Curtails (pass depth) (pass (depth + 1))) {depth depth' : Nat}
    (hle : depth ≤ depth') : Curtails (pass depth) (pass depth') := by
  induction hle with
  | refl => exact .refl _
  | step _ ih => exact ih.trans (h _)

/-! ### The layout -/

/-- A layout with one level less. -/
theorem curtails_layOut_succ (depth : Nat) (target : Link) (row column : Int) :
    Curtails (layOut depth target row column) (layOut (depth + 1) target row column) := by
  induction depth generalizing target row column with
  | zero =>
      rw [layOut]
      exact curtails_endless _
  | succ depth ih =>
      rw [layOut, layOut]
      -- The steps of both layouts are the same, up to where they go down one level.
      refine .bind (.refl _) fun chart => .bind (.refl _) fun (v, node) => ?_
      simp only
      split
      · exact .refl _
      · refine .bind (.refl _) fun _ => .bind (.refl _) fun chart => ?_
        split
        · refine .bind (.refl _) fun _ => .bind (.refl _) fun _ => .bind (.refl _) fun _ => ?_
          exact .bind (ih _ _ _) fun _ => .bind (.refl _) fun _ => ih _ _ _
        · exact .refl _
        · exact .refl _
        · exact ih _ _ _

/-- A layout does the same at every depth, unless it gives up. -/
theorem curtails_layOut {depth depth' : Nat} (h : depth ≤ depth') (target : Link)
    (row column : Int) :
    Curtails (layOut depth target row column) (layOut depth' target row column) :=
  curtails_of_succ (curtails_layOut_succ · target row column) h

/-! ### Numbering -/

/-- A side of a condition, behind which there is one level less. -/
theorem curtails_numberSide {walk walk' : NodeId → Plotting (Option Int)}
    (h : ∀ v, Curtails (walk v) (walk' v)) (v : NodeId) (side : Branch) (free : Int) :
    Curtails (numberSide walk v side free) (numberSide walk' v side free) := by
  unfold numberSide
  refine .bind (.refl _) fun plot => .bind (.refl _) fun (w, child) => ?_
  simp only
  split
  · exact .refl _
  · refine .bind (.refl _) fun _ => .bind (.refl _) fun _ => .bind (.refl _) fun _ => ?_
    exact .bind (h w) fun _ => .refl _

/-- Numbering with one level less. -/
theorem curtails_number_succ (depth : Nat) (v : NodeId) :
    Curtails (number depth v) (number (depth + 1) v) := by
  induction depth generalizing v with
  | zero =>
      rw [number]
      exact curtails_endless _
  | succ depth ih =>
      rw [number, number]
      refine .bind (.refl _) fun plot => .bind (.refl _) fun (_, node) => ?_
      simp only
      split
      · refine .bind (.refl _) fun _ => .bind (curtails_numberSide ih v .no _) fun _ => ?_
        exact .bind (curtails_numberSide ih v .yes _) fun _ => .refl _
      · exact .refl _
      · exact .refl _
      · refine .bind (.refl _) fun (w, child) => ?_
        simp only
        split
        · exact .refl _
        · refine .bind (.refl _) fun _ => .bind (.refl _) fun _ => .bind (.refl _) fun _ => ?_
          refine .bind (.refl _) fun _ => .bind (.refl _) fun _ => ?_
          exact .bind (ih w) fun _ => .refl _

/-- Numbering does the same at every depth, unless it gives up. -/
theorem curtails_number {depth depth' : Nat} (h : depth ≤ depth') (v : NodeId) :
    Curtails (number depth v) (number depth' v) :=
  curtails_of_succ (curtails_number_succ · v) h

end Flowchart.Chart
