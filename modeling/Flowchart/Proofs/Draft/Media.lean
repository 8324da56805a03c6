import Flowchart.Chart.Draft.Console
import Flowchart.Chart.Draft.Graph
import Flowchart.Proofs.Chart.Edits
import Flowchart.Proofs.Program.Forms
import Mathlib.Data.Set.Function

/-!
# `Flowchart.Proofs.Draft.Media`: a graph and a console show the same statements the same way

Trees are drawn for a graph and for a console by two functions that have nothing in common but the
texts of the boxes.  The nodes of a console know where they were drawn from, those of a graph do
not.  So the drafts are compared after the parents are forgotten (`Draft.bare`).

* For each change of a draft, forgetting the parents before it or after it is the same
  (`bare_append` and so on).
* `Forgets` relates two drawings that go on in step: from a draft without parents the first comes to
  the end of the second without parents, be it refused or not.  It holds of each step, and of steps
  one after the other (`Forgets.bind`).
* `forgets_draw`: so do the two drawings of a tree in which there is no loop.  The induction is on
  the statements of the tree, one case for each form.

`drawAll_alike` reads this for a list of trees: after every number of them both drawings have gone
through, or both were refused for the same reason, and a renaming of the nodes carries the one draft
to the other.
-/

set_option autoImplicit false

namespace Flowchart

/-! ### Forgetting the parents -/

/-- A node that does not know where it was drawn from. -/
def Node.bare (node : Node) : Node :=
  { node with parent := none, otherParent := none }

namespace Chart

/-- A chart whose nodes do not know where they were drawn from. -/
def bare (chart : Chart) : Chart :=
  chart.map Node.bare

/-- No node is lost. -/
@[simp] theorem size_bare (chart : Chart) : chart.bare.size = chart.size :=
  Array.size_map

/-- Each node is bare. -/
theorem getElem?_bare (chart : Chart) (v : NodeId) : chart.bare[v]? = chart[v]?.map Node.bare :=
  Array.getElem?_map

/-- A bare node was there before. -/
theorem exists_of_getElem?_bare {chart : Chart} {v : NodeId} {node : Node}
    (h : chart.bare[v]? = some node) : ∃ old, chart[v]? = some old ∧ node = old.bare := by
  rw [getElem?_bare] at h
  obtain ⟨old, hold, rfl⟩ := Option.map_eq_some_iff.mp h
  exact ⟨old, hold, rfl⟩

/-- A new node is added as it is, without its parents. -/
theorem bare_add (chart : Chart) (node : Node) :
    (chart.add node).bare = chart.bare.add node.bare := by
  simp [bare, add]

/-- Links stay when the parents are forgotten. -/
theorem bare_setNext (chart : Chart) (u : NodeId) (target : Link) :
    (chart.setNext u target).bare = chart.bare.setNext u target := by
  refine Array.ext_getElem? fun v => ?_
  rw [getElem?_bare, getElem?_setNext, getElem?_setNext, getElem?_bare]
  split
  · cases chart[v]? <;> rfl
  · rfl

/-- A bare node shares the branches of the same node as before. -/
theorem owner_bare (chart : Chart) (v : NodeId) : chart.bare.owner v = chart.owner v := by
  rw [owner, owner, getElem?_bare, Option.map_map]
  rfl

/-- Branches stay when the parents are forgotten. -/
theorem bare_setSlot (chart : Chart) (u : NodeId) (side : Branch) (target : Link) :
    (chart.setSlot u side target).bare = chart.bare.setSlot u side target := by
  refine Array.ext_getElem? fun v => ?_
  rw [getElem?_bare, setSlot, setSlot, owner_bare, Array.getElem?_modify, Array.getElem?_modify,
    getElem?_bare]
  split
  · cases chart[v]? <;> rfl
  · rfl

end Chart

namespace Draft

/-- A draft whose nodes do not know where they were drawn from. -/
def bare (draft : Draft) : Draft :=
  ⟨draft.chart.bare, draft.current⟩

/-- The start has no parents. -/
theorem bare_empty : empty.bare = empty := by
  simp [bare, empty, Chart.bare, Node.bare, Node.ofBox]

/-- A box is drawn in the same place, with parents or without. -/
theorem bare_append (draft : Draft) (box : Box) :
    (draft.append box).bare = Graph.append draft.bare box := by
  simp only [bare, append, Graph.append, Chart.bare_setNext, Chart.bare_add, Chart.size_bare]
  rfl

/-- A side of a condition is opened in the same place. -/
theorem bare_openBranch (draft : Draft) (condition : NodeId) (side : Branch) :
    (draft.openBranch condition side).bare = Graph.openBranch draft.bare condition side := by
  simp only [bare, openBranch, Graph.openBranch, Chart.bare_setSlot, Chart.bare_add,
    Chart.size_bare]
  rfl

/-- Two paths meet in the same place. -/
theorem bare_joinWith (draft : Draft) (other : NodeId) :
    (draft.joinWith other).bare = Graph.joinWith draft.bare other := by
  simp only [bare, joinWith, Graph.joinWith, Chart.bare_setNext, Chart.bare_add, Chart.size_bare]
  rfl

/-- A path is led back to the same node. -/
theorem bare_closeLoop (draft : Draft) (top : NodeId) :
    (draft.closeLoop top).bare = draft.bare.closeLoop top := by
  simp only [bare, closeLoop, Chart.bare_setNext]

end Draft

/-! ### Drawings in step -/

namespace Stmt

/-- What a drawing leaves behind, without the parents. -/
def bareResult {α : Type} : EStateM.Result Refusal Draft α → EStateM.Result Refusal Draft α
  | .ok a draft => .ok a draft.bare
  | .error refusal draft => .error refusal draft.bare

/-- The first drawing goes on in step with the second one, without the parents: it returns the same,
is refused for the same reason, and leaves the same nodes behind. -/
def Forgets {α : Type} (plain full : Drawing α) : Prop :=
  ∀ draft, plain.run draft.bare = bareResult (full.run draft)

/-- A step that only returns something. -/
theorem forgets_pure {α : Type} (a : α) : Forgets (pure a) (pure a) :=
  fun _ => rfl

/-- A step that is refused. -/
theorem forgets_throw {α : Type} (refusal : Refusal) :
    Forgets (throw refusal : Drawing α) (throw refusal) :=
  fun _ => rfl

/-- A result that may be a refusal. -/
theorem forgets_lift {α : Type} (result : Except Refusal α) :
    Forgets (Drawing.lift result) (Drawing.lift result) := by
  cases result with
  | ok a => exact forgets_pure a
  | error refusal => exact forgets_throw refusal

/-- What stands in the place of a list. -/
theorem forgets_refuseFirst (refusals : List Refusal) :
    Forgets (Drawing.refuseFirst refusals) (Drawing.refuseFirst refusals) := by
  cases refusals with
  | nil => exact forgets_pure ()
  | cons refusal _ => exact forgets_throw refusal

/-- Both drawings are at the same node. -/
theorem forgets_current : Forgets Drawing.current Drawing.current :=
  fun _ => rfl

/-- Two changes of a draft that differ in the parents only. -/
theorem forgets_modify {f g : Draft → Draft} (h : ∀ draft, (g draft).bare = f draft.bare) :
    Forgets (modify f : Drawing Unit) (modify g) :=
  fun draft => congrArg (EStateM.Result.ok ()) (h draft).symm

/-- Steps one after the other. -/
theorem Forgets.bind {α β : Type} {plain full : Drawing α} {plainNext fullNext : α → Drawing β}
    (h : Forgets plain full) (hnext : ∀ a, Forgets (plainNext a) (fullNext a)) :
    Forgets (plain >>= plainNext) (full >>= fullNext) := by
  intro draft
  rw [EStateM.run_bind, EStateM.run_bind, h draft]
  cases full.run draft with
  | ok a draft' => exact hnext a draft'
  | error refusal draft' => rfl

/-- A box is drawn. -/
theorem forgets_append (box : Box) :
    Forgets (modify (Graph.append · box) : Drawing Unit) (modify (·.append box)) :=
  forgets_modify fun draft => draft.bare_append box

/-- A side of a condition is opened. -/
theorem forgets_openBranch (condition : NodeId) (side : Branch) :
    Forgets (modify (Graph.openBranch · condition side) : Drawing Unit)
      (modify (·.openBranch condition side)) :=
  forgets_modify fun draft => draft.bare_openBranch condition side

/-- Two paths meet. -/
theorem forgets_joinWith (other : NodeId) :
    Forgets (modify (Graph.joinWith · other) : Drawing Unit) (modify (·.joinWith other)) :=
  forgets_modify fun draft => draft.bare_joinWith other

/-- A path is led back. -/
theorem forgets_closeLoop (top : NodeId) :
    Forgets (modify (·.closeLoop top) : Drawing Unit) (modify (·.closeLoop top)) :=
  forgets_modify fun draft => draft.bare_closeLoop top

/-- A box is drawn, unless it is refused. -/
theorem forgets_box (box : Except Refusal Box) :
    Forgets (Drawing.lift box >>= fun box => modify (Graph.append · box))
      (Drawing.lift box >>= fun box => modify (·.append box)) :=
  .bind (forgets_lift box) forgets_append

end Stmt

/-! ### Trees without loops -/

namespace Tree

mutual

/-- Whether there is no loop in a statement, at any depth.  A program is not a statement. -/
def isLoopFree : Tree → Bool
  | .node .ifStmt [_, body, orelse] _ => itemsLoopFree body && itemsLoopFree orelse
  | .node .whileStmt _ _ | .node .program _ _ => false
  | _ => true

/-- Whether there is no loop in the statements of a field. -/
def itemsLoopFree : Tree → Bool
  | .list items => areLoopFree items
  | _ => true

/-- Whether there is no loop in several statements. -/
def areLoopFree : List Tree → Bool
  | [] => true
  | t :: rest => t.isLoopFree && areLoopFree rest

end

/-- Several statements are without loops if each of them is. -/
theorem areLoopFree_iff {trees : List Tree} :
    areLoopFree trees = true ↔ ∀ t ∈ trees, t.isLoopFree = true := by
  induction trees with
  | nil => simp [areLoopFree]
  | cons t rest ih => simp [areLoopFree, ih]

/-- The statements of a field without loops. -/
theorem isLoopFree_of_mem {field : Tree} (h : field.itemsLoopFree = true) {t : Tree}
    (ht : t ∈ field.statements) : t.isLoopFree = true := by
  cases field with
  | list items =>
      rw [itemsLoopFree] at h
      exact areLoopFree_iff.mp h t ht
  | node | constant | absent => cases ht

end Tree

open Stmt

/-- Trees that are drawn in step are so one after the other. -/
theorem forgets_drawAll {trees : List Tree}
    (h : ∀ t ∈ trees, Forgets (Graph.draw t) (Console.draw t)) :
    Forgets (Graph.drawAll trees) (Console.drawAll trees) := by
  induction trees with
  | nil =>
      rw [Graph.drawAll, Console.drawAll]
      exact forgets_pure ()
  | cons t rest ih =>
      rw [Graph.drawAll, Console.drawAll]
      exact .bind (h t List.mem_cons_self) fun _ => ih fun s hs => h s (List.mem_cons_of_mem _ hs)

/-- The statements of a field that are drawn in step. -/
theorem forgets_drawItems {field : Tree}
    (h : ∀ t ∈ field.statements, Forgets (Graph.draw t) (Console.draw t)) :
    Forgets (Graph.drawItems field) (Console.drawItems field) := by
  cases field with
  | list items =>
      rw [Graph.drawItems, Console.drawItems]
      exact forgets_drawAll h
  | node | constant | absent =>
      rw [Graph.drawItems, Console.drawItems]
      · exact forgets_refuseFirst _
      all_goals simp

/-- Both drawings go on in step at an assignment. -/
theorem forgets_drawAssign (targets value : Tree) :
    Forgets (Graph.drawAssign targets value) (Console.drawAssign targets value) := by
  refine .bind (forgets_lift (isInput value)) fun isRead => ?_
  cases isRead with
  | true => exact forgets_box (readBox (targetOf targets))
  | false => exact forgets_box (assignBox (targetOf targets) (Expr.ofTree value))

/-- Both drawings go on in step at an expression that stands alone. -/
theorem forgets_drawEffect (value : Tree) :
    Forgets (Graph.drawEffect value) (Console.drawEffect value) := by
  fun_cases Tree.effectBox value with
  | case1 => exact forgets_box _
  | case2 =>
      rw [Graph.drawEffect, Console.drawEffect]
      · exact forgets_throw _
      all_goals assumption

/-- Both drawings go on in step at a condition. -/
theorem forgets_drawTest (test : Tree) :
    Forgets (Graph.drawTest test) (Console.drawTest test) :=
  .bind (forgets_lift _) fun box => .bind (forgets_append box) fun _ => forgets_current

/-- A tree without a form is refused for a graph. -/
theorem Graph.draw_other {t : Tree} (h : t.isStatement = false) :
    Graph.draw t = throw t.refusalOfForm := by
  fun_cases Tree.refusalOfForm t with
  | case1 => rw [Graph.draw]
  | case2 =>
      rw [Graph.draw]
      all_goals first | assumption | (intros; subst_vars; cases h)

/-- A tree without a form is refused for a console. -/
theorem Console.draw_other {t : Tree} (h : t.isStatement = false) :
    Console.draw t = throw t.refusalOfForm := by
  fun_cases Tree.refusalOfForm t with
  | case1 => rw [Console.draw]
  | case2 =>
      rw [Console.draw]
      all_goals first | assumption | (intros; subst_vars; cases h)

/-- A tree without loops is drawn in step for a graph and for a console. -/
theorem forgets_draw (t : Tree) (h : t.isLoopFree = true) :
    Forgets (Graph.draw t) (Console.draw t) := by
  induction t using Tree.statementInduction with
  | assign targets value comment place =>
      rw [Graph.draw, Console.draw]
      exact forgets_drawAssign targets value
  | update target op value place =>
      rw [Graph.draw, Console.draw]
      exact forgets_box _
  | effect value place =>
      rw [Graph.draw, Console.draw]
      exact forgets_drawEffect value
  | ifElse test body orelse place hbody horelse =>
      rw [Tree.isLoopFree, Bool.and_eq_true] at h
      have hyes := forgets_drawItems fun t ht => hbody t ht (Tree.isLoopFree_of_mem h.1 ht)
      have hno := forgets_drawItems fun t ht => horelse t ht (Tree.isLoopFree_of_mem h.2 ht)
      rw [Graph.draw, Console.draw]
      -- The condition, the body beside it, the other side, and the join of the two.
      refine .bind (forgets_drawTest test) fun condition => ?_
      refine .bind (forgets_openBranch condition .yes) fun _ => .bind hyes fun _ => ?_
      refine .bind forgets_current fun bodyEnd => ?_
      refine .bind (forgets_openBranch condition .no) fun _ => .bind hno fun _ => ?_
      exact forgets_joinWith bodyEnd
  | skip fields place =>
      rw [Graph.draw, Console.draw]
      exact forgets_pure ()
  | other t hform =>
      rw [Graph.draw_other hform, Console.draw_other hform]
      exact forgets_throw _
  -- Loops and programs are what the two drawings treat differently.
  | whileLoop | program => simp [Tree.isLoopFree] at h

/-! ### Drafts that differ in the numbers of their nodes -/

/-- A link after a renaming of the nodes. -/
def Link.map (f : NodeId → NodeId) : Link → Link
  | nowhere => nowhere
  | node v => node (f v)
  | fork owner => fork (f owner)

/-- An exit after a renaming of the nodes. -/
def Exit.map (f : NodeId → NodeId) : Exit → Exit
  | next target => next (target.map f)
  | branch no yes => branch (no.map f) (yes.map f)

/-- Without a change of numbers a link stays. -/
@[simp] theorem Link.map_id (target : Link) : target.map id = target := by
  cases target <;> rfl

/-- Without a change of numbers an exit stays. -/
@[simp] theorem Exit.map_id (exit : Exit) : exit.map id = exit := by
  cases exit <;> simp [Exit.map]

namespace Draft

/-- The renaming is a bijection of the nodes of two drafts, takes the start and the current node of
the first one to those of the second, and keeps every box and every link, open links included. -/
structure Renames (f : NodeId → NodeId) (draft draft' : Draft) : Prop where
  bijective : Set.BijOn f {v | v < draft.chart.size} {v | v < draft'.chart.size}
  start : f 0 = 0
  current : f draft.current = draft'.current
  nodes : ∀ v node, draft.chart[v]? = some node → ∃ node', draft'.chart[f v]? = some node' ∧
    node'.box = node.box ∧ node'.exit = node.exit.map f

/-- Two drafts are the same but for the numbers of their nodes. -/
def Isomorphic (draft draft' : Draft) : Prop :=
  ∃ f, Renames f draft draft'

/-- A draft is the same without its parents. -/
theorem isomorphic_bare (draft : Draft) : draft.bare.Isomorphic draft := by
  refine ⟨id, ?_, rfl, rfl, ?_⟩
  · rw [bare, Chart.size_bare]
    exact Set.bijOn_id _
  · intro v node hnode
    obtain ⟨old, hold, rfl⟩ := Chart.exists_of_getElem?_bare hnode
    exact ⟨old, hold, rfl, (Exit.map_id old.exit).symm⟩

end Draft

/-- Two drawings end alike: both come to their end, or both are refused for the same reason, and
what they leave behind is the same but for the numbers of the nodes. -/
def EndAlike : EStateM.Result Refusal Draft Unit → EStateM.Result Refusal Draft Unit → Prop
  | .ok _ draft, .ok _ draft' => draft.Isomorphic draft'
  | .error refusal draft, .error refusal' draft' => refusal = refusal' ∧ draft.Isomorphic draft'
  | _, _ => False

/-- Drawings in step end alike. -/
theorem endAlike_bareResult (result : EStateM.Result Refusal Draft Unit) :
    EndAlike (bareResult result) result := by
  cases result with
  | ok _ draft => exact draft.isomorphic_bare
  | error refusal draft => exact ⟨rfl, draft.isomorphic_bare⟩

/-- Trees without loops are drawn alike for a graph and for a console: after every number of them
both drawings have gone through, or both have been refused for the same reason, which is then at the
same statement, and the drafts are the same but for the numbers of the nodes. -/
theorem drawAll_alike (trees : List Tree) (h : Tree.areLoopFree trees = true) (count : Nat) :
    EndAlike ((Graph.drawAll (trees.take count)).run Draft.empty)
      ((Console.drawAll (trees.take count)).run Draft.empty) := by
  have hstep : Forgets (Graph.drawAll (trees.take count)) (Console.drawAll (trees.take count)) :=
    forgets_drawAll fun t ht =>
      forgets_draw t (Tree.areLoopFree_iff.mp h t (List.mem_of_mem_take ht))
  rw [← Draft.bare_empty, hstep Draft.empty, Draft.bare_empty]
  exact endAlike_bareResult _

open Tree.Sample (skip choice read stranger) in
/-- A condition whose `no` side is never opened, since a statement in its body is refused. -/
theorem drawAll_alike_refused :
    let trees : List Tree := [skip, choice "a" [read "x", stranger] [skip], skip]
    Tree.areLoopFree trees = true ∧
      (∃ draft, (Graph.drawAll (trees.take 2)).run Draft.empty
        = .error (.noField "Pass" "lineno") draft ∧ draft.chart.size = 4) ∧
      EndAlike ((Graph.drawAll (trees.take 2)).run Draft.empty)
        ((Console.drawAll (trees.take 2)).run Draft.empty) :=
  ⟨rfl, ⟨_, rfl, rfl⟩, drawAll_alike _ rfl 2⟩

end Flowchart
