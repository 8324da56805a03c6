import Flowchart.Command.Graph
import Flowchart.Proofs.Draft.Layout
import Flowchart.Proofs.Draft.Media

/-!
# `Flowchart.Proofs.Draft.Trees`: what is drawn of a tree

`Stmt.draw` draws a statement apart from its tree.  What is proved of it holds of trees, because the
drawings of a tree do the same as that of the statement for which it stands (`Stmt.ofTree`):

* `Console.draw_eq`: the drawing for a console is that of the statement.
* `Graph.forgets_draw`: the drawing for a graph goes on in step with that of the statement, without
  the parents.

Both are by induction on the statements of the tree.  For a whole program they say that a draft for
a console is that of its statements (`Command.run_of_drawn_console`), and that a draft for a graph
is so but for the parents (`Command.exists_run_of_drawn_graph`), and depicts the program in either
case (`Command.depicts_drawn`).
-/

set_option autoImplicit false

namespace Flowchart

/-- Only a call is read as one. -/
theorem Expr.ofTree_ne_call {t : Tree}
    (h : ∀ function args keywords place, t = .node .call [function, args, keywords] place → False)
    (function : Except Refusal Piece) (args keywords : List Expr) :
    Expr.ofTree t ≠ .call function args keywords := by
  fun_cases Expr.ofTree t <;> intro heq <;> cases heq
  exact h _ _ _ _ rfl

/-! ### Statements that are drawn as one box -/

namespace Stmt

/-- A statement that is drawn as the box, or is refused as the box is. -/
def StandsFor (stmt : Stmt) (box : Except Refusal Box) : Prop :=
  stmt.box? = some box ∨ ∃ refusal, stmt = .refused refusal ∧ box = .error refusal

/-- A refused statement stands for its refusal. -/
theorem standsFor_refused (refusal : Refusal) :
    (Stmt.refused refusal).StandsFor (.error refusal) :=
  Or.inr ⟨refusal, rfl, rfl⟩

/-- A statement that stands for a box draws it, unless it is refused. -/
theorem StandsFor.draw_eq {stmt : Stmt} {box : Except Refusal Box} (h : stmt.StandsFor box)
    (medium : Medium) :
    stmt.draw medium = Drawing.lift box >>= fun box => modify (·.append box) := by
  rcases h with h | ⟨refusal, rfl, rfl⟩
  · exact draw_single medium h
  · rw [draw]
    rfl

/-- An assignment stands for its box. -/
theorem standsFor_ofAssignment (targets value : Tree) :
    (ofAssignment targets value).StandsFor (Tree.assignmentBox targets value) := by
  unfold ofAssignment Tree.assignmentBox
  cases isInput value with
  | error refusal => exact Or.inr ⟨refusal, rfl, rfl⟩
  | ok isRead => cases isRead <;> exact Or.inl rfl

/-- An update stands for its box. -/
theorem standsFor_update (target op value : Tree) :
    (Stmt.update (nameOf target) (signOf op) (Expr.ofTree value)).StandsFor
      (Tree.updateBox target op value) :=
  Or.inl rfl

/-- An expression that stands alone is refused unless it is a call. -/
theorem ofEffect_other {value : Tree}
    (h : ∀ function args keywords place,
      value = .node .call [function, args, keywords] place → False) :
    ofEffect value = .refused (value.refuse .unknownEffect) := by
  unfold ofEffect
  split
  · next heq => exact absurd heq (Expr.ofTree_ne_call h _ _ _)
  · rfl

/-- An expression that stands alone stands for its box. -/
theorem standsFor_ofEffect (value : Tree) : (ofEffect value).StandsFor value.effectBox := by
  fun_cases Tree.effectBox value with
  | case1 function args keywords place =>
      rw [ofEffect, Expr.ofTree]
      exact Or.inl rfl
  | case2 _ hcall => exact Or.inr ⟨_, ofEffect_other hcall, rfl⟩

/-- A tree without a form stands for a statement that is refused. -/
theorem ofTree_other {t : Tree} (h : t.isStatement = false) :
    ofTree t = .refused t.refusalOfForm := by
  fun_cases Tree.refusalOfForm t with
  | case1 => rw [ofTree]
  | case2 =>
      rw [ofTree]
      all_goals first | assumption | (intros; subst_vars; cases h)

/-- The statements of a list. -/
theorem ofItems_list (items : List Tree) : ofItems (.list items) = items.map ofTree := by
  rw [ofItems]
  induction items with
  | nil => rw [ofTrees, List.map_nil]
  | cons t rest ih => rw [ofTrees, List.map_cons, ih]

/-- What stands in the place of a list is refused. -/
theorem ofItems_other {field : Tree} (h : ∀ items, field = .list items → False) :
    ofItems field = (refuseItems .unknownStatement .notList field).map .refused := by
  rw [ofItems]
  exact h

/-- Of several refusals the first one counts. -/
theorem drawAll_refused (medium : Medium) (refusals : List Refusal) :
    drawAll medium (refusals.map .refused) = Drawing.refuseFirst refusals := by
  cases refusals with
  | nil => rw [List.map_nil, drawAll, Drawing.refuseFirst]
  | cons refusal rest =>
      rw [List.map_cons, drawAll, draw]
      rfl

end Stmt

open Stmt

/-! ### The drawing for a console -/

namespace Console

/-- An assignment is drawn as its box. -/
theorem drawAssign_eq (targets value : Tree) : drawAssign targets value =
    Drawing.lift (Tree.assignmentBox targets value) >>= fun box => modify (·.append box) := by
  unfold drawAssign Tree.assignmentBox
  cases isInput value with
  | error refusal => rfl
  | ok isRead => cases isRead <;> rfl

/-- An expression that stands alone is drawn as its box. -/
theorem drawEffect_eq (value : Tree) : drawEffect value =
    Drawing.lift value.effectBox >>= fun box => modify (·.append box) := by
  fun_cases Tree.effectBox value with
  | case1 => rw [drawEffect]
  | case2 _ hcall =>
      rw [drawEffect]
      · rfl
      · exact hcall

/-- Trees are drawn one after the other as their statements. -/
theorem drawAll_eq {trees : List Tree} (h : ∀ t ∈ trees, draw t = (ofTree t).draw .console) :
    drawAll trees = Stmt.drawAll .console (trees.map ofTree) := by
  induction trees with
  | nil => rw [drawAll, List.map_nil, Stmt.drawAll]
  | cons t rest ih =>
      rw [drawAll, List.map_cons, Stmt.drawAll, h t List.mem_cons_self,
        ih fun s hs => h s (List.mem_cons_of_mem _ hs)]

/-- The statements of a field are drawn as what they stand for. -/
theorem drawItems_eq {field : Tree}
    (h : ∀ t ∈ field.statements, draw t = (ofTree t).draw .console) :
    drawItems field = Stmt.drawAll .console (ofItems field) := by
  cases field with
  | list items =>
      rw [drawItems, ofItems_list]
      exact drawAll_eq h
  | node | constant | absent =>
      rw [drawItems, ofItems_other, drawAll_refused]
      all_goals simp

/-- What is inside a loop has no part in its refusal. -/
theorem refuse_whileStmt (test body orelse : Tree) (place : Place Tree)
    (reason : String → String → String → Refusal) :
    (Tree.node .whileStmt [test, body, orelse] place).refuse reason
      = (Tree.node .whileStmt [] place).refuse reason :=
  rfl

/-- A tree is drawn for a console as the statement for which it stands. -/
theorem draw_eq (t : Tree) : draw t = (ofTree t).draw .console := by
  induction t using Tree.statementInduction with
  | assign targets value comment place =>
      rw [draw, ofTree, (standsFor_ofAssignment targets value).draw_eq, drawAssign_eq]
  | update target op value place =>
      rw [draw, ofTree, Stmt.draw]
      rfl
  | effect value place =>
      rw [draw, ofTree, (standsFor_ofEffect value).draw_eq, drawEffect_eq]
  | ifElse test body orelse place hbody horelse =>
      rw [draw, ofTree, Stmt.draw, drawItems_eq hbody, drawItems_eq horelse, drawTest]
      simp only [Drawing.append, bind_assoc]
  | whileLoop test body orelse place =>
      rw [draw, ofTree, Stmt.draw, refuse_whileStmt]
      all_goals simp
  | skip fields place => rw [draw, ofTree, Stmt.draw]
  | program body ignores place hbody =>
      rw [draw, ofTree, Stmt.draw, drawItems_eq hbody]
      exact (bind_pure _).symm
  | other t hform => rw [draw_other hform, ofTree_other hform, Stmt.draw]

end Console

/-! ### The drawing for a graph -/

namespace Graph

/-- An assignment is drawn as its box. -/
theorem drawAssign_eq (targets value : Tree) : drawAssign targets value =
    Drawing.lift (Tree.assignmentBox targets value) >>= fun box => modify (append · box) := by
  unfold drawAssign Tree.assignmentBox
  cases isInput value with
  | error refusal => rfl
  | ok isRead => cases isRead <;> rfl

/-- Trees that are drawn in step with their statements are so one after the other. -/
theorem forgets_drawAll {trees : List Tree}
    (h : ∀ t ∈ trees, Forgets (draw t) ((ofTree t).draw .graph)) :
    Forgets (drawAll trees) (Stmt.drawAll .graph (trees.map ofTree)) := by
  induction trees with
  | nil =>
      rw [drawAll, List.map_nil, Stmt.drawAll]
      exact forgets_pure ()
  | cons t rest ih =>
      rw [drawAll, List.map_cons, Stmt.drawAll]
      exact .bind (h t List.mem_cons_self) fun _ => ih fun s hs => h s (List.mem_cons_of_mem _ hs)

/-- The statements of a field are drawn in step with what they stand for. -/
theorem forgets_drawItems {field : Tree}
    (h : ∀ t ∈ field.statements, Forgets (draw t) ((ofTree t).draw .graph)) :
    Forgets (drawItems field) (Stmt.drawAll .graph (ofItems field)) := by
  cases field with
  | list items =>
      rw [drawItems, ofItems_list]
      exact forgets_drawAll h
  | node | constant | absent =>
      rw [drawItems, ofItems_other, drawAll_refused]
      · exact forgets_refuseFirst _
      all_goals simp

/-- A condition is drawn in step with the statement. -/
theorem forgets_drawTest {α : Type} (test : Tree) {plain full : NodeId → Drawing α}
    (h : ∀ condition, Forgets (plain condition) (full condition)) :
    Forgets (drawTest test >>= plain)
      (Drawing.lift (conditionBox (Expr.ofTree test)) >>= fun box =>
        Drawing.append box >>= full) := by
  simp only [drawTest, Drawing.append, bind_assoc]
  refine .bind (forgets_lift _) fun box => .bind (forgets_append box) fun _ => ?_
  exact .bind forgets_current h

/-- A tree is drawn for a graph in step with the statement for which it stands. -/
theorem forgets_draw (t : Tree) : Forgets (draw t) ((ofTree t).draw .graph) := by
  induction t using Tree.statementInduction with
  | assign targets value comment place =>
      rw [draw, ofTree, (standsFor_ofAssignment targets value).draw_eq, drawAssign_eq]
      exact forgets_box _
  | update target op value place =>
      rw [draw, ofTree, Stmt.draw]
      exact forgets_box _
  | effect value place =>
      rw [draw, ofTree, (standsFor_ofEffect value).draw_eq, ← Console.drawEffect_eq]
      exact forgets_drawEffect value
  | ifElse test body orelse place hbody horelse =>
      rw [draw, ofTree, Stmt.draw]
      refine forgets_drawTest test fun condition => ?_
      refine .bind (forgets_openBranch condition .yes) fun _ => ?_
      refine .bind (forgets_drawItems hbody) fun _ => .bind forgets_current fun bodyEnd => ?_
      refine .bind (forgets_openBranch condition .no) fun _ => ?_
      exact .bind (forgets_drawItems horelse) fun _ => forgets_joinWith bodyEnd
  | whileLoop test body orelse place hbody =>
      rw [draw, ofTree, Stmt.draw, Drawing.append, bind_assoc]
      refine .bind (forgets_append .join) fun _ => .bind forgets_current fun top => ?_
      refine forgets_drawTest test fun condition => ?_
      refine .bind (forgets_openBranch condition .yes) fun _ => ?_
      refine .bind (forgets_drawItems hbody) fun _ => .bind (forgets_closeLoop top) fun _ => ?_
      exact forgets_openBranch condition .no
  | skip fields place =>
      rw [draw, ofTree, Stmt.draw]
      exact forgets_pure ()
  | program body ignores place hbody =>
      rw [draw, ofTree, Stmt.draw]
      exact .bind (forgets_drawItems hbody) fun _ => forgets_append .stop
  | other t hform =>
      rw [draw_other hform, ofTree_other hform, Stmt.draw]
      exact forgets_throw _

end Graph

/-! ### Charts without parents -/

namespace Chart

/-- What is said of a node by its box and its exit is said of the bare node. -/
theorem exists_bare_iff {chart : Chart} {v : NodeId} {P : Box → Exit → Prop} :
    (∃ node, chart.bare[v]? = some node ∧ P node.box node.exit)
      ↔ ∃ node, chart[v]? = some node ∧ P node.box node.exit := by
  constructor
  · rintro ⟨node, hnode, hP⟩
    obtain ⟨old, hold, rfl⟩ := exists_of_getElem?_bare hnode
    exact ⟨old, hold, hP⟩
  · rintro ⟨node, hnode, hP⟩
    exact ⟨node.bare, by rw [getElem?_bare, hnode, Option.map_some], hP⟩

/-- The boxes are the same without parents. -/
@[simp] theorem holds_bare {chart : Chart} {v : NodeId} {box : Box} :
    chart.bare.Holds v box ↔ chart.Holds v box :=
  exists_bare_iff (P := fun found _ => found = box)

/-- A node leads on to the same node without parents. -/
@[simp] theorem next_bare {chart : Chart} {u v : NodeId} :
    chart.bare.Next u v ↔ chart.Next u v :=
  exists_bare_iff (P := fun _ exit => exit = .next (.node v))

/-- A condition has the same sides without parents. -/
@[simp] theorem forks_bare {chart : Chart} {u no yes : NodeId} :
    chart.bare.Forks u no yes ↔ chart.Forks u no yes :=
  exists_bare_iff (P := fun _ exit => exit = .branch (.node no) (.node yes))

/-- The links are the same without parents. -/
@[simp] theorem leads_bare {chart : Chart} {v : NodeId} {target : Link} :
    chart.bare.Leads v target ↔ chart.Leads v target :=
  exists_bare_iff (P := fun _ exit => target ∈ exit.links)

/-- The open links are the same without parents. -/
@[simp] theorem closed_bare {chart : Chart} {v : NodeId} :
    chart.bare.Closed v ↔ chart.Closed v :=
  exists_bare_iff (P := fun _ exit => Link.nowhere ∉ exit.links)

/-- A chart is built, with parents or without. -/
theorem Built.bare {chart : Chart} (h : chart.Built) : chart.bare.Built where
  within {v node} hnode target ht := by
    obtain ⟨old, hold, rfl⟩ := exists_of_getElem?_bare hnode
    rw [size_bare]
    exact h.within hold target ht
  condition {v node} hnode hbranch := by
    obtain ⟨old, hold, rfl⟩ := exists_of_getElem?_bare hnode
    exact (h.condition hold hbranch :)
  branches {v node} hnode hcond := by
    obtain ⟨old, hold, rfl⟩ := exists_of_getElem?_bare hnode
    exact (h.branches hold hcond :)
  fresh {v node} hnode := by
    obtain ⟨old, hold, rfl⟩ := exists_of_getElem?_bare hnode
    exact (h.fresh hold :)
  start := holds_bare.mpr h.start
  connected {v} hv := by
    rw [size_bare] at hv
    simpa only [Reaches, leads_bare] using h.connected hv

/-- Statements one after the other are shown, with parents or without. -/
theorem showsAll_bare {chart : Chart} {medium : Medium} {stmts : List Stmt}
    (h : ∀ stmt ∈ stmts, ∀ u lo v hi,
      chart.bare.Shows medium stmt u lo v hi ↔ chart.Shows medium stmt u lo v hi)
    (u lo v hi : NodeId) :
    chart.bare.ShowsAll medium stmts u lo v hi ↔ chart.ShowsAll medium stmts u lo v hi := by
  induction stmts generalizing u lo with
  | nil => rw [ShowsAll, ShowsAll]
  | cons stmt rest ih =>
      simp only [ShowsAll, h stmt List.mem_cons_self,
        ih fun s hs => h s (List.mem_cons_of_mem _ hs)]

/-- A statement is shown, with parents or without. -/
theorem shows_bare {chart : Chart} {medium : Medium} (stmt : Stmt) (u lo v hi : NodeId) :
    chart.bare.Shows medium stmt u lo v hi ↔ chart.Shows medium stmt u lo v hi := by
  induction stmt using nestedInduction generalizing u lo v hi with
  | single stmt box hbox =>
      rw [shows_single hbox, shows_single hbox]
      simp only [ShowsBox, next_bare, holds_bare]
  | ifElse test body orelse hbody horelse =>
      simp only [Shows, next_bare, holds_bare, forks_bare, showsAll_bare hbody,
        showsAll_bare horelse]
  | whileLoop test body orelse refusal hbody =>
      simp only [Shows, next_bare, holds_bare, forks_bare, showsAll_bare hbody]
  | skip => rw [Shows, Shows]
  | program body hbody =>
      cases medium with
      | graph => simp only [Shows, next_bare, holds_bare, showsAll_bare hbody]
      | console => simp only [Shows, showsAll_bare hbody]
  | refused refusal => rw [Shows, Shows]

/-- A chart depicts a program, with parents or without. -/
theorem Depicts.bare {chart : Chart} {body : List Stmt} {last : NodeId}
    (h : chart.Depicts body last) : chart.bare.Depicts body last where
  built := h.built.bare
  shows := by
    rw [size_bare, shows_bare]
    exact h.shows
  leaf := (exists_bare_iff (P := fun _ exit => exit = .next .nowhere)).mpr h.leaf
  closed v hv hne := closed_bare.mpr (h.closed v (by rwa [size_bare] at hv) hne)

end Chart

/-! ### The commands -/

namespace Command

/-- What a drawing that was not refused has left behind. -/
theorem drawn_eq_ok {medium : Medium} {tree : Tree} {draft : Draft} :
    drawn medium tree = .ok draft ↔ (drawing medium tree).run Draft.empty = .ok () draft := by
  unfold drawn
  cases (drawing medium tree).run Draft.empty with
  | ok _ found => simp
  | error refusal found => simp

section
variable {body ignores : Tree} {place : Place Tree} {draft : Draft}

/-- The draft of a program for a console is that of its statements. -/
theorem run_of_drawn_console
    (h : drawn .console (.node .program [body, ignores] place) = .ok draft) :
    ((Stmt.program (ofItems body)).draw .console).run Draft.empty = .ok () draft := by
  rw [drawn_eq_ok, drawing, Console.draw_eq, ofTree] at h
  exact h

/-- The draft of a program for a graph is that of its statements, without the parents. -/
theorem exists_run_of_drawn_graph
    (h : drawn .graph (.node .program [body, ignores] place) = .ok draft) :
    ∃ full : Draft, ((Stmt.program (ofItems body)).draw .graph).run Draft.empty = .ok () full ∧
      draft = full.bare := by
  rw [drawn_eq_ok, drawing, ← Draft.bare_empty, Graph.forgets_draw, ofTree] at h
  cases hrun : ((Stmt.program (ofItems body)).draw .graph).run Draft.empty with
  | ok _ full =>
      rw [hrun] at h
      cases h
      exact ⟨full, rfl, rfl⟩
  | error refusal full =>
      rw [hrun] at h
      cases h

/-- The chart of a program for a graph depicts its statements. -/
theorem depicts_drawn (h : drawn .graph (.node .program [body, ignores] place) = .ok draft) :
    draft.chart.Depicts (ofItems body) draft.current := by
  obtain ⟨full, hrun, rfl⟩ := exists_run_of_drawn_graph h
  exact (Chart.depicts_draw hrun).bare

end

end Command

end Flowchart
