import Flowchart.Proofs.Draft.Content
import Flowchart.Proofs.Draft.Tracks
import Flowchart.Proofs.Draft.Trees
import Flowchart.Proofs.Program.Execution
import Flowchart.Proofs.Program.IdleLoops

/-!
# `Flowchart.Proofs.Program.Syntax`: what a program says, by its syntax tree

The definitions of this module are recursions on a syntax tree.  They say what is to be shown of a
program without a word about charts, and without reading the tree as statements first.  Each of them
has a clause for every form of statement, one for the fields that hold statements, and one for
lists.

For graphs:

* `Tree.course`: what a run meets, from a statement on.
* `Tree.isPassable`: whether a run may get through without coming upon a box other than a condition.
* `Tree.loops`: the loops, without those in the statements for the case that the condition of a loop
  fails.
* `Tree.contents`: the texts of all assignments, updates and calls and of all conditions.

For consoles:

* `Tree.planned`: the nodes with their cells, and `Tree.enclosing`: the bodies of conditions around
  each.
* `Tree.tracks`: the rows of each column that are taken.

A tree is read as a statement by `Stmt.ofTree`.  For each definition there is a lemma which says
that it is the same by the tree and by the statement (`course_ofTree`, `contents_ofTree` and so on).
For those on consoles the statement has to be shown by a chart, since the cells of what is refused
are nobody's concern (`plansAlike`).
-/

set_option autoImplicit false

namespace Flowchart

/-! ### Fields that hold nothing -/

namespace Tree

/-- Whether there is nothing to be drawn in a field. -/
def hasNoItems : Tree → Bool
  | .list items => items.isEmpty
  | .constant (.str text) => text.isEmpty
  | .constant (.bytes bytes) => bytes.isEmpty
  | _ => false

/-- A field that is no list is refused for each of its items. -/
theorem isEmpty_refuseItems {field : Tree} (h : ∀ items, field = .list items → False) :
    (refuseItems .unknownStatement .notList field).isEmpty = field.hasNoItems := by
  cases field with
  | list items => exact (h items rfl).elim
  | node kind fields place => rfl
  | absent owner name => rfl
  | constant value => cases value <;> simp [refuseItems, items?, hasNoItems]

end Tree

open Stmt

/-- A field holds no statements exactly if there is nothing to be drawn in it. -/
theorem Stmt.isEmpty_ofItems (field : Tree) : (ofItems field).isEmpty = field.hasNoItems := by
  cases field with
  | list items =>
      rw [ofItems_list, List.isEmpty_map]
      rfl
  | node | constant | absent =>
      rw [ofItems_other, List.isEmpty_map, Tree.isEmpty_refuseItems]
      all_goals simp

/-! ### What a run meets -/

namespace Tree

mutual

/-- What a run meets from a statement on, where `rest` is what it meets behind the statement.  A
loop takes an outcome for each round, so that there are no more rounds than outcomes.  A run ends at
what is refused. -/
def course : Tree → (rest : Course) → Course
  | .node .assign [targets, value, _] _, rest => met (assignmentBox targets value) rest
  | .node .augAssign [target, op, value] _, rest => met (updateBox target op value) rest
  | .node .exprStmt [value] _, rest => met (effectBox value) rest
  | .node .ifStmt [test, body, orelse] _, rest =>
    decided (textOf (testBox test)) (bodyCourse body rest) (bodyCourse orelse rest)
  | .node .whileStmt [test, body, orelse] _, rest => fun outcomes =>
    repeated (textOf (testBox test)) (bodyCourse body) (bodyCourse orelse rest)
      (outcomes.length + 1) outcomes
  | .node .importFrom _ _, rest => rest
  | .node .program [body, _] _, rest =>
    bodyCourse body fun outcomes => Box.stop.text :: rest outcomes
  | _, _ => fun _ => []

/-- What a run meets from the statements of a field on. -/
def bodyCourse : Tree → (rest : Course) → Course
  | .list items, rest => courseAll items rest
  | t, rest => if t.hasNoItems then rest else fun _ => []

/-- What a run meets from several statements on. -/
def courseAll : List Tree → (rest : Course) → Course
  | [], rest => rest
  | t :: rest, behind => course t (courseAll rest behind)

end

/-- A run ends at a tree without a form. -/
theorem course_other {t : Tree} (h : t.isStatement = false) (rest : Course) :
    t.course rest = fun _ => [] := by
  rw [course]
  all_goals (intros; subst_vars; cases h)

/-- What a run of a whole program meets, from its start on. -/
def execution (program : Tree) (outcomes : List Branch) : List String :=
  Box.start.text :: course program (fun _ => []) outcomes

/-! ### Loops -/

mutual

/-- Whether a run may get through a statement without coming upon a box other than a condition. -/
def isPassable : Tree → Bool
  | .node .importFrom _ _ | .node .whileStmt [_, _, _] _ => true
  | .node .ifStmt [_, body, orelse] _ => bodyPassable body || bodyPassable orelse
  | _ => false

/-- Whether a run may get through the statements of a field so. -/
def bodyPassable : Tree → Bool
  | .list items => allPassable items
  | t => t.hasNoItems

/-- Whether a run may get through several statements so. -/
def allPassable : List Tree → Bool
  | [] => true
  | t :: rest => isPassable t && allPassable rest

end

/-- A tree without a form is not passable. -/
theorem isPassable_other {t : Tree} (h : t.isStatement = false) : t.isPassable = false := by
  rw [isPassable]
  all_goals (intros; subst_vars; cases h)

/-- A loop: what it does in each round, and what it does when its condition fails. -/
structure Loop where
  body : Tree
  orelse : Tree

mutual

/-- The loops of a statement, at any depth.  Those in the statements that a loop has for the case
that its condition fails are left out. -/
def loops : Tree → List Loop
  | .node .ifStmt [_, body, orelse] _ => bodyLoops body ++ bodyLoops orelse
  | .node .whileStmt [_, body, orelse] _ => ⟨body, orelse⟩ :: bodyLoops body
  | .node .program [body, _] _ => bodyLoops body
  | _ => []

/-- The loops of the statements of a field. -/
def bodyLoops : Tree → List Loop
  | .list items => allLoops items
  | _ => []

/-- The loops of several statements. -/
def allLoops : List Tree → List Loop
  | [] => []
  | t :: rest => loops t ++ allLoops rest

end

/-- A tree without a form has no loops. -/
theorem loops_other {t : Tree} (h : t.isStatement = false) : t.loops = [] := by
  rw [loops]
  all_goals (intros; subst_vars; cases h)

/-! ### Texts -/

mutual

/-- What a statement says: its box and those of the statements inside it, at any depth, with those
for the case that the condition of a loop fails.  What is refused counts with its refusal. -/
def contents : Tree → Multiset (Except Refusal Box)
  | .node .assign [targets, value, _] _ => {assignmentBox targets value}
  | .node .augAssign [target, op, value] _ => {updateBox target op value}
  | .node .exprStmt [value] _ => {effectBox value}
  | .node .ifStmt [test, body, orelse] _ | .node .whileStmt [test, body, orelse] _ =>
    testBox test ::ₘ (bodyContents body + bodyContents orelse)
  | .node .importFrom _ _ => 0
  | .node .program [body, _] _ => bodyContents body
  | t => {.error t.refusalOfForm}

/-- What the statements of a field say. -/
def bodyContents : Tree → Multiset (Except Refusal Box)
  | .list items => contentsAll items
  | t => ((refuseItems .unknownStatement .notList t).map Except.error : List (Except Refusal Box))

/-- What several statements say. -/
def contentsAll : List Tree → Multiset (Except Refusal Box)
  | [] => 0
  | t :: rest => contents t + contentsAll rest

end

/-- A tree without a form counts with its refusal. -/
theorem contents_other {t : Tree} (h : t.isStatement = false) :
    t.contents = {.error t.refusalOfForm} := by
  rw [contents]
  all_goals (intros; subst_vars; cases h)

/-- What the loops of a statement do when their conditions fail. -/
def leftOut (t : Tree) : Multiset (Except Refusal Box) :=
  (t.loops.map fun loop => loop.orelse.bodyContents).sum

/-! ### Cells -/

mutual

/-- The row in which it goes on after a statement that begins in the given row. -/
def rowAfter : Tree → Nat → Nat
  | .node .assign [_, _, _] _, row | .node .augAssign [_, _, _] _, row
  | .node .exprStmt [_] _, row => row + 1
  | .node .ifStmt [_, _, orelse] _, row => bodyRowAfter orelse (row + 1) + 1
  | .node .program [body, _] _, row => bodyRowAfter body row
  | _, row => row

/-- The row in which it goes on after the statements of a field. -/
def bodyRowAfter : Tree → Nat → Nat
  | .list items, row => rowAfterAll items row
  | _, row => row

/-- The row in which it goes on after several statements. -/
def rowAfterAll : List Tree → Nat → Nat
  | [], row => row
  | t :: rest, row => rowAfterAll rest (rowAfter t row)

end

mutual

/-- The nodes of a statement that begins in the given cell, in the order in which they are drawn.
The body of a condition begins beside it and has a column of its own, the other side begins below
it, and the join stands below that side. -/
def planned : Tree → (row column : Nat) → List Planned
  | .node .assign [targets, value, _] _, row, column =>
    [⟨assignmentBox targets value, some ⟨row, column⟩⟩]
  | .node .augAssign [target, op, value] _, row, column =>
    [⟨updateBox target op value, some ⟨row, column⟩⟩]
  | .node .exprStmt [value] _, row, column => [⟨effectBox value, some ⟨row, column⟩⟩]
  | .node .ifStmt [test, body, orelse] _, row, column =>
    ⟨testBox test, some ⟨row, column⟩⟩ ::
      (⟨.ok .head, none⟩ :: bodyPlanned body row (column + 1)) ++
      (⟨.ok .head, none⟩ :: bodyPlanned orelse (row + 1) column) ++
      [⟨.ok .join, some ⟨bodyRowAfter orelse (row + 1), column⟩⟩]
  | .node .program [body, _] _, row, column => bodyPlanned body row column
  | _, _, _ => []

/-- The nodes of the statements of a field. -/
def bodyPlanned : Tree → (row column : Nat) → List Planned
  | .list items, row, column => plannedAll items row column
  | _, _, _ => []

/-- The nodes of several statements. -/
def plannedAll : List Tree → (row column : Nat) → List Planned
  | [], _, _ => []
  | t :: rest, row, column => planned t row column ++ plannedAll rest (rowAfter t row) column

end

mutual

/-- For each node of a statement, in the order in which they are drawn, how many bodies of
conditions within the statement are around it. -/
def enclosing : Tree → List Nat
  | .node .assign [_, _, _] _ | .node .augAssign [_, _, _] _ | .node .exprStmt [_] _ => [0]
  | .node .ifStmt [_, body, orelse] _ =>
    0 :: (0 :: bodyEnclosing body).map (· + 1) ++ (0 :: bodyEnclosing orelse) ++ [0]
  | .node .program [body, _] _ => bodyEnclosing body
  | _ => []

/-- For each node of the statements of a field, how many bodies are around it. -/
def bodyEnclosing : Tree → List Nat
  | .list items => enclosingAll items
  | _ => []

/-- For each node of several statements, how many bodies are around it. -/
def enclosingAll : List Tree → List Nat
  | [] => []
  | t :: rest => enclosing t ++ enclosingAll rest

end

mutual

/-- The tracks of the bodies of conditions in a statement that begins in the given cell. -/
def sideTracks : Tree → (row column : Nat) → List Track
  | .node .ifStmt [_, body, orelse] _, row, column =>
    ⟨column + 1, row, bodyRowAfter body row⟩ ::
      (bodySideTracks body row (column + 1) ++ bodySideTracks orelse (row + 1) column)
  | .node .program [body, _] _, row, column => bodySideTracks body row column
  | _, _, _ => []

/-- The tracks of the bodies of conditions in the statements of a field. -/
def bodySideTracks : Tree → (row column : Nat) → List Track
  | .list items, row, column => sideTracksAll items row column
  | _, _, _ => []

/-- The tracks of the bodies of conditions in several statements. -/
def sideTracksAll : List Tree → (row column : Nat) → List Track
  | [], _, _ => []
  | t :: rest, row, column =>
    sideTracks t row column ++ sideTracksAll rest (rowAfter t row) column

end

/-- The plan of a program: its start, and then its statements. -/
def programPlan (program : Tree) : List Planned :=
  ⟨.ok .start, some ⟨0, 0⟩⟩ :: planned program 1 0

/-- The tracks of a program: the first column from the start to the end, and one for each body of a
condition. -/
def tracks (program : Tree) : List Track :=
  ⟨0, 0, rowAfter program 1⟩ :: sideTracks program 1 0

/-- No body of a condition goes below the last node of the first column. -/
def StaysAbove (program : Tree) : Prop :=
  ∀ track ∈ program.tracks, track.start < track.stop → track.stop ≤ program.rowAfter 1

instance (program : Tree) : Decidable program.StaysAbove :=
  inferInstanceAs (Decidable (∀ track ∈ _, _))

end Tree

namespace Stmt

/-! ### Runs by trees and by statements -/

/-- What a run meets at a statement that stands for a box. -/
theorem StandsFor.course_eq {stmt : Stmt} {box : Except Refusal Box} (h : stmt.StandsFor box)
    (rest : Course) : course stmt rest = met box rest := by
  rcases h with h | ⟨refusal, rfl, rfl⟩
  · exact course_single h rest
  · rw [course, met]

/-- A run does not get past a refusal. -/
theorem courseAll_refused (refusals : List Refusal) (rest : Course) :
    courseAll (refusals.map .refused) rest = if refusals.isEmpty then rest else fun _ => [] := by
  cases refusals with
  | nil => rw [List.map_nil, courseAll]; rfl
  | cons refusal others => rw [List.map_cons, courseAll, course]; rfl

/-- What a run meets at the statements of a field. -/
theorem courseAll_ofItems {field : Tree}
    (h : ∀ t ∈ field.statements, ∀ rest, course (ofTree t) rest = t.course rest) (rest : Course) :
    courseAll (ofItems field) rest = field.bodyCourse rest := by
  cases field with
  | list items =>
      rw [ofItems_list, Tree.bodyCourse]
      rw [Tree.statements] at h
      induction items with
      | nil => rw [List.map_nil, courseAll, Tree.courseAll]
      | cons t items ih =>
          rw [List.map_cons, courseAll, Tree.courseAll, h t List.mem_cons_self,
            ih fun s hs => h s (List.mem_cons_of_mem _ hs)]
  -- What is no list is gone through like one, and refused or empty.
  | node | constant | absent =>
      rw [ofItems_other, courseAll_refused, Tree.isEmpty_refuseItems, Tree.bodyCourse]
      all_goals simp

/-- What a run meets is the same by the tree and by the statement for which it stands. -/
theorem course_ofTree (t : Tree) (rest : Course) : course (ofTree t) rest = t.course rest := by
  induction t using Tree.statementInduction generalizing rest with
  | assign targets value comment place =>
      rw [ofTree, (standsFor_ofAssignment targets value).course_eq, Tree.course]
  | update target op value place =>
      rw [ofTree, (standsFor_update target op value).course_eq, Tree.course]
  | effect value place => rw [ofTree, (standsFor_ofEffect value).course_eq, Tree.course]
  | ifElse test body orelse place hbody horelse =>
      rw [ofTree, course, courseAll_ofItems hbody, courseAll_ofItems horelse, Tree.course]
      rfl
  | whileLoop test body orelse place hbody horelse =>
      -- The body is gone through once for each round, whatever comes behind it.
      have hround : courseAll (ofItems body) = body.bodyCourse :=
        funext (courseAll_ofItems hbody)
      rw [ofTree, course, hround, courseAll_ofItems horelse, Tree.course]
      rfl
  | skip fields place => rw [ofTree, course, Tree.course]
  | program body ignores place hbody =>
      rw [ofTree, course, courseAll_ofItems hbody, Tree.course]
  | other t hform =>
      rw [ofTree_other hform, course, Tree.course_other hform]

/-! ### Loops by trees and by statements -/

/-- A statement that stands for a box is not passable. -/
theorem StandsFor.isPassable_eq {stmt : Stmt} {box : Except Refusal Box} (h : stmt.StandsFor box) :
    stmt.isPassable = false := by
  rcases h with h | ⟨refusal, rfl, -⟩
  · exact (isPassable_of_box? h).1
  · rw [isPassable]
    all_goals simp

/-- Refusals are passable only if there are none. -/
theorem arePassable_refused (refusals : List Refusal) :
    arePassable (refusals.map .refused) = refusals.isEmpty := by
  cases refusals <;> rfl

/-- Whether the statements of a field are passable. -/
theorem arePassable_ofItems {field : Tree}
    (h : ∀ t ∈ field.statements, (ofTree t).isPassable = t.isPassable) :
    arePassable (ofItems field) = field.bodyPassable := by
  cases field with
  | list items =>
      rw [ofItems_list, Tree.bodyPassable]
      rw [Tree.statements] at h
      induction items with
      | nil => rw [List.map_nil, arePassable, Tree.allPassable]
      | cons t items ih =>
          rw [List.map_cons, arePassable, Tree.allPassable, h t List.mem_cons_self,
            ih fun s hs => h s (List.mem_cons_of_mem _ hs)]
  | node | constant | absent =>
      rw [ofItems_other, arePassable_refused, Tree.isEmpty_refuseItems, Tree.bodyPassable]
      all_goals simp

/-- A tree is passable exactly if the statement is for which it stands. -/
theorem isPassable_ofTree (t : Tree) : (ofTree t).isPassable = t.isPassable := by
  induction t using Tree.statementInduction with
  | assign targets value comment place =>
      rw [ofTree, (standsFor_ofAssignment targets value).isPassable_eq]
      rfl
  | update target op value place => rw [ofTree]; rfl
  | effect value place => rw [ofTree, (standsFor_ofEffect value).isPassable_eq]; rfl
  | ifElse test body orelse place hbody horelse =>
      rw [ofTree, isPassable, arePassable_ofItems hbody, arePassable_ofItems horelse,
        Tree.isPassable]
  | whileLoop test body orelse place => rw [ofTree, isPassable, Tree.isPassable]
  | skip fields place => rw [ofTree, isPassable, Tree.isPassable]
  | program body ignores place => rw [ofTree]; rfl
  | other t hform =>
      rw [ofTree_other hform, Tree.isPassable_other hform, (standsFor_refused _).isPassable_eq]

/-! ### Texts by trees and by statements -/

/-- A statement that stands for a box says that box. -/
theorem StandsFor.contents_eq {stmt : Stmt} {box : Except Refusal Box} (h : stmt.StandsFor box) :
    stmt.contents = {box} := by
  rcases h with h | ⟨refusal, rfl, rfl⟩
  · exact (contents_single h).1
  · rw [contents]

/-- Each refusal counts. -/
theorem contentsAll_refused (refusals : List Refusal) :
    contentsAll (refusals.map .refused)
      = (refusals.map Except.error : List (Except Refusal Box)) := by
  induction refusals with
  | nil => rw [List.map_nil, contentsAll]; rfl
  | cons refusal others ih =>
      rw [List.map_cons, contentsAll, contents, ih, List.map_cons, ← Multiset.cons_coe,
        Multiset.singleton_add]

/-- What the statements of a field say. -/
theorem contentsAll_ofItems {field : Tree}
    (h : ∀ t ∈ field.statements, (ofTree t).contents = t.contents) :
    contentsAll (ofItems field) = field.bodyContents := by
  cases field with
  | list items =>
      rw [ofItems_list, Tree.bodyContents]
      rw [Tree.statements] at h
      induction items with
      | nil => rw [List.map_nil, contentsAll, Tree.contentsAll]
      | cons t items ih =>
          rw [List.map_cons, contentsAll, Tree.contentsAll, h t List.mem_cons_self,
            ih fun s hs => h s (List.mem_cons_of_mem _ hs)]
  | node | constant | absent =>
      rw [ofItems_other, contentsAll_refused, Tree.bodyContents]
      all_goals simp

/-- A tree says what the statement says for which it stands. -/
theorem contents_ofTree (t : Tree) : (ofTree t).contents = t.contents := by
  induction t using Tree.statementInduction with
  | assign targets value comment place =>
      rw [ofTree, (standsFor_ofAssignment targets value).contents_eq, Tree.contents]
  | update target op value place =>
      rw [ofTree, (standsFor_update target op value).contents_eq, Tree.contents]
  | effect value place => rw [ofTree, (standsFor_ofEffect value).contents_eq, Tree.contents]
  | ifElse test body orelse place hbody horelse =>
      rw [ofTree, contents, contentsAll_ofItems hbody, contentsAll_ofItems horelse, Tree.contents]
      rfl
  | whileLoop test body orelse place hbody horelse =>
      rw [ofTree, contents, contentsAll_ofItems hbody, contentsAll_ofItems horelse, Tree.contents]
      rfl
  | skip fields place => rw [ofTree, contents, Tree.contents]
  | program body ignores place hbody =>
      rw [ofTree, contents, contentsAll_ofItems hbody, Tree.contents]
  | other t hform => rw [ofTree_other hform, contents, Tree.contents_other hform]

/-! ### All loops of a program -/

/-- What is said of the loops of statements is said of the loops of trees. -/
structure LoopsAlike (stmts : List Stmt) (loops : List Tree.Loop) : Prop where
  idle : haveIdleLoop stmts = loops.any fun loop => loop.body.bodyPassable
  elseFree : areElseFree stmts = loops.all fun loop => loop.orelse.hasNoItems
  leftOut : leftOutAll stmts = (loops.map fun loop => loop.orelse.bodyContents).sum

/-- There are no loops in no statements. -/
theorem loopsAlike_nil : LoopsAlike [] [] :=
  ⟨rfl, rfl, rfl⟩

/-- The loops of a statement come before those of the statements behind it. -/
theorem LoopsAlike.cons {stmt : Stmt} {stmts : List Stmt} {loops others : List Tree.Loop}
    (h : LoopsAlike [stmt] loops) (hrest : LoopsAlike stmts others) :
    LoopsAlike (stmt :: stmts) (loops ++ others) where
  idle := by
    rw [List.any_append, ← h.idle, ← hrest.idle]
    simp [haveIdleLoop]
  elseFree := by
    rw [List.all_append, ← h.elseFree, ← hrest.elseFree]
    simp [areElseFree]
  leftOut := by
    rw [List.map_append, List.sum_append, ← h.leftOut, ← hrest.leftOut]
    simp [leftOutAll]

/-- A statement that stands for a box is no loop and has none inside. -/
theorem StandsFor.loopsAlike {stmt : Stmt} {box : Except Refusal Box} (h : stmt.StandsFor box) :
    LoopsAlike [stmt] [] := by
  rcases h with h | ⟨refusal, rfl, -⟩
  · cases stmt <;> cases h <;> exact ⟨rfl, rfl, rfl⟩
  · exact ⟨rfl, rfl, rfl⟩

/-- Refusals are no loops. -/
theorem loopsAlike_refused (refusals : List Refusal) :
    LoopsAlike (refusals.map .refused) [] := by
  induction refusals with
  | nil => exact loopsAlike_nil
  | cons refusal others ih => exact (standsFor_refused refusal).loopsAlike.cons ih

/-- The loops of the statements of a field. -/
theorem loopsAlike_ofItems {field : Tree}
    (h : ∀ t ∈ field.statements, LoopsAlike [ofTree t] t.loops) :
    LoopsAlike (ofItems field) field.bodyLoops := by
  cases field with
  | list items =>
      rw [ofItems_list, Tree.bodyLoops]
      rw [Tree.statements] at h
      induction items with
      | nil => exact loopsAlike_nil
      | cons t items ih =>
          exact (h t List.mem_cons_self).cons (ih fun s hs => h s (List.mem_cons_of_mem _ hs))
  | node | constant | absent =>
      rw [ofItems_other, Tree.bodyLoops]
      · exact loopsAlike_refused _
      all_goals simp

/-- The loops of a tree are those of the statement for which it stands. -/
theorem loopsAlike_ofTree (t : Tree) : LoopsAlike [ofTree t] t.loops := by
  induction t using Tree.statementInduction with
  | assign targets value comment place =>
      rw [ofTree]
      exact (standsFor_ofAssignment targets value).loopsAlike
  | update target op value place =>
      rw [ofTree]
      exact (standsFor_update target op value).loopsAlike
  | effect value place =>
      rw [ofTree]
      exact (standsFor_ofEffect value).loopsAlike
  | ifElse test body orelse place hbody horelse =>
      have hyes := loopsAlike_ofItems hbody
      have hno := loopsAlike_ofItems horelse
      rw [ofTree, Tree.loops]
      constructor
      · simp [haveIdleLoop, hasIdleLoop, hyes.idle, hno.idle]
      · simp [areElseFree, isElseFree, hyes.elseFree, hno.elseFree]
      · simp [leftOutAll, Stmt.leftOut, hyes.leftOut, hno.leftOut]
  | whileLoop test body orelse place hbody horelse =>
      -- The loop itself is the first, and what it does in the end is not searched for loops.
      have hround := loopsAlike_ofItems hbody
      rw [ofTree, Tree.loops]
      constructor
      · simp [haveIdleLoop, hasIdleLoop, hround.idle,
          arePassable_ofItems fun t _ => isPassable_ofTree t]
      · simp [areElseFree, isElseFree, hround.elseFree, isEmpty_ofItems, Bool.and_comm]
      · simp [leftOutAll, Stmt.leftOut, hround.leftOut,
          contentsAll_ofItems fun t _ => contents_ofTree t, add_comm]
  | skip fields place =>
      rw [ofTree]
      exact ⟨rfl, rfl, rfl⟩
  | program body ignores place hbody =>
      have hall := loopsAlike_ofItems hbody
      rw [ofTree, Tree.loops]
      constructor
      · simp [haveIdleLoop, hasIdleLoop, hall.idle]
      · simp [areElseFree, isElseFree, hall.elseFree]
      · simp [leftOutAll, Stmt.leftOut, hall.leftOut]
  | other t hform =>
      rw [ofTree_other hform, Tree.loops_other hform]
      exact (standsFor_refused _).loopsAlike

/-! ### Cells by trees and by statements -/

/-- The cells of a tree are those of the statement for which it stands. -/
structure PlansAlike (t : Tree) : Prop where
  rowAfter : ∀ row, (ofTree t).rowAfter row = t.rowAfter row
  planned : ∀ row column, (ofTree t).planned row column = t.planned row column
  enclosing : (ofTree t).enclosing = t.enclosing
  sideTracks : ∀ row column, (ofTree t).sideTracks row column = t.sideTracks row column

/-- The cells of the statements of a field. -/
structure BodyPlansAlike (field : Tree) : Prop where
  rowAfter : ∀ row, rowAfterAll (ofItems field) row = field.bodyRowAfter row
  planned : ∀ row column, plannedAll (ofItems field) row column = field.bodyPlanned row column
  enclosing : enclosingAll (ofItems field) = field.bodyEnclosing
  sideTracks : ∀ row column,
    sideTracksAll (ofItems field) row column = field.bodySideTracks row column

/-- The cells of a statement, and of those that come behind it. -/
theorem PlansAlike.cons {t : Tree} {items : List Tree} (h : PlansAlike t)
    (hrest : BodyPlansAlike (.list items)) : BodyPlansAlike (.list (t :: items)) where
  rowAfter row := by
    have hbehind := hrest.rowAfter (t.rowAfter row)
    rw [ofItems_list, Tree.bodyRowAfter] at *
    rw [List.map_cons, rowAfterAll, h.rowAfter, hbehind, Tree.rowAfterAll]
  planned row column := by
    have hbehind := hrest.planned (t.rowAfter row) column
    rw [ofItems_list, Tree.bodyPlanned] at *
    rw [List.map_cons, plannedAll, h.planned, h.rowAfter, hbehind, Tree.plannedAll]
  enclosing := by
    have hbehind := hrest.enclosing
    rw [ofItems_list, Tree.bodyEnclosing] at *
    rw [List.map_cons, enclosingAll, h.enclosing, hbehind, Tree.enclosingAll]
  sideTracks row column := by
    have hbehind := hrest.sideTracks (t.rowAfter row) column
    rw [ofItems_list, Tree.bodySideTracks] at *
    rw [List.map_cons, sideTracksAll, h.sideTracks, h.rowAfter, hbehind, Tree.sideTracksAll]

variable {chart : Chart}

/-- Where something else than a list of statements is shown, there is nothing in it. -/
theorem ofItems_eq_nil_of_shows {medium : Medium} {field : Tree}
    (h : ∀ items, field = .list items → False) {u lo v hi : NodeId}
    (hshows : chart.ShowsAll medium (ofItems field) u lo v hi) : ofItems field = [] := by
  rw [ofItems_other h] at hshows ⊢
  cases hrefusals : refuseItems .unknownStatement .notList field with
  | nil => rfl
  | cons refusal others =>
      rw [hrefusals, List.map_cons, Chart.ShowsAll] at hshows
      obtain ⟨mid, next, hstmt, -⟩ := hshows
      rw [Chart.Shows] at hstmt
      exact hstmt.elim

/-- A statement that is shown and stands for a box is drawn as that box. -/
theorem StandsFor.box?_eq {medium : Medium} {stmt : Stmt} {box : Except Refusal Box}
    (h : stmt.StandsFor box) {u lo v hi : NodeId} (hshows : chart.Shows medium stmt u lo v hi) :
    stmt.box? = some box := by
  rcases h with h | ⟨refusal, rfl, -⟩
  · exact h
  · rw [Chart.Shows] at hshows
    exact hshows.elim

/-- The cells of the statements of a field that is shown. -/
theorem bodyPlansAlike {field : Tree}
    (h : ∀ t ∈ field.statements, ∀ u lo v hi, chart.Shows .console (ofTree t) u lo v hi →
      PlansAlike t)
    {u lo v hi : NodeId} (hshows : chart.ShowsAll .console (ofItems field) u lo v hi) :
    BodyPlansAlike field := by
  cases field with
  | list items =>
      rw [ofItems_list] at hshows
      rw [Tree.statements] at h
      induction items generalizing u lo with
      | nil => exact ⟨fun _ => rfl, fun _ _ => rfl, rfl, fun _ _ => rfl⟩
      | cons t items ih =>
          rw [List.map_cons, Chart.ShowsAll] at hshows
          obtain ⟨mid, next, hstmt, hrest⟩ := hshows
          exact (h t List.mem_cons_self u lo mid next hstmt).cons
            (ih (fun s hs => h s (List.mem_cons_of_mem _ hs)) hrest)
  | node | constant | absent =>
      have hnone := ofItems_eq_nil_of_shows (by simp) hshows
      refine ⟨fun _ => ?_, fun _ _ => ?_, ?_, fun _ _ => ?_⟩ <;> rw [hnone] <;> rfl

/-- A tree that stands for a box takes one cell. -/
theorem plansAlike_single {t : Tree} {box : Except Refusal Box} (h : (ofTree t).box? = some box)
    (hrow : ∀ row, t.rowAfter row = row + 1)
    (hplanned : ∀ row column, t.planned row column = [⟨box, some ⟨row, column⟩⟩])
    (henclosing : t.enclosing = [0]) (htracks : ∀ row column, t.sideTracks row column = []) :
    PlansAlike t where
  rowAfter row := by rw [rowAfter_single h, hrow]
  planned row column := by rw [planned_single h, hplanned]
  enclosing := by rw [enclosing_single h, henclosing]
  sideTracks row column := by rw [sideTracks_single h, htracks]

/-- The cells of a tree that is shown are those of the statement for which it stands. -/
theorem plansAlike (t : Tree) {u lo v hi : NodeId}
    (hshows : chart.Shows .console (ofTree t) u lo v hi) : PlansAlike t := by
  induction t using Tree.statementInduction generalizing u lo v hi with
  | assign targets value comment place =>
      rw [ofTree] at hshows
      -- It is shown, so that it is not refused.
      have hbox := (standsFor_ofAssignment targets value).box?_eq hshows
      exact plansAlike_single (by rw [ofTree, hbox]) (fun _ => rfl) (fun _ _ => rfl)
        rfl fun _ _ => rfl
  | update target op value place =>
      exact plansAlike_single (by rw [ofTree]; rfl) (fun _ => rfl) (fun _ _ => rfl)
        rfl fun _ _ => rfl
  | effect value place =>
      rw [ofTree] at hshows
      have hbox := (standsFor_ofEffect value).box?_eq hshows
      exact plansAlike_single (by rw [ofTree, hbox]) (fun _ => rfl) (fun _ _ => rfl)
        rfl fun _ _ => rfl
  | ifElse test body orelse place hbody horelse =>
      rw [ofTree, Chart.Shows] at hshows
      obtain ⟨box, yesEnd, no, noEnd, -, -, -, -, -, hyes, -, hno, -⟩ := hshows
      have hyes := bodyPlansAlike (fun t ht _ _ _ _ => hbody t ht) hyes
      have hno := bodyPlansAlike (fun t ht _ _ _ _ => horelse t ht) hno
      constructor
      · intro row
        rw [ofTree, rowAfter, hno.rowAfter, Tree.rowAfter]
      · intro row column
        rw [ofTree, planned, hyes.planned, hno.planned, hno.rowAfter, Tree.planned]
        rfl
      · rw [ofTree, enclosing, hyes.enclosing, hno.enclosing, Tree.enclosing]
      · intro row column
        rw [ofTree, sideTracks, hyes.rowAfter, hyes.sideTracks, hno.sideTracks, Tree.sideTracks]
  -- No console shows a loop, nor a tree that is refused.
  | whileLoop test body orelse place =>
      rw [ofTree, Chart.Shows] at hshows
      cases hshows.1
  | skip fields place =>
      refine ⟨fun _ => ?_, fun _ _ => ?_, ?_, fun _ _ => ?_⟩ <;> rw [ofTree] <;> rfl
  | program body ignores place hbody =>
      rw [ofTree, Chart.Shows] at hshows
      have hall := bodyPlansAlike (fun t ht _ _ _ _ => hbody t ht) hshows
      constructor
      · intro row
        rw [ofTree, rowAfter, hall.rowAfter, Tree.rowAfter]
      · intro row column
        rw [ofTree, planned, hall.planned, Tree.planned]
      · rw [ofTree, enclosing, hall.enclosing, Tree.enclosing]
      · intro row column
        rw [ofTree, sideTracks, hall.sideTracks, Tree.sideTracks]
  | other t hform =>
      rw [ofTree_other hform, Chart.Shows] at hshows
      exact hshows.elim

end Stmt

end Flowchart
