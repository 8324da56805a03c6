import Flowchart.Program.Reading
import Flowchart.Chart.Draft

/-!
# `Flowchart.Proofs.Program.Forms`: the forms of statements in a tree

A tree is drawn by its form.  `Tree.isStatement` tells whether it has one of the forms that a chart
knows.  The statements inside a condition, a loop or a program are in fields that hold lists
(`Tree.statements`).  `Tree.statementInduction` goes through the forms, with what is known of the
statements inside.

An assignment, an update and an expression that stands alone are drawn as one box, unless they are
refused (`Tree.assignmentBox`, `Tree.updateBox`, `Tree.effectBox`).
-/

set_option autoImplicit false

namespace Flowchart.Tree

/-! ### The statements in a tree -/

/-- Whether a tree has one of the forms of statements, or is a program. -/
def isStatement : Tree → Bool
  | .node .program [_, _] _ | .node .assign [_, _, _] _ | .node .augAssign [_, _, _] _
  | .node .exprStmt [_] _ | .node .ifStmt [_, _, _] _ | .node .whileStmt [_, _, _] _
  | .node .importFrom _ _ => true
  | _ => false

/-- The statements in a field. -/
def statements : Tree → List Tree
  | .list items => items
  | _ => []

/-- The statements in a field are smaller than the field. -/
theorem sizeOf_lt_of_mem_statements {t field : Tree} (h : t ∈ field.statements) :
    sizeOf t < sizeOf field := by
  cases field with
  | list items =>
      have hlt := List.sizeOf_lt_of_mem (show t ∈ items from h)
      rw [list.sizeOf_spec]
      omega
  | node | constant | absent => cases h

/-- The statements in a field of a node are smaller than the node. -/
theorem sizeOf_lt_of_mem_field {kind : Kind} {fields : List Tree} {place : Place Tree}
    {t field : Tree} (hfield : field ∈ fields) (h : t ∈ field.statements) :
    sizeOf t < sizeOf (node kind fields place) := by
  have hstatement := sizeOf_lt_of_mem_statements h
  have hlt := List.sizeOf_lt_of_mem hfield
  rw [node.sizeOf_spec]
  omega

/-- Induction on the statements of a tree.  There is a case for each form, and one for all trees
without a form. -/
theorem statementInduction {motive : Tree → Prop}
    (assign : ∀ targets value comment place,
      motive (.node .assign [targets, value, comment] place))
    (update : ∀ target op value place, motive (.node .augAssign [target, op, value] place))
    (effect : ∀ value place, motive (.node .exprStmt [value] place))
    (ifElse : ∀ test body orelse place, (∀ t ∈ body.statements, motive t) →
      (∀ t ∈ orelse.statements, motive t) → motive (.node .ifStmt [test, body, orelse] place))
    (whileLoop : ∀ test body orelse place, (∀ t ∈ body.statements, motive t) →
      (∀ t ∈ orelse.statements, motive t) → motive (.node .whileStmt [test, body, orelse] place))
    (skip : ∀ fields place, motive (.node .importFrom fields place))
    (program : ∀ body ignores place, (∀ t ∈ body.statements, motive t) →
      motive (.node .program [body, ignores] place))
    (other : ∀ t, t.isStatement = false → motive t) (t : Tree) : motive t := by
  induction hsize : sizeOf t using Nat.strongRecOn generalizing t with
  | ind size ih =>
      have hfield : ∀ {kind fields place field}, t = node kind fields place → field ∈ fields →
          ∀ s ∈ field.statements, motive s := by
        rintro kind fields place field rfl hfield s hs
        exact ih _ (hsize ▸ sizeOf_lt_of_mem_field hfield hs) s rfl
      by_cases hform : t.isStatement = true
      · unfold isStatement at hform
        split at hform
        · exact program _ _ _ (hfield rfl (by simp))
        · exact assign _ _ _ _
        · exact update _ _ _ _
        · exact effect _ _
        · exact ifElse _ _ _ _ (hfield rfl (by simp)) (hfield rfl (by simp))
        · exact whileLoop _ _ _ _ (hfield rfl (by simp)) (hfield rfl (by simp))
        · exact skip _ _
        · cases hform
      · exact other t ((Bool.not_eq_true _).mp hform)

/-- Why a tree without a form is refused.  The value of a constant is looked at before its
position. -/
def refusalOfForm : Tree → Refusal
  | .node .constant (.absent owner field :: _) _ => .noField owner field
  | t => t.refuse .unknownStatement

/-! ### Statements that are drawn as one box -/

/-- The box of an assignment: an input, if the value is read. -/
def assignmentBox (targets value : Tree) : Except Refusal Box := do
  if ← Stmt.isInput value then
    Stmt.readBox (Stmt.targetOf targets)
  else
    Stmt.assignBox (Stmt.targetOf targets) (Expr.ofTree value)

/-- The box of an update. -/
def updateBox (target op value : Tree) : Except Refusal Box :=
  Stmt.updateBox (nameOf target) (signOf op) (Expr.ofTree value)

/-- The box of an expression that stands alone, which has to be a call. -/
def effectBox : Tree → Except Refusal Box
  | .node .call [function, args, keywords] _ =>
    Stmt.performBox (nameOf function) (Expr.ofItems args) (Expr.ofKeywords keywords)
  | value => .error (value.refuse .unknownEffect)

/-- The box of a condition. -/
def testBox (test : Tree) : Except Refusal Box :=
  Stmt.conditionBox (Expr.ofTree test)

namespace Sample

/-! ### Small programs -/

/-- Where everything stands in the small programs. -/
def place : Place Tree :=
  ⟨.constant (.int 1), .constant (.int 0), .constant .none, .constant .none, []⟩

/-- A name. -/
def word (id : String) : Tree :=
  .node .ident [.constant (.ofString id), .constant .none] place

/-- An assignment of what is read. -/
def read (target : String) : Tree :=
  .node .assign [.list [word target], .node .call [word "input", .list [], .list []] place,
    .constant .none] place

/-- A condition. -/
def choice (test : String) (body orelse : List Tree) : Tree :=
  .node .ifStmt [word test, .list body, .list orelse] place

/-- A loop. -/
def loop (test : String) (body orelse : List Tree) : Tree :=
  .node .whileStmt [word test, .list body, .list orelse] place

/-- A statement that has no part in the flow of a program. -/
def skip : Tree :=
  .node .importFrom [] place

/-- A statement that no chart can show, and that has no place. -/
def stranger : Tree :=
  .node .passStmt [] (.nowhere .passStmt)

/-- A program. -/
def program (body : List Tree) : Tree :=
  .node .program [.list body, .list []] (.nowhere .program)

end Sample

end Flowchart.Tree
