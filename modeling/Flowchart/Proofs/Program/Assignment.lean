import Flowchart.Proofs.Draft.Trees
import Flowchart.Proofs.Program.Readability

/-!
# `Flowchart.Proofs.Program.Assignment`: which values can be assigned

An assignment to a name looks at its value before the value is turned into a text.  A call of the
reader, or a call whose first argument is one, is drawn as an input (`Tree.readsInput`).  To find
this out the first argument of a call is looked at, whether or not there is one.  So an expression
with a text can be assigned to a name unless it is a call without arguments of another function
(`run_assignment`): then the assignment is refused, and nothing is drawn.
-/

set_option autoImplicit false

namespace Flowchart

/-! ### One more box -/

/-- The parent of a node that is drawn after the given one.  The nodes of a graph have none. -/
def Medium.parent? : Medium → NodeId → Option NodeId
  | .graph, _ => none
  | .console, v => some v

/-- Draw a box after the current node. -/
def Medium.append : Medium → Draft → Box → Draft
  | .graph => Graph.append
  | .console => Draft.append

/-- The second draft is the first one with one more box, drawn after the current node.  Nothing else
has changed. -/
structure Draft.Appended (medium : Medium) (draft : Draft) (box : Box) (draft' : Draft) : Prop where
  size : draft'.chart.size = draft.chart.size + 1
  current : draft'.current = draft.chart.size
  new : draft'.chart[draft.chart.size]? =
    some { Node.ofBox box with parent := medium.parent? draft.current }
  next : draft'.chart[draft.current]? =
    draft.chart[draft.current]?.map ({ · with exit := .next (.node draft.chart.size) })
  others : ∀ v, v < draft.chart.size → v ≠ draft.current → draft'.chart[v]? = draft.chart[v]?

/-- A box is drawn after the current node, with or without its parent. -/
theorem Draft.appended_append (medium : Medium) {draft : Draft}
    (h : draft.current < draft.chart.size) {box : Box} (hbox : box ≠ .start) :
    Draft.Appended medium draft box (medium.append draft box) := by
  -- The two media differ in the parent only.
  have heq : medium.append draft box =
      { chart := (draft.chart.add
          { Node.ofBox box with parent := medium.parent? draft.current }).setNext draft.current
            (.node draft.chart.size)
        current := draft.chart.size } := by
    cases medium with
    | graph => rfl
    | console => rw [Medium.append, Draft.append, if_neg hbox]; rfl
  have hne := Nat.ne_of_lt h
  rw [heq]
  constructor
  · simp
  · rfl
  · rw [Chart.getElem?_setNext, if_neg hne, Chart.getElem?_add, if_pos rfl]
  · rw [Chart.getElem?_setNext, if_pos rfl, Chart.getElem?_add, if_neg hne]
  · intro v hv hother
    rw [Chart.getElem?_setNext, if_neg (Ne.symm hother), Chart.getElem?_add,
      if_neg (Nat.ne_of_lt hv)]

/-- An assignment draws its box, unless it is refused. -/
theorem Command.run_drawing_assign (medium : Medium) (targets value comment : Tree)
    (place : Place Tree) (draft : Draft) :
    (drawing medium (.node .assign [targets, value, comment] place)).run draft
      = match Tree.assignmentBox targets value with
        | .ok box => .ok () (medium.append draft box)
        | .error refusal => .error refusal draft := by
  cases medium with
  | graph =>
      rw [drawing, Graph.draw, Graph.drawAssign_eq]
      cases Tree.assignmentBox targets value <;> rfl
  | console =>
      rw [drawing, Console.draw, Console.drawAssign_eq]
      cases Tree.assignmentBox targets value <;> rfl

namespace Tree

/-! ### Calls -/

/-- Whether a tree is a call of the function with the given name. -/
def isCallOf (name : String) : Tree → Bool
  | .node .call [function, _, _] _ =>
    match nameOf function with
    | .ok piece => piece.isText name
    | .error _ => false
  | _ => false

/-- The arguments of a call by position, and what they are the items of. -/
def arguments? : Tree → Option (Sequence × List Tree)
  | .node .call [_, args, _] _ => args.items?
  | _ => none

/-- Whether a value is read from the input: it is a call of the reader, or a call whose first
argument is one. -/
def readsInput (value : Tree) : Bool :=
  value.isCallOf Stmt.reader ||
    match value.arguments? with
    | some (_, first :: _) => first.isCallOf Stmt.reader
    | _ => false

end Tree

namespace Stmt

open Flowchart.Expr Flowchart.Tree

/-- A call with a text has a name, and its arguments stand for something. -/
theorem exists_of_call {function args keywords : Tree} {place : Place Tree} {piece : Piece}
    (h : (Expr.ofTree (.node .call [function, args, keywords] place)).piece = .ok piece) :
    (∃ name, nameOf function = .ok name) ∧
      ∃ pieces, Expr.pieces (Expr.ofItems args) = .ok pieces := by
  rw [Expr.ofTree, Expr.piece, bare] at h
  obtain ⟨_, hbare, -⟩ := bind_eq_ok.mp h
  obtain ⟨name, hname, hrest⟩ := bind_eq_ok.mp hbare
  obtain ⟨pieces, hpieces, -⟩ := bind_eq_ok.mp hrest
  exact ⟨⟨name, hname⟩, pieces, hpieces⟩

/-- The first of several expressions that stand for something does. -/
theorem exists_of_pieces_cons {e : Expr} {es : List Expr} {pieces : List Piece}
    (h : Expr.pieces (e :: es) = .ok pieces) : ∃ piece, e.piece = .ok piece := by
  rw [Expr.pieces] at h
  obtain ⟨bare, hbare, hrest⟩ := bind_eq_ok.mp h
  obtain ⟨piece, hpiece, -⟩ := bind_eq_ok.mp hrest
  exact ⟨piece, bind_eq_ok.mpr ⟨bare, hbare, hpiece⟩⟩

/-- Expressions of which the first one is an obstacle stand for nothing. -/
theorem pieces_obstacle {refusal : Refusal} {es : List Expr} {pieces : List Piece} :
    Expr.pieces (.obstacle refusal :: es) ≠ .ok pieces := by
  intro h
  obtain ⟨piece, hpiece⟩ := exists_of_pieces_cons h
  cases hpiece

/-- Arguments that stand for something are none, or those of a list. -/
theorem items_of_pieces {args : Tree} {pieces : List Piece}
    (h : Expr.pieces (Expr.ofItems args) = .ok pieces) :
    (∃ sequence, args.items? = some (sequence, []) ∧ args.first = .error (.noElement sequence)) ∨
      ∃ first rest, args = .list (first :: rest) ∧
        ∃ piece, (Expr.ofTree first).piece = .ok piece := by
  cases args with
  | list items =>
      cases items with
      | nil => exact .inl ⟨.list, rfl, rfl⟩
      | cons first rest => exact .inr ⟨first, rest, rfl, exists_of_pieces_cons h⟩
  -- An empty text and empty bytes have no items, as an empty list.
  | constant c =>
      cases c with
      | str text =>
          cases text with
          | nil => exact .inl ⟨.text, rfl, rfl⟩
          | cons c text => exact absurd h pieces_obstacle
      | bytes bytes =>
          cases bytes with
          | nil => exact .inl ⟨.bytes, rfl, rfl⟩
          | cons b bytes => exact absurd h pieces_obstacle
      | _ => exact absurd h pieces_obstacle
  | _ => exact absurd h pieces_obstacle

/-- What is no call is not read from the input, and has no arguments. -/
theorem isInput_other {value : Tree}
    (h : ∀ function args keywords place, value ≠ .node .call [function, args, keywords] place) :
    isInput value = .ok false ∧ value.isCallOf reader = false ∧ value.arguments? = none := by
  -- Each of the three looks at calls only.
  have hcallOf : value.isCallOf reader = false := by
    unfold isCallOf
    split
    · exact absurd rfl (h _ _ _ _)
    · rfl
  have harguments : value.arguments? = none := by
    unfold arguments?
    split
    · exact absurd rfl (h _ _ _ _)
    · rfl
  have hinput : isInput value = .ok false := by
    unfold isInput
    split
    · exact absurd rfl (h _ _ _ _)
    · rfl
  exact ⟨hinput, hcallOf, harguments⟩

section
variable {function keywords : Tree} {place : Place Tree} {name : Piece}
  (hname : nameOf function = .ok name)
include hname

/-- Whether a call is one of the reader is told by the name of its function. -/
theorem isCallOf_call (args : Tree) :
    isCallOf reader (.node .call [function, args, keywords] place) = name.isText reader := by
  rw [isCallOf, hname]

/-- A call of the reader is asked nothing else. -/
theorem isInput_reader (hreader : name.isText reader = true) (args : Tree) :
    isInput (.node .call [function, args, keywords] place) = .ok true := by
  rw [isInput, hname]
  show (if name.isText reader then pure true else _ : Except Refusal Bool) = .ok true
  rw [if_pos hreader]
  rfl

variable (hreader : name.isText reader = false)
include hreader

/-- Of any other call the first argument is looked at. -/
theorem isInput_no_argument {args : Tree} {refusal : Refusal}
    (hfirst : args.first = .error refusal) :
    isInput (.node .call [function, args, keywords] place) = .error refusal := by
  rw [isInput, hname, hfirst]
  show (if name.isText reader then pure true else .error refusal : Except Refusal Bool) = _
  rw [hreader]
  rfl

/-- A call of another function is read from the input if its first argument is. -/
theorem isInput_argument {first : Tree} {piece : Piece}
    (hfirst : (Expr.ofTree first).piece = .ok piece) (rest : List Tree) :
    isInput (.node .call [function, .list (first :: rest), keywords] place)
      = .ok (first.isCallOf reader) := by
  rw [isInput, hname]
  simp only [bind, Except.bind, hreader, Bool.false_eq_true, if_false, Tree.first, items?]
  -- The first argument is a call, whose name is asked for, or it is none.
  split
  · next inner args keywords place =>
      obtain ⟨⟨inner, hinner⟩, -⟩ := exists_of_call hfirst
      rw [isCallOf_call hinner, hinner]
      rfl
  · next hother =>
      rw [(isInput_other hother).2.1]
      rfl

end

/-- What an assignment asks of its value, if the value stands for something. -/
theorem isInput_of_piece {value : Tree} {piece : Piece}
    (h : (Expr.ofTree value).piece = .ok piece) :
    (value.readsInput = true → isInput value = .ok true) ∧
    (value.readsInput = false → (∀ sequence, value.arguments? ≠ some (sequence, [])) →
      isInput value = .ok false) ∧
    (value.readsInput = false → ∀ sequence, value.arguments? = some (sequence, []) →
      isInput value = .error (.noElement sequence)) := by
  by_cases hcall : ∃ function args keywords place,
      value = .node .call [function, args, keywords] place
  · obtain ⟨function, args, keywords, place, rfl⟩ := hcall
    -- The value has a text, so that its function has a name and its arguments are in a list.
    obtain ⟨⟨name, hname⟩, pieces, hpieces⟩ := exists_of_call h
    cases hreader : name.isText reader with
    | true =>
        have hreads : readsInput (.node .call [function, args, keywords] place) = true := by
          rw [readsInput, isCallOf_call hname, hreader]
          rfl
        rw [hreads]
        exact ⟨fun _ => isInput_reader hname hreader args, nofun, nofun⟩
    | false =>
        rcases items_of_pieces hpieces with
          ⟨sequence, hitems, hfirst⟩ | ⟨first, rest, rfl, _, hfirst⟩
        · have harguments : arguments? (.node .call [function, args, keywords] place) =
              some (sequence, []) := hitems
          have hreads : readsInput (.node .call [function, args, keywords] place) = false := by
            rw [readsInput, isCallOf_call hname, hreader, harguments]
            rfl
          rw [hreads, harguments]
          refine ⟨nofun, fun _ hne => absurd rfl (hne sequence), fun _ _ heq => ?_⟩
          cases heq
          exact isInput_no_argument hname hreader hfirst
        · have hreads : readsInput (.node .call [function, .list (first :: rest), keywords] place) =
              first.isCallOf reader := by
            rw [readsInput, isCallOf_call hname, hreader]
            rfl
          rw [hreads, isInput_argument hname hreader hfirst]
          exact ⟨congrArg _, fun hother _ => congrArg _ hother, nofun⟩
  · obtain ⟨hinput, hcallOf, harguments⟩ := isInput_other fun function args keywords place heq =>
      hcall ⟨function, args, keywords, place, heq⟩
    have hreads : value.readsInput = false := by
      rw [readsInput, hcallOf, harguments]
      rfl
    rw [hinput, hreads, harguments]
    exact ⟨nofun, fun _ _ => rfl, nofun⟩

/-! ### Assignments -/

/-- The target of an assignment to a name is the name. -/
theorem targetOf_ident (id : String) (ctx : Tree) (place : Place Tree) :
    targetOf (.list [.node .ident [.constant (.ofString id), ctx] place]) = .ok (.text id) :=
  nameOf_ident id ctx place

/-- The box of an assignment to a name of a value with a text. -/
theorem assignmentBox_of_piece (id : String) (ctx : Tree) (targetPlace : Place Tree) {value : Tree}
    {text : String} (hpiece : (Expr.ofTree value).piece = .ok (.text text)) :
    let box := Tree.assignmentBox
      (.list [.node .ident [.constant (.ofString id), ctx] targetPlace]) value
    (value.readsInput = true → box = .ok (.input id)) ∧
    (value.readsInput = false → (∀ sequence, value.arguments? ≠ some (sequence, [])) →
      box = .ok (.assignment id text)) ∧
    (value.readsInput = false → ∀ sequence, value.arguments? = some (sequence, []) →
      box = .error (.noElement sequence)) := by
  intro box
  obtain ⟨hinput, hother, hnone⟩ := isInput_of_piece hpiece
  -- The target has a name, so that all depends on the value.
  have htarget := targetOf_ident id ctx targetPlace
  have hbox : box = Tree.assignmentBox _ value := rfl
  rw [Tree.assignmentBox] at hbox
  refine ⟨fun hreads => ?_, fun hreads hargument => ?_, fun hreads sequence hargument => ?_⟩
  · rw [hbox, hinput hreads, htarget]
    rfl
  · rw [hbox, hother hreads hargument, htarget, assignBox, hpiece]
    rfl
  · rw [hbox, hnone hreads sequence hargument]
    rfl

/-- A value with a text is assigned to a name by drawing one box: an input if the value is read from
the input, and otherwise the name and the text.  A call without arguments is an exception unless it
is one of the reader: it is refused because there is no first argument, and nothing is drawn. -/
theorem run_assignment (medium : Medium) {draft : Draft}
    (hcurrent : draft.current < draft.chart.size) (id : String) (ctx comment : Tree)
    (targetPlace place : Place Tree) {value : Tree} {text : String}
    (hpiece : (Expr.ofTree value).piece = .ok (.text text)) :
    let tree : Tree := .node .assign
      [.list [.node .ident [.constant (.ofString id), ctx] targetPlace], value, comment] place
    (value.readsInput = true → ∃ draft', (Command.drawing medium tree).run draft = .ok () draft' ∧
      Draft.Appended medium draft (.input id) draft') ∧
    (value.readsInput = false → (∀ sequence, value.arguments? ≠ some (sequence, [])) →
      ∃ draft', (Command.drawing medium tree).run draft = .ok () draft' ∧
        Draft.Appended medium draft (.assignment id text) draft' ∧
          (Box.assignment id text).label = .ok (Box.filled (id ++ " = " ++ text))) ∧
    (value.readsInput = false → ∀ sequence, value.arguments? = some (sequence, []) →
      (Command.drawing medium tree).run draft = .error (.noElement sequence) draft) := by
  intro tree
  obtain ⟨hinput, hother, hnone⟩ := assignmentBox_of_piece id ctx targetPlace hpiece
  simp only [tree, Command.run_drawing_assign]
  refine ⟨fun hreads => ?_, fun hreads hargument => ?_, fun hreads sequence hargument => ?_⟩
  · rw [hinput hreads]
    exact ⟨_, rfl, Draft.appended_append medium hcurrent (by simp)⟩
  · rw [hother hreads hargument]
    exact ⟨_, rfl, Draft.appended_append medium hcurrent (by simp), rfl⟩
  · rw [hnone hreads sequence hargument]

/-- Values that are read from the input by way of another function, and values that are not. -/
theorem run_assignment_calls :
    let word (id : String) : Tree :=
      .node .ident [.constant (.ofString id), .constant .none] (.nowhere .ident)
    let call (id : String) (args : List Tree) : Tree :=
      .node .call [word id, .list args, .list []] (.nowhere .call)
    let assign (value : Tree) : Tree :=
      .node .assign [.list [word "x"], value, .constant .none] (.nowhere .assign)
    (∃ draft, (Command.drawing .console (assign (call "int" [call "input" []]))).run .empty
        = .ok () draft ∧ Draft.Appended .console .empty (.input "x") draft) ∧
    (∃ draft, (Command.drawing .graph (assign (call "f" [word "y"]))).run .empty = .ok () draft ∧
      Draft.Appended .graph .empty (.assignment "x" "f(y)") draft) := by
  intro word call assign
  have hempty : Draft.empty.current < Draft.empty.chart.size := by decide
  have hread := run_assignment .console hempty "x" (.constant .none) (.constant .none)
    (.nowhere .ident) (.nowhere .assign)
    (show (Expr.ofTree (call "int" [call "input" []])).piece = .ok (.text "int(input())") from rfl)
  have hassign := run_assignment .graph hempty "x" (.constant .none) (.constant .none)
    (.nowhere .ident) (.nowhere .assign)
    (show (Expr.ofTree (call "f" [word "y"])).piece = .ok (.text "f(y)") from rfl)
  obtain ⟨draft, hrun, happended, -⟩ := hassign.2.1 rfl nofun
  exact ⟨hread.1 rfl, draft, hrun, happended⟩

/-- A call without arguments has a text and cannot be assigned. -/
theorem call_without_arguments_refused :
    let word (id : String) : Tree :=
      .node .ident [.constant (.ofString id), .constant .none] (.nowhere .ident)
    let call : Tree := .node .call [word "f", .list [], .list []] (.nowhere .call)
    let tree : Tree := .node .assign [.list [word "x"], call, .constant .none] (.nowhere .assign)
    (Expr.ofTree call).piece = .ok (.text "f()") ∧ call.readsInput = false ∧
      ∀ medium, (Command.drawing medium tree).run .empty = .error (.noElement .list) .empty := by
  intro word call tree
  have hbox : Tree.assignmentBox (.list [word "x"]) call = .error (.noElement .list) := rfl
  refine ⟨rfl, rfl, fun medium => ?_⟩
  simp only [tree, Command.run_drawing_assign, hbox]

end Stmt

end Flowchart
