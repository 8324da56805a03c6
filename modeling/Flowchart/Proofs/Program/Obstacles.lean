import Flowchart.Proofs.Faults
import Flowchart.Proofs.Program.Readability

/-!
# `Flowchart.Proofs.Program.Obstacles`: which expressions have a text, and why the others have none

The trees here are expressions as they are read from source (`Tree.Parsed`).  Such an expression has
a text exactly if every expression it leads to is admitted: a number within the limit of digits, a
text, a name, a call of a name, or an operation all of whose operators have a sign.  Otherwise it is
refused for the first of its obstacles (`Tree.obstacles`).  The list of obstacles is in the order of
evaluation: the operands of an operation come before its operator, except in a comparison, where
each operator comes just before the operand it leads to, and the function of a call comes before the
arguments.  Both are `piece_eq_first_obstacle`.

What stands for an expression is put together from what stands for its operands, step by step, and
so its obstacles are those of the steps in a row (`Expr.Meets`).  There is a lemma for each form of
expression.
-/

set_option autoImplicit false

namespace Flowchart

/-- Whether a number has no more digits than the limit. -/
def Number.isShort : Number → Bool
  | .int n => n.natAbs < Nat.pow 10 digitLimit
  | _ => true

namespace Tree

/-! ### Expressions as they are read -/

/-- A whole number within the limit of digits. -/
def IsCoordinate (c : Tree) : Prop :=
  ∃ n : Int, c = .constant (.int n) ∧ n.natAbs < Nat.pow 10 digitLimit

/-- A line and a column are recorded, and nothing else beside the coordinates. -/
structure IsLocated (place : Place Tree) : Prop where
  line : place.line.IsCoordinate
  column : place.column.IsCoordinate
  remarks : place.remarks = []

/-- The kinds of expressions that may have a text in a chart. -/
def textKinds : List Kind :=
  [.ident, .constant, .binOp, .boolOp, .compare, .call]

/-- Expressions as they are read from source.  What is inside an expression of a kind without a text
does not matter. -/
inductive Parsed : Tree → Prop
  | name {id : List Text.CodePoint} {ctx : Tree} {place : Place Tree} (hplace : IsLocated place) :
      Parsed (.node .ident [.constant (.str id), ctx] place)
  | constant {value : Constant} {suffix : Tree} {place : Place Tree} (hplace : IsLocated place) :
      Parsed (.node .constant [.constant value, suffix] place)
  | binary {left right : Tree} {op : Kind} {opPlace place : Place Tree} (hplace : IsLocated place)
      (hleft : Parsed left) (hright : Parsed right) :
      Parsed (.node .binOp [left, .node op [] opPlace, right] place)
  | junction {operands : List Tree} {op : Kind} {opPlace place : Place Tree}
      (hplace : IsLocated place) (hoperands : ∀ t ∈ operands, Parsed t) :
      Parsed (.node .boolOp [.node op [] opPlace, .list operands] place)
  | comparison {left : Tree} {links : List (Kind × Place Tree × Tree)} {place : Place Tree}
      (hplace : IsLocated place) (hleft : Parsed left) (hlinks : ∀ link ∈ links, Parsed link.2.2) :
      Parsed (.node .compare [left, .list (links.map fun link => .node link.1 [] link.2.1),
        .list (links.map fun link => link.2.2)] place)
  | call {function keywords : Tree} {args : List Tree} {place : Place Tree}
      (hplace : IsLocated place) (hfunction : Parsed function) (hargs : ∀ t ∈ args, Parsed t) :
      Parsed (.node .call [function, .list args, keywords] place)
  | other {kind : Kind} {fields : List Tree} {place : Place Tree} (hkind : kind ∉ textKinds)
      (hplaced : kind.placement ≠ .unplaced) (hplace : IsLocated place) :
      Parsed (.node kind fields place)

/-! ### What evaluation comes upon -/

/-- The kinds of operators that have a sign. -/
def signKinds : List Kind :=
  [.mult, .add, .sub, .div, .or, .and, .gt, .lt, .eq, .notEq]

/-- Whether an operator has a sign. -/
def hasSign : Tree → Bool
  | .node kind _ _ => signKinds.contains kind
  | _ => false

/-- Whether a tree is a name. -/
def isName : Tree → Bool
  | .node .ident _ _ => true
  | _ => false

/-- What keeps an expression from having a text. -/
inductive Obstacle where
  /-- An expression of another kind. -/
  | expression (t : Tree)
  /-- An operator without a sign. -/
  | operator (op : Tree)
  /-- A called function that is not given by its name. -/
  | callee (function : Tree)
  /-- A number with too many digits. -/
  | digits (n : Number)

/-- A coordinate as a text. -/
def coordinateText : Tree → String
  | .constant (.number (.int n)) => intText n
  | _ => ""

/-- Why an expression with an obstacle is refused. -/
def Obstacle.refusal : Obstacle → Refusal
  | expression t => .unknownExpression t.className (coordinateText (t.get "lineno"))
      (coordinateText (t.get "col_offset"))
  | operator op => .unknownOperator op.className
  | callee function => .noField function.typeName "id"
  | digits _ => .tooManyDigits

/-- How this is worded. -/
def Obstacle.wording : Obstacle → String
  | expression t => "Unknown object to parse: " ++ ("<" ++ t.className ++ " object> (line " ++
      coordinateText (t.get "lineno") ++ " col " ++ coordinateText (t.get "col_offset") ++ ")")
  | operator op => "<class '" ++ op.className ++ "'>"
  | callee function => "'" ++ function.typeName ++ "' object has no attribute '" ++ "id" ++ "'"
  | digits _ => digitLimitMessage ""

/-- The obstacle of an operator. -/
def operatorObstacles (op : Tree) : List Obstacle :=
  if op.hasSign then [] else [.operator op]

/-- The obstacle of a called function. -/
def calleeObstacles (function : Tree) : List Obstacle :=
  if function.isName then [] else [.callee function]

mutual

/-- The obstacles of an expression in the order in which evaluation comes upon them. -/
def obstacles : Tree → List Obstacle
  | .node .ident _ _ | .node .constant [.constant (.str _), _] _ => []
  | .node .constant [.constant (.number n), _] _ => if n.isShort then [] else [.digits n]
  | .node .binOp [left, op, right] _ => obstacles left ++ obstacles right ++ operatorObstacles op
  | .node .boolOp [op, .list operands] _ => allObstacles operands ++ operatorObstacles op
  | .node .compare [left, .list ops, .list others] _ => obstacles left ++ linkedObstacles ops others
  | .node .call [function, .list args, _] _ => calleeObstacles function ++ allObstacles args
  | t => [.expression t]

/-- The obstacles of several expressions. -/
def allObstacles : List Tree → List Obstacle
  | [] => []
  | t :: rest => obstacles t ++ allObstacles rest

/-- The obstacles of operands, each with those of the operator that leads to it in front. -/
def linkedObstacles : List Tree → List Tree → List Obstacle
  | op :: ops, t :: others => operatorObstacles op ++ obstacles t ++ linkedObstacles ops others
  | _, _ => []

end

/-- The expressions that an expression is put together from. -/
def operands : Tree → List Tree
  | .node .binOp [left, _, right] _ => [left, right]
  | .node .boolOp [_, .list operands] _ => operands
  | .node .compare [left, _, .list others] _ => left :: others
  | .node .call [_, .list args, _] _ => args
  | _ => []

/-- Whether an expression is without an obstacle of its own. -/
def isAdmitted : Tree → Bool
  | .node .ident _ _ | .node .constant [.constant (.str _), _] _ => true
  | .node .constant [.constant (.number n), _] _ => n.isShort
  | .node .binOp [_, op, _] _ | .node .boolOp [op, _] _ => op.hasSign
  | .node .compare [_, .list ops, _] _ => ops.all hasSign
  | .node .call [function, _, _] _ => function.isName
  | _ => false

/-- The obstacles of several expressions are those of each of them. -/
theorem allObstacles_eq_flatMap (ts : List Tree) : allObstacles ts = ts.flatMap obstacles := by
  induction ts with
  | nil => rfl
  | cons t ts ih => rw [allObstacles, ih, List.flatMap_cons]

/-- The obstacles of operands with an operator each, pair by pair. -/
theorem linkedObstacles_map {α : Type} (op operand : α → Tree) (links : List α) :
    linkedObstacles (links.map op) (links.map operand) =
      links.flatMap fun link => operatorObstacles (op link) ++ obstacles (operand link) := by
  induction links with
  | nil => rfl
  | cons link links ih => rw [List.map_cons, List.map_cons, linkedObstacles, ih, List.flatMap_cons]

/-! ### Refusals -/

/-- The message of a refusal is the wording of its obstacle. -/
theorem message_refusal (o : Obstacle) : o.refusal.message = o.wording := by
  cases o <;> rfl

/-- What is no field of a node is looked up among its coordinates and what else is recorded. -/
theorem get_node {kind : Kind} {fields : List Tree} {place : Place Tree} {name : String}
    (h : kind.fields.any (·.name == name) = false) : (node kind fields place).get name =
      ((place.coordinates ++ place.remarks).lookup name).getD (absent kind.name name) := by
  -- The fields are looked through first, and none has the name.
  have hfields : ((kind.fields.map (·.name)).zip fields).lookup name = none := by
    rw [List.lookup_eq_none_iff]
    intro e he
    obtain ⟨field, hfield, hname⟩ := List.mem_map.mp (List.of_mem_zip he).1
    have hne := List.any_eq_false.mp h field hfield
    rw [← hname, bne_iff_ne]
    exact fun heq => hne (beq_iff_eq.mpr heq.symm)
  rw [get, List.append_assoc, List.lookup_append, hfields, Option.none_or]

/-- No field has the name of a coordinate where coordinates are recorded, and only names have a
name. -/
theorem no_field (kind : Kind) :
    (kind.placement ≠ .unplaced → kind.fields.any (·.name == "lineno") = false ∧
      kind.fields.any (·.name == "col_offset") = false) ∧
    (kind ≠ .ident → kind.fields.any (·.name == "id") = false) := by
  have hall : ∀ kind ∈ Kind.all,
      (kind.placement ≠ .unplaced → kind.fields.any (·.name == "lineno") = false ∧
        kind.fields.any (·.name == "col_offset") = false) ∧
      (kind ≠ .ident → kind.fields.any (·.name == "id") = false) := by decide +kernel
  exact hall kind kind.mem_all

section
variable {kind : Kind} {fields : List Tree} {place : Place Tree}

/-- Only names have a name. -/
theorem nameOf_of_ne_ident (hkind : kind ≠ .ident) (hplace : IsLocated place) :
    nameOf (.node kind fields place) = .error (.noField kind.name "id") := by
  rw [nameOf, demand, get_node ((no_field kind).2 hkind), hplace.remarks]
  rfl

/-- A coordinate is shown as a number. -/
theorem shown_of_isCoordinate {c : Tree} (h : c.IsCoordinate) :
    c.shown = .ok (coordinateText c) := by
  obtain ⟨n, rfl, hn⟩ := h
  have htext : plain? (.constant (.int n)) = some (intText n) := by
    show intText? n = some (intText n)
    rw [intText?, if_pos hn]
  rw [shown, htext]
  rfl

/-- An expression without a text is refused with its position. -/
theorem refuse_of_isLocated (hplaced : kind.placement ≠ .unplaced) (hplace : IsLocated place) :
    (node kind fields place).refuse .unknownExpression =
      (Obstacle.expression (.node kind fields place)).refusal := by
  obtain ⟨hline, hcolumn⟩ := (no_field kind).1 hplaced
  -- Both coordinates are there and can be shown.
  have hdemand : ∀ {name : String} {c : Tree}, (node kind fields place).get name = c →
      c.IsCoordinate → (node kind fields place).demand name = .ok c := by
    rintro name c hget ⟨n, rfl, -⟩
    rw [demand, hget]
  have hgetLine : (node kind fields place).get "lineno" = place.line := by
    rw [get_node hline]
    rfl
  have hgetColumn : (node kind fields place).get "col_offset" = place.column := by
    rw [get_node hcolumn]
    rfl
  have hshown : (node kind fields place).shown = .ok ("<ast." ++ kind.name ++ " object>") := rfl
  rw [refuse, hshown, hdemand hgetLine hplace.line, hdemand hgetColumn hplace.column]
  simp only [bind, Except.bind, pure, Except.pure, shown_of_isCoordinate hplace.line,
    shown_of_isCoordinate hplace.column]
  rw [Obstacle.refusal, hgetLine, hgetColumn]

end

/-- An operator has a sign, or there is an obstacle. -/
theorem signOf_node (kind : Kind) (fields : List Tree) (place : Place Tree) : ∃ sign,
    signOf (.node kind fields place) =
      barring ((operatorObstacles (.node kind fields place)).map Obstacle.refusal) sign := by
  cases hsign : signKinds.contains kind with
  | true =>
      have hkind : kind ∈ signKinds := by simpa using hsign
      simp only [signKinds, List.mem_cons, List.not_mem_nil, or_false] at hkind
      rcases hkind with rfl | rfl | rfl | rfl | rfl | rfl | rfl | rfl | rfl | rfl <;> exact ⟨_, rfl⟩
  | false =>
      have hobstacle : operatorObstacles (.node kind fields place) =
          [.operator (.node kind fields place)] := by
        rw [operatorObstacles, hasSign, hsign]
        rfl
      -- There is no sign, so that any will do here.
      refine ⟨.mult, ?_⟩
      rw [hobstacle, signOf]
      · rfl
      all_goals
        rintro _ _ heq
        cases heq
      all_goals cases hsign

end Tree

namespace Expr

/-- The text that stands for an expression, if one does. -/
def text (e : Expr) : String :=
  match e.piece with
  | .ok (.text s) => s
  | _ => ""

/-- A text stands for an expression, unless there are faults: then it is refused for the first
one. -/
def Meets (e : Expr) (faults : List Refusal) : Prop :=
  e.piece = barring faults (.text e.text)

/-- What stands for an expression tells the faults that it meets. -/
theorem meets_of_piece {e : Expr} {faults : List Refusal} {text : String}
    (h : e.piece = barring faults (.text text)) : e.Meets faults := by
  rw [Meets, h]
  -- With a fault there is no text, and the other side does not look at it either.
  cases faults with
  | nil =>
      rw [Expr.text, h]
      rfl
  | cons fault faults => rfl

/-- Parentheses around a text, or none, make a text. -/
theorem wrap_text (e : Expr) (s : String) : ∃ wrapped, e.wrap (.text s) = .ok (.text wrapped) := by
  cases e <;> exact ⟨_, rfl⟩

/-- The parentheses around an expression are no fault. -/
theorem meets_of_bare {e : Expr} {faults : List Refusal} {text : String}
    (h : e.bare = barring faults (.text text)) : e.Meets faults := by
  obtain ⟨wrapped, hwrap⟩ := wrap_text e text
  refine @meets_of_piece _ _ wrapped ?_
  rw [piece, h, barring_bind_ok hwrap]

/-- What stands for several expressions is what stands for each of them, one by one. -/
theorem pieces_eq_mapM (es : List Expr) : pieces es = es.mapM piece := by
  induction es with
  | nil => rfl
  | cons e es ih =>
      rw [List.mapM_cons, ← ih]
      simp only [pieces, piece, bind_assoc]

/-- Several expressions meet the faults of each of them in a row. -/
theorem pieces_of_meets {α : Type} {xs : List α} {expr : α → Expr} {faults : α → List Refusal}
    (h : ∀ x ∈ xs, (expr x).Meets (faults x)) :
    pieces (xs.map expr) =
      barring (xs.flatMap faults) ((xs.map fun x => (expr x).text).map .text) := by
  rw [pieces_eq_mapM, List.mapM_map, List.map_map]
  exact mapM_barring h

/-- An operation meets the faults of its operands, and then that of its sign. -/
theorem meets_binary {left right : Expr} {sign : Except Refusal Sign} {value : Sign}
    {leftFaults rightFaults signFaults : List Refusal} (hleft : left.Meets leftFaults)
    (hright : right.Meets rightFaults) (hsign : sign = barring signFaults value) :
    (binary left sign right).Meets (leftFaults ++ (rightFaults ++ signFaults)) := by
  have hbare : bare (binary left sign right) = left.piece >>= fun leftPiece =>
      right.piece >>= fun rightPiece => sign >>= fun sign => do
        return .text ((← leftPiece.shown) ++ " " ++ sign.text ++ " " ++ (← rightPiece.shown)) := by
    simp only [bare, piece, bind_assoc]
  refine @meets_of_bare _ _ (left.text ++ " " ++ value.text ++ " " ++ right.text) ?_
  rw [hbare, hleft, hright, hsign]
  exact barring_bind (barring_bind (barring_bind_ok rfl))

section
variable {α : Type} {xs : List α} {expr : α → Expr} {faults : α → List Refusal}
  (h : ∀ x ∈ xs, (expr x).Meets (faults x))
include h

/-- A row of operands meets their faults, and then that of its sign. -/
theorem meets_junction {sign : Except Refusal Sign} {value : Sign} {signFaults : List Refusal}
    (hsign : sign = barring signFaults value) :
    (junction sign (xs.map expr)).Meets (xs.flatMap faults ++ signFaults) := by
  have hjoin := Piece.join_texts (" " ++ value.text ++ " ") (xs.map fun x => (expr x).text)
  refine @meets_of_bare _ _
    ((" " ++ value.text ++ " ").intercalate (xs.map fun x => (expr x).text)) ?_
  rw [bare, pieces_of_meets h, hsign]
  refine barring_bind (barring_bind_ok ?_)
  rw [hjoin]
  rfl

/-- A call meets the fault of its function, and then those of its arguments. -/
theorem meets_call {function : Except Refusal Piece} {id : String} {nameFaults : List Refusal}
    {keywords : List Expr} (hfunction : function = barring nameFaults (.text id)) :
    (call function (xs.map expr) keywords).Meets (nameFaults ++ xs.flatMap faults) := by
  refine @meets_of_bare _ _
    (id ++ "(" ++ ", ".intercalate (xs.map fun x => (expr x).text) ++ ")") ?_
  rw [bare, pieces_of_meets h, hfunction]
  refine barring_bind (barring_bind_ok ?_)
  rw [shownAll_texts]
  rfl

/-- A comparison goes on operator by operator and operand by operand. -/
theorem compared_of_meets {sign : α → Except Refusal Sign} {signFaults : α → List Refusal}
    (hsign : ∀ x ∈ xs, ∃ value, sign x = barring (signFaults x) value) (start : String) :
    ∃ text, compared (.text start) (xs.map sign) (xs.map expr) =
      barring (xs.flatMap fun x => signFaults x ++ faults x) (.text text) := by
  induction xs generalizing start with
  | nil => exact ⟨start, rfl⟩
  | cons x xs ih =>
      rw [List.forall_mem_cons] at h hsign
      obtain ⟨value, hvalue⟩ := hsign.1
      -- The comparison goes on from the text that has been reached.
      obtain ⟨text, htext⟩ := ih h.2 hsign.2 (start ++ (" " ++ value.text ++ " " ++ (expr x).text))
      refine ⟨text, ?_⟩
      rw [List.map_cons, List.map_cons, compared_cons, hvalue, h.1, List.flatMap_cons,
        List.append_assoc]
      exact barring_bind (barring_bind htext)

/-- A comparison meets the faults of its left operand, and then those of each sign and the operand
it leads to. -/
theorem meets_comparison {left : Expr} {leftFaults : List Refusal} (hleft : left.Meets leftFaults)
    {sign : α → Except Refusal Sign} {signFaults : α → List Refusal}
    (hsign : ∀ x ∈ xs, ∃ value, sign x = barring (signFaults x) value) :
    (comparison left (xs.map sign) (xs.map expr)).Meets
      (leftFaults ++ xs.flatMap fun x => signFaults x ++ faults x) := by
  obtain ⟨text, htext⟩ := compared_of_meets h hsign left.text
  refine @meets_of_bare _ _ text ?_
  rw [bare_comparison, hleft]
  exact barring_bind htext

end

/-- A number meets a fault if it has too many digits. -/
theorem meets_number (n : Number) : (number n).Meets
    ((if n.isShort then [] else [Tree.Obstacle.digits n]).map Tree.Obstacle.refusal) := by
  have hpiece : piece (number n) =
      n.text?.elim (.error .tooManyDigits) fun text => .ok (.text text) := by
    rw [piece, bare]
    cases n.text? <;> rfl
  cases n with
  | int n =>
      rw [Number.text?, intText?] at hpiece
      rw [Number.isShort]
      -- Only a whole number may have too many digits.
      by_cases hn : n.natAbs < Nat.pow 10 digitLimit
      · rw [if_pos hn] at hpiece
        rw [if_pos (decide_eq_true hn)]
        exact meets_of_piece hpiece
      · rw [if_neg hn] at hpiece
        rw [decide_eq_false hn]
        exact @meets_of_piece _ _ "" hpiece
  | float x => exact meets_of_piece hpiece
  | complex re im => exact meets_of_piece hpiece

end Expr

namespace Tree

open Flowchart.Expr

/-- A called function is known by its name, or there is an obstacle. -/
theorem nameOf_of_parsed {t : Tree} (h : t.Parsed) : ∃ id,
    nameOf t = barring ((calleeObstacles t).map Obstacle.refusal) (.text id) := by
  -- Every other expression lacks the field that names have.
  have hother : ∀ {kind : Kind} {fields : List Tree} {place : Place Tree}, kind ≠ .ident →
      IsLocated place → ∃ id, nameOf (.node kind fields place) =
        barring ((calleeObstacles (.node kind fields place)).map Obstacle.refusal) (.text id) := by
    intro kind fields place hkind hplace
    have hname : isName (.node kind fields place) = false := by
      unfold isName
      split
      · next heq =>
          cases heq
          exact absurd rfl hkind
      · rfl
    refine ⟨"", ?_⟩
    rw [nameOf_of_ne_ident hkind hplace, calleeObstacles, hname]
    rfl
  cases h with
  | name hplace => exact ⟨_, rfl⟩
  | constant hplace => exact hother (by decide) hplace
  | binary hplace hleft hright => exact hother (by decide) hplace
  | junction hplace hoperands => exact hother (by decide) hplace
  | comparison hplace hleft hlinks => exact hother (by decide) hplace
  | call hplace hfunction hargs => exact hother (by decide) hplace
  | other hkind hplaced hplace =>
      refine hother ?_ hplace
      rintro rfl
      exact hkind (by decide)

/-- An expression of another kind is an obstacle. -/
theorem ofTree_other {kind : Kind} (hkind : kind ∉ textKinds) (fields : List Tree)
    (place : Place Tree) : ofTree (.node kind fields place) =
      .obstacle ((node kind fields place).refuse .unknownExpression) := by
  rw [ofTree]
  all_goals simp_all [textKinds]

/-- The only obstacle of an expression of another kind is the expression itself. -/
theorem obstacles_other {kind : Kind} (hkind : kind ∉ textKinds) (fields : List Tree)
    (place : Place Tree) :
    obstacles (.node kind fields place) = [.expression (.node kind fields place)] := by
  rw [obstacles]
  all_goals simp_all [textKinds]

/-- An expression of another kind meets the fault that it has no text. -/
theorem meets_expression {kind : Kind} {fields : List Tree} {place : Place Tree}
    (hplaced : kind.placement ≠ .unplaced) (hplace : IsLocated place) :
    (Expr.obstacle ((node kind fields place).refuse .unknownExpression)).Meets
      ([Obstacle.expression (.node kind fields place)].map Obstacle.refusal) := by
  rw [refuse_of_isLocated hplaced hplace]
  exact @meets_of_piece _ _ "" rfl

/-- The obstacles of an expression are what keeps it from having a text. -/
theorem Parsed.meets {t : Tree} (h : t.Parsed) :
    (ofTree t).Meets (t.obstacles.map Obstacle.refusal) := by
  -- The obstacles of each form are those of its steps, in the order of the lemma on the form.
  induction h with
  | name hplace => exact @meets_of_piece _ _ _ rfl
  | @constant value suffix place hplace =>
      have hplaced : Kind.placement .constant ≠ .unplaced := by decide
      -- Of the constants only numbers and texts are expressions of a chart.
      cases value with
      | number n =>
          rw [ofTree, obstacles]
          exact meets_number n
      | str text => exact @meets_of_piece _ _ _ rfl
      | none => exact meets_expression hplaced hplace
      | bool b => exact meets_expression hplaced hplace
      | bytes b => exact meets_expression hplaced hplace
      | ellipsis => exact meets_expression hplaced hplace
  | @binary left right op opPlace place hplace hleft hright ihLeft ihRight =>
      obtain ⟨sign, hsign⟩ := signOf_node op [] opPlace
      rw [ofTree, obstacles, List.map_append, List.map_append, List.append_assoc]
      exact meets_binary ihLeft ihRight hsign
  | @junction operands op opPlace place hplace hoperands ih =>
      obtain ⟨sign, hsign⟩ := signOf_node op [] opPlace
      rw [ofTree, ofItems, ofTrees_eq_map, obstacles, allObstacles_eq_flatMap, List.map_append,
        List.map_flatMap]
      exact meets_junction ih hsign
  | @comparison left links place hplace hleft hlinks ihLeft ih =>
      rw [ofTree, signsOf, ofOthers, ofTrees_eq_map, List.map_map, List.map_map, obstacles,
        linkedObstacles_map, List.map_append, List.map_flatMap]
      simp only [List.map_append]
      exact meets_comparison ih ihLeft fun link _ => signOf_node link.1 [] link.2.1
  | @call function keywords args place hplace hfunction hargs ihFunction ih =>
      obtain ⟨id, hid⟩ := nameOf_of_parsed hfunction
      rw [ofTree, ofItems, ofTrees_eq_map, obstacles, allObstacles_eq_flatMap, List.map_append,
        List.map_flatMap]
      exact meets_call ih hid
  | other hkind hplaced hplace =>
      rw [ofTree_other hkind, obstacles_other hkind]
      exact meets_expression hplaced hplace

/-! ### Expressions without obstacles -/

/-- An operator is no obstacle exactly if it has a sign. -/
theorem operatorObstacles_eq_nil {op : Tree} : operatorObstacles op = [] ↔ op.hasSign = true := by
  rw [operatorObstacles]
  split <;> simp_all

/-- A called function is no obstacle exactly if it is a name. -/
theorem calleeObstacles_eq_nil {function : Tree} :
    calleeObstacles function = [] ↔ function.isName = true := by
  rw [calleeObstacles]
  split <;> simp_all

/-- An expression, its operands, their operands and so on. -/
abbrev Reaches : Tree → Tree → Prop :=
  Within operands

/-- An expression of another kind is not admitted. -/
theorem isAdmitted_other {kind : Kind} (hkind : kind ∉ textKinds) (fields : List Tree)
    (place : Place Tree) : isAdmitted (.node kind fields place) = false := by
  rw [isAdmitted]
  all_goals simp_all [textKinds]

/-- There are no obstacles if every expression that is reached is without one of its own. -/
theorem Parsed.obstacles_eq_nil_iff {t : Tree} (h : t.Parsed) :
    t.obstacles = [] ↔ ∀ s, t.Reaches s → s.isAdmitted = true := by
  induction h with
  | name hplace =>
      rw [forall_within_iff, obstacles, isAdmitted]
      simp [operands]
  | @constant value suffix place hplace =>
      rw [forall_within_iff]
      cases value <;> simp [obstacles, isAdmitted, operands]
  | @binary left right op opPlace place hplace hleft hright ihLeft ihRight =>
      rw [forall_within_iff, obstacles, List.append_eq_nil_iff, List.append_eq_nil_iff, ihLeft,
        ihRight, operatorObstacles_eq_nil, and_comm]
      -- The operands of an operation are its parts, and its sign is its own affair.
      show _ ↔ _ ∧ ∀ part ∈ [left, right], _
      rw [List.forall_mem_cons, List.forall_mem_singleton]
      rfl
  | @junction operands op opPlace place hplace hoperands ih =>
      rw [forall_within_iff, obstacles, allObstacles_eq_flatMap, List.append_eq_nil_iff,
        List.flatMap_eq_nil_iff, forall₂_congr ih, operatorObstacles_eq_nil, and_comm]
      rfl
  | @comparison left links place hplace hleft hlinks ihLeft ih =>
      rw [forall_within_iff, obstacles, linkedObstacles_map, List.append_eq_nil_iff,
        List.flatMap_eq_nil_iff, ihLeft]
      simp only [List.append_eq_nil_iff, operatorObstacles_eq_nil, imp_and, forall_and]
      rw [forall₂_congr ih, and_left_comm]
      show _ ↔ (links.map fun link => node link.1 [] link.2.1).all hasSign = true ∧
        ∀ part ∈ left :: links.map fun link => link.2.2, _
      rw [List.all_map, List.all_eq_true, List.forall_mem_cons, List.forall_mem_map]
      rfl
  | @call function keywords args place hplace hfunction hargs ihFunction ih =>
      rw [forall_within_iff, obstacles, allObstacles_eq_flatMap, List.append_eq_nil_iff,
        List.flatMap_eq_nil_iff, forall₂_congr ih, calleeObstacles_eq_nil]
      rfl
  | other hkind hplaced hplace =>
      rw [obstacles_other hkind]
      refine iff_of_false (List.cons_ne_nil _ _) fun h => ?_
      have hadmitted := h _ .refl
      rw [isAdmitted_other hkind] at hadmitted
      cases hadmitted

/-- An expression has a text exactly if every expression it reaches is admitted.  Otherwise it is
refused for the first of its obstacles in the order of evaluation. -/
theorem piece_eq_first_obstacle {t : Tree} (h : t.Parsed) :
    ((∃ text, (ofTree t).piece = .ok (.text text)) ↔ ∀ s, t.Reaches s → s.isAdmitted = true) ∧
    ((∃ s, t.Reaches s ∧ s.isAdmitted = false) → ∃ obstacle rest, t.obstacles = obstacle :: rest ∧
      (ofTree t).piece = .error obstacle.refusal ∧
        obstacle.refusal.message = obstacle.wording) := by
  have hmeets : (ofTree t).piece = barring (t.obstacles.map Obstacle.refusal) _ := h.meets
  rw [← h.obstacles_eq_nil_iff, hmeets]
  constructor
  · constructor
    · rintro ⟨text, htext⟩
      exact List.map_eq_nil_iff.mp (barring_eq_ok.mp htext).1
    · intro hnil
      rw [hnil]
      exact ⟨_, rfl⟩
  · rintro ⟨s, hs, hadmitted⟩
    -- Something is not admitted, so that there is an obstacle.
    cases hobstacles : t.obstacles with
    | nil =>
        rw [h.obstacles_eq_nil_iff.mp hobstacles s hs] at hadmitted
        cases hadmitted
    | cons obstacle rest => exact ⟨obstacle, rest, rfl, rfl, message_refusal obstacle⟩

/-- A comparison whose operator comes before what it leads to, which is an operation whose operator
comes last. -/
theorem piece_eq_first_obstacle_comparison :
    let place (column : Int) : Place Tree :=
      ⟨.constant (.int 1), .constant (.int column), .constant .none, .constant .none, []⟩
    let word (id : String) (column : Int) : Tree :=
      .node .ident [.constant (.ofString id), .constant .none] (place column)
    let op (kind : Kind) : Tree := .node kind [] (.nowhere kind)
    let negative : Tree := .node .unaryOp [op .uSub, word "c" 13] (place 12)
    let power : Tree := .node .binOp [word "b" 7, op .pow, negative] (place 7)
    let test : Tree := .node .compare [word "a" 2, .list [op .isIn], .list [power]] (place 2)
    let t : Tree := .node .call [word "f" 0, .list [test], .list []] (place 0)
    t.Parsed ∧ power.Parsed ∧
      t.obstacles = [.operator (op .isIn), .expression negative, .operator (op .pow)] ∧
      (ofTree t).piece = .error (.unknownOperator "ast.In") ∧
      (ofTree power).piece = .error (.unknownExpression "ast.UnaryOp" "1" "12") := by
  intro place word op negative power test t
  have hplace : ∀ column : Int, column.natAbs < 100 → IsLocated (place column) := by
    intro column hcolumn
    exact ⟨⟨1, rfl, by decide +kernel⟩,
      ⟨column, rfl, Nat.lt_trans hcolumn (by decide +kernel)⟩, rfl⟩
  have hword : ∀ (id : String) (column : Int), column.natAbs < 100 → (word id column).Parsed :=
    fun id column hcolumn => .name (hplace column hcolumn)
  have hpower : power.Parsed := .binary (hplace 7 (by decide)) (hword "b" 7 (by decide))
    (.other (by decide) (by decide) (hplace 12 (by decide)))
  have htest : test.Parsed := @Parsed.comparison _ [(.isIn, .nowhere .isIn, power)] _
    (hplace 2 (by decide)) (hword "a" 2 (by decide)) (List.forall_mem_singleton.mpr hpower)
  have ht : t.Parsed := .call (hplace 0 (by decide)) (hword "f" 0 (by decide))
    (List.forall_mem_singleton.mpr htest)
  have hpiece : (ofTree t).piece = .error (.unknownOperator "ast.In") := by
    obtain ⟨obstacle, rest, hobstacles, hpiece, -⟩ :=
      (piece_eq_first_obstacle ht).2 ⟨test, .single (List.mem_singleton.mpr rfl), rfl⟩
    cases hobstacles
    exact hpiece
  have hpiecePower : (ofTree power).piece = .error (.unknownExpression "ast.UnaryOp" "1" "12") := by
    obtain ⟨obstacle, rest, hobstacles, hpiece, -⟩ :=
      (piece_eq_first_obstacle hpower).2 ⟨power, .refl, rfl⟩
    cases hobstacles
    exact hpiece
  exact ⟨ht, hpower, rfl, hpiece, hpiecePower⟩

/-- A call has no text if a whole number among its arguments has more digits than the limit, though
every expression is of a kind that may have one. -/
theorem no_text_of_long_argument :
    let place : Place Tree :=
      ⟨.constant (.int 1), .constant (.int 0), .constant .none, .constant .none, []⟩
    let number : Tree :=
      .node .constant [.constant (.int (Int.ofNat (Nat.pow 16 3600))), .constant .none] place
    let t : Tree := .node .call
      [.node .ident [.constant (.ofString "f"), .constant .none] place,
        .list [number], .list []] place
    t.Parsed ∧ (∀ s, t.Reaches s → s = t ∨ s = number) ∧
      (ofTree t).piece = .error .tooManyDigits := by
  intro place number t
  have hplace : IsLocated place :=
    ⟨⟨1, rfl, by decide +kernel⟩, ⟨0, rfl, by decide +kernel⟩, rfl⟩
  have ht : t.Parsed :=
    .call hplace (.name hplace) (List.forall_mem_singleton.mpr (.constant hplace))
  have hreaches : ∀ s, t.Reaches s → s = t ∨ s = number := by
    refine forall_within_iff.mpr ⟨.inl rfl, List.forall_mem_singleton.mpr ?_⟩
    exact forall_within_iff.mpr ⟨.inr rfl, nofun⟩
  have hlong : Number.isShort (.int (Int.ofNat (Nat.pow 16 3600))) = false := by decide +kernel
  have hnumber : ∀ n : Number, n.isShort = false →
      obstacles (.node .constant [.constant (.number n), .constant .none] place) = [.digits n] := by
    intro n hn
    rw [obstacles, hn]
    rfl
  have hcall : ∀ arg : Tree, obstacles (.node .call [.node .ident [.constant (.ofString "f"),
      .constant .none] place, .list [arg], .list []] place) = arg.obstacles := by
    intro arg
    show [] ++ (arg.obstacles ++ []) = arg.obstacles
    simp
  have hobstacles : t.obstacles = [.digits (.int (Int.ofNat (Nat.pow 16 3600)))] :=
    (hcall number).trans (hnumber _ hlong)
  have hpiece := ht.meets
  rw [Expr.Meets, hobstacles] at hpiece
  exact ⟨ht, hreaches, hpiece⟩

end Tree

end Flowchart
