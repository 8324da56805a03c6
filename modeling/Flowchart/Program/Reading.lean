import Flowchart.Program.Stmt

/-!
# Reading statements and expressions from trees

Every tree can be read.  What a tree lacks, and what lies outside the language of flowcharts,
becomes an obstacle or a refusal at the place where evaluation would come upon it.
-/

set_option autoImplicit false

namespace Flowchart

/-- The name a tree stands for, which only a name node has. -/
def nameOf (t : Tree) : Except Refusal Piece :=
  .ofTree <$> t.demand "id"

/-- The sign of an operator node. -/
def signOf : Tree → Except Refusal Sign
  | .node .mult _ _ => .ok .mult
  | .node .add _ _ => .ok .add
  | .node .sub _ _ => .ok .sub
  | .node .div _ _ => .ok .div
  | .node .or _ _ => .ok .or
  | .node .and _ _ => .ok .and
  | .node .gt _ _ => .ok .gt
  | .node .lt _ _ => .ok .lt
  | .node .eq _ _ => .ok .eq
  | .node .notEq _ _ => .ok .notEq
  | .absent owner field => .error (.noField owner field)
  | t => .error (.unknownOperator t.className)

/-- The signs of a list of operator nodes. -/
def signsOf : Tree → List (Except Refusal Sign)
  | .list items => items.map signOf
  | .absent owner field => [.error (.noField owner field)]
  | t =>
    match t.items? with
    | some (_, items) => items.map signOf
    | none => [.error (.noLength t.typeName)]

/-- Why what stands in the place of a list is refused: its items one by one, if it has any, and else
the whole for the reason `whole`. -/
def refuseItems (item : String → String → String → Refusal) (whole : String → Refusal) :
    Tree → List Refusal
  | .absent owner field => [.noField owner field]
  | t =>
    match t.items? with
    | some (_, items) => items.map (·.refuse item)
    | none => [whole t.typeName]

namespace Expr

mutual

/-- The expression a tree stands for. -/
def ofTree : Tree → Expr
  | .node .binOp [left, op, right] _ => .binary (ofTree left) (signOf op) (ofTree right)
  | .node .boolOp [op, values] _ => .junction (signOf op) (ofItems values)
  | .node .compare [left, ops, others] _ =>
    .comparison (ofTree left) (signsOf ops) (ofOthers others)
  | .node .call [function, args, keywords] _ =>
    .call (nameOf function) (ofItems args) (ofKeywords keywords)
  | .node .constant [.constant (.number n), _] _ => .number n
  | .node .constant [.constant (.str s), _] _ => .string s
  | .node .ident fields place =>
    match nameOf (.node .ident fields place) with
    | .ok id => .name id
    | .error refusal => .obstacle refusal
  | t => .obstacle (t.refuse .unknownExpression)

/-- The expressions of a list. -/
def ofItems : Tree → List Expr
  | .list items => ofTrees items
  | t => (refuseItems .unknownExpression .notList t).map .obstacle

/-- The expressions of a list that is read item by item, along with the signs of a comparison. -/
def ofOthers : Tree → List Expr
  | .list items => ofTrees items
  | t =>
    match t.first with
    | .ok item => [.obstacle (item.refuse .unknownExpression)]
    | .error refusal => [.obstacle refusal]

/-- The expressions of several trees. -/
def ofTrees : List Tree → List Expr
  | [] => []
  | t :: rest => ofTree t :: ofTrees rest

/-- The values of a list of keyword arguments. -/
def ofKeywords : Tree → List Expr
  | .list items => keywordValues items
  | _ => []

/-- The values of several keyword arguments. -/
def keywordValues : List Tree → List Expr
  | [] => []
  | .node .keywordArg [_, value] _ :: rest => ofTree value :: keywordValues rest
  | _ :: rest => keywordValues rest

end

/-! ### Reading a tree as an operation of a given form, whatever its kind -/

/-- A tree as an operation on two operands. -/
def asBinary (t : Tree) : Expr :=
  .binary (ofTree (t.get "left")) (signOf (t.get "op")) (ofTree (t.get "right"))

/-- A tree as a chain of operands under one sign. -/
def asJunction (t : Tree) : Expr :=
  .junction (signOf (t.get "op")) (ofItems (t.get "values"))

/-- A tree as a chain of comparisons. -/
def asComparison (t : Tree) : Expr :=
  .comparison (ofTree (t.get "left")) (signsOf (t.get "ops")) (ofOthers (t.get "comparators"))

/-- A tree as a call. -/
def asCall (t : Tree) : Expr :=
  .call (nameOf (t.get "func")) (ofItems (t.get "args")) (ofKeywords (t.get "keywords"))

/-- What stands for the arguments of a tree read as a call. -/
def argumentPieces (t : Tree) : Except Refusal (List Piece) :=
  pieces (ofItems (t.get "args"))

end Expr

namespace Stmt

/-- The name of the first of several targets. -/
def targetOf (targets : Tree) : Except Refusal Piece := do
  nameOf (← targets.first)

/-- The function that reads the input. -/
def reader : String := "input"

/-- Whether a value is read from the input: it is a call of the reader, or of another function with
such a call as its first argument. -/
def isInput : Tree → Except Refusal Bool
  | .node .call [function, args, _] _ => do
    if (← nameOf function).isText reader then return true
    match ← args.first with
    | .node .call [inner, _, _] _ => return (← nameOf inner).isText reader
    | _ => return false
  | _ => return false

/-- An assignment. -/
def ofAssignment (targets value : Tree) : Stmt :=
  match isInput value with
  | .ok true => .read (targetOf targets)
  | .ok false => .assign (targetOf targets) (Expr.ofTree value)
  | .error refusal => .refused refusal

/-- An expression statement. -/
def ofEffect (value : Tree) : Stmt :=
  match Expr.ofTree value with
  | .call function args keywords => .perform function args keywords
  | _ => .refused (value.refuse .unknownEffect)

mutual

/-- The statement a tree stands for. -/
def ofTree : Tree → Stmt
  | .node .assign [targets, value, _] _ => ofAssignment targets value
  | .node .augAssign [target, op, value] _ =>
    .update (nameOf target) (signOf op) (Expr.ofTree value)
  | .node .exprStmt [value] _ => ofEffect value
  | .node .ifStmt [test, body, orelse] _ =>
    .ifElse (Expr.ofTree test) (ofItems body) (ofItems orelse)
  | .node .whileStmt [test, body, orelse] place =>
    .whileLoop (Expr.ofTree test) (ofItems body) (ofItems orelse)
      ((Tree.node .whileStmt [] place).refuse .unknownStatement)
  | .node .importFrom _ _ => .skip
  | .node .program [body, _] _ => .program (ofItems body)
  -- the value of a constant is looked at before its position
  | .node .constant (.absent owner field :: _) _ => .refused (.noField owner field)
  | t => .refused (t.refuse .unknownStatement)

/-- The statements of a list. -/
def ofItems : Tree → List Stmt
  | .list items => ofTrees items
  | t => (refuseItems .unknownStatement .notList t).map .refused

/-- The statements of several trees. -/
def ofTrees : List Tree → List Stmt
  | [] => []
  | t :: rest => ofTree t :: ofTrees rest

end

end Stmt

end Flowchart
