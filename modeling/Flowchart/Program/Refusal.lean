import Flowchart.Tree.Basic

/-!
# Refusals

Flowcharts are drawn for a small language of statements and expressions.  A refusal says what part
of a tree lies outside that language, or what an incomplete tree lacks.
-/

set_option autoImplicit false

namespace Flowchart

/-- What has items in a row. -/
inductive Sequence where
  | list | text | bytes
deriving Repr, DecidableEq

/-- Why a part of a program cannot be drawn. -/
inductive Refusal where
  /-- An expression of a kind that has no text in a chart. -/
  | unknownExpression (className line column : String)
  /-- A statement of a kind that is not drawn. -/
  | unknownStatement (className line column : String)
  /-- An expression statement that is not a call. -/
  | unknownEffect (className line column : String)
  /-- An operator without a sign. -/
  | unknownOperator (className : String)
  /-- A field or coordinate that is not there. -/
  | noField (owner field : String)
  /-- A sequence that is too short. -/
  | noElement (sequence : Sequence)
  /-- Something else in the place of a list whose items are needed. -/
  | notList (typeName : String)
  /-- Something else in the place of a list of which one item is needed. -/
  | notIndexed (typeName : String)
  /-- Something else in the place of a list whose length is needed. -/
  | noLength (typeName : String)
  /-- Something else in the place of one of the texts that are put in a row. -/
  | notJoined (index : Nat) (typeName : String)
  /-- Something else behind a text. -/
  | notAppended (typeName : String)
  /-- Something else in front of a text. -/
  | notExtended (typeName : String)
  /-- Bytes in front of a text. -/
  | bytesExtended
  /-- Something that is not looked up among names. -/
  | notLookedUp (typeName : String)
  /-- A whole number of more digits than the limit. -/
  | tooManyDigits
deriving Repr, DecidableEq

namespace Refusal

/-- A class and a position in a message. -/
def located (className line column : String) : String :=
  "<" ++ className ++ " object> (line " ++ line ++ " col " ++ column ++ ")"

/-- The wording of a refusal. -/
def message : Refusal → String
  | unknownExpression c l k => "Unknown object to parse: " ++ located c l k
  | unknownStatement c l k => "Unknown Node type: " ++ located c l k
  | unknownEffect c l k => "Unknown Node type in Expr: " ++ located c l k
  | unknownOperator c => "<class '" ++ c ++ "'>"
  | noField owner field => "'" ++ owner ++ "' object has no attribute '" ++ field ++ "'"
  | noElement .list => "list index out of range"
  | noElement .text => "string index out of range"
  | noElement .bytes => "index out of range"
  | notList typeName => "'" ++ typeName ++ "' object is not iterable"
  | notIndexed typeName => "'" ++ typeName ++ "' object is not subscriptable"
  | noLength typeName => "object of type '" ++ typeName ++ "' has no len()"
  | notJoined index typeName =>
    "sequence item " ++ intText index ++ ": expected str instance, " ++ typeName ++ " found"
  | notAppended typeName => "can only concatenate str (not \"" ++ typeName ++ "\") to str"
  | notExtended typeName => "unsupported operand type(s) for +=: '" ++ typeName ++ "' and 'str'"
  | bytesExtended => "can't concat str to bytes"
  | notLookedUp typeName => "unhashable type: '" ++ typeName ++ "'"
  | tooManyDigits => digitLimitMessage ""

end Refusal

namespace Tree

/-- The items of a tree: those of a list, the characters of a text, the numbers of bytes. -/
def items? : Tree → Option (Sequence × List Tree)
  | list items => some (.list, items)
  | constant (.str s) => some (.text, s.map fun c => constant (.str [c]))
  | constant (.bytes b) => some (.bytes, b.map fun n => constant (.int n.toNat))
  | _ => none

/-- The first item of a tree. -/
def first : Tree → Except Refusal Tree
  | absent owner field => .error (.noField owner field)
  | t =>
    match t.items? with
    | some (_, item :: _) => .ok item
    | some (sequence, []) => .error (.noElement sequence)
    | none => .error (.notIndexed t.typeName)

/-- What a tree holds under a name, which has to be there. -/
def demand (t : Tree) (name : String) : Except Refusal Tree :=
  match t.get name with
  | absent owner field => .error (.noField owner field)
  | value => .ok value

/-- The form of a tree inside running text. -/
def shown (t : Tree) : Except Refusal String :=
  match t.plain? with
  | some text => .ok text
  | none => .error .tooManyDigits

/-- The refusal of a tree, which names its class and position.  A tree without a position is refused
for that reason instead. -/
def refuse (reason : String → String → String → Refusal) (t : Tree) : Refusal :=
  let position : Except Refusal (String × String) := do
    let _ ← t.shown
    let line ← (← t.demand "lineno").shown
    let column ← (← t.demand "col_offset").shown
    return (line, column)
  match position with
  | .ok (line, column) => reason t.className line column
  | .error refusal => refusal

end Tree

end Flowchart
