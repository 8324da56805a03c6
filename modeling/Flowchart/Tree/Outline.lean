import Flowchart.Tree.Basic

/-!
# Outlines of syntax trees

An outline is the text of a syntax tree.  Nodes are written on one line, `Kind(field=value, …)`, and
so are constants and empty lists.  A list that is not empty puts each of its items on a line of its
own, two steps further in than the list, and its closing bracket on a last line, one step further
in.
-/

set_option autoImplicit false

namespace Flowchart.Outline

/-- One step of indentation. -/
inductive Step where
  | text (s : String)
  /-- Something of the given type in the place of a text. -/
  | other (typeName : String)
deriving Repr, DecidableEq

/-- What an outline shows. -/
structure Options where
  /-- Whether the names of the fields are written. -/
  names : Bool := true
  /-- Whether the coordinates of nodes are written after their fields. -/
  places : Bool := false
  indent : Step := .text "  "

/-- Why a tree has no outline. -/
inductive Fault where
  /-- The outermost tree is not a node. -/
  | notNode (typeName : String)
  /-- A node does not record a coordinate. -/
  | missing (owner field : String)
  /-- A whole number has more digits than the limit. -/
  | tooManyDigits
  /-- The step of indentation cannot be repeated. -/
  | unrepeatable (typeName : String)
  /-- The step of indentation is a number, which is not put in front of a text. -/
  | numericMargin (typeName : String)
  /-- The step of indentation is a list, which is not put in front of a text. -/
  | listMargin
deriving Repr, DecidableEq

/-- The wording of a fault. -/
def Fault.message : Fault → String
  | notNode typeName => "expected AST, got '" ++ typeName ++ "'"
  | missing owner field => "'" ++ owner ++ "' object has no attribute '" ++ field ++ "'"
  | tooManyDigits => digitLimitMessage ""
  | unrepeatable typeName => "unsupported operand type(s) for *: '" ++ typeName ++ "' and 'int'"
  | numericMargin typeName => "unsupported operand type(s) for +: '" ++ typeName ++ "' and 'str'"
  | listMargin => "can only concatenate list (not \"str\") to list"

/-- Why a thing of the given type cannot be repeated, if it cannot. -/
def Step.repeatFault? : Step → Option Fault
  | .text _ => none
  | .other typeName =>
    if ["bool", "int", "float", "list"].contains typeName then none
    else some (.unrepeatable typeName)

/-- `count` steps of indentation in front of a text.  Only a text can stand there. -/
def Step.before (step : Step) (count : Nat) (text : String) : Except Fault String :=
  match step with
  | .text s => .ok (String.join (List.replicate count s) ++ text)
  | .other "list" => .error .listMargin
  | .other typeName => .error (.numericMargin (if typeName = "bool" then "int" else typeName))

/-- The entry of a field or coordinate. -/
def entry (options : Options) (name value : String) : String :=
  if options.names then name ++ "=" ++ value else value

/-- The text of a constant. -/
def constant (c : Constant) : Except Fault String :=
  match c.text? with
  | some text => .ok text
  | none => .error .tooManyDigits

/-- A list at a level of indentation, from its items, each on its line. -/
def bracketed (options : Options) (level : Nat) (lines : List String) : Except Fault String :=
  if lines.isEmpty then .ok "[]"
  else do
    let last ← options.indent.before (level + 1) "]"
    return "[\n" ++ String.join (lines.map (· ++ "\n")) ++ last

mutual

/-- The text of a tree at a level of indentation. -/
def text (options : Options) (level : Nat) : Tree → Except Fault String
  | .node kind fields ⟨line, column, endLine, endColumn, _⟩ => do
    let fields ← fieldTexts options level kind.fields fields
    if options.places && kind.placement ≠ .unplaced then
      let line ← text options level line
      let column ← text options level column
      let endLine ← text options level endLine
      let endColumn ← text options level endColumn
      let coordinates := [entry options "lineno" line, entry options "col_offset" column,
        entry options "end_lineno" endLine, entry options "end_col_offset" endColumn]
      return kind.name ++ "(" ++ ", ".intercalate (fields ++ coordinates) ++ ")"
    else return kind.name ++ "(" ++ ", ".intercalate fields ++ ")"
  | .list items => do
    let lines ← itemLines options (level + 2) items
    bracketed options level lines
  | .constant c => constant c
  | .absent owner field => throw (.missing owner field)

/-- The entries of the fields that are there. -/
def fieldTexts (options : Options) (level : Nat) :
    List Field → List Tree → Except Fault (List String)
  | _ :: fields, .absent _ _ :: trees => fieldTexts options level fields trees
  | field :: fields, tree :: trees => do
    let value ← text options level tree
    let rest ← fieldTexts options level fields trees
    return entry options field.name value :: rest
  | _, _ => return []

/-- The lines of the items of a list, which are as far in as their level. -/
def itemLines (options : Options) (level : Nat) : List Tree → Except Fault (List String)
  | [] => return []
  | item :: items => do
    if let some fault := options.indent.repeatFault? then throw fault
    let text ← text options level item
    let first ← options.indent.before level (text ++ ",")
    let rest ← itemLines options level items
    return first :: rest

end

/-- The outline of a tree, which must be a node. -/
def outline (options : Options) (tree : Tree) : Except Fault String :=
  match tree with
  | .node .. => text options 0 tree
  | tree => throw (.notNode tree.typeName)

end Flowchart.Outline
