import Flowchart.Text.Fill

/-!
# Boxes

A box is what a flowchart shows at one node.  Charts come in two forms, a graph and a drawing on a
console, and a box has a text in each of them.  What a condition says may be something other than a
text, which has a form inside running text and none by itself.  Joints are boxes that only hold the
chart together while it is built.
-/

set_option autoImplicit false

namespace Flowchart

/-- What a condition says. -/
inductive Wording where
  | text (s : String)
  /-- Something of the given type that is not a text, and its form inside running text. -/
  | thing (typeName shown : String)
deriving Repr, DecidableEq

/-- What a condition says, inside running text. -/
def Wording.shown : Wording → String
  | text s | thing _ s => s

/-- What stands at a node of a flowchart. -/
inductive Box where
  /-- A box of no particular kind. -/
  | plain
  | start
  | stop
  | input (variableName : String)
  | output (values : String)
  | process (text : String)
  | assignment (variableName value : String)
  | condition (test : Wording)
  | subprocess (name : String)
  /-- The joint where paths meet. -/
  | join
  /-- The joint at the head of a branch. -/
  | head
deriving Repr, DecidableEq

namespace Box

/-- Whether the box is a joint, which charts do without in the end. -/
def isJoint : Box → Bool
  | join | head => true
  | _ => false

/-- Why a box has no text in a graph. -/
inductive Fault where
  /-- Something of the given type stands in the place of a text to be filled. -/
  | notText (typeName : String)
deriving Repr, DecidableEq

/-- The wording of a fault. -/
def Fault.message : Fault → String
  | notText "bytes" => "a bytes-like object is required, not 'dict'"
  | notText typeName => "'" ++ typeName ++ "' object has no attribute 'expandtabs'"

/-- The width to which the texts of a graph are filled. -/
def labelWidth : Nat := 28

/-- A text filled to the width of a label. -/
def filled (text : String) : String :=
  Text.fill labelWidth text

/-- The text of a box in a graph. -/
def label : Box → Except Fault String
  | plain => .ok (filled "base flowchart node?")
  | start => .ok "Start"
  | stop => .ok "Stop"
  | input name => .ok (filled ("input " ++ name))
  | output values => .ok (filled ("output " ++ values))
  | process text => .ok (filled text)
  | assignment name value => .ok (filled (name ++ " = " ++ value))
  | condition (.text test) => .ok (filled test)
  | condition (.thing typeName _) => .error (.notText typeName)
  | subprocess name => .ok (filled ("| " ++ name ++ " |"))
  | join => .ok "     | <---"
  | head => .ok ""

/-- The outline a box has in a graph; a join has none. -/
def shape : Box → Option String
  | start | stop => some "ellipse"
  | input _ | output _ => some "parallelogram"
  | process _ | assignment _ _ | subprocess _ => some "rectangle"
  | condition _ => some "diamond"
  | join => none
  | plain | head => some "tripleoctagon"

/-- The text of a box on a console. -/
def caption : Box → String
  | plain => "base flowchart node?"
  | start => "( start )"
  | stop => "( stop )"
  | input name => "/ input " ++ name ++ " /"
  | output values => "/ output " ++ values ++ " /"
  | process text => "[ " ++ text ++ " ]"
  | assignment name value => "[ " ++ name ++ " = " ++ value ++ " ]"
  | condition test => "< " ++ test.shown ++ " >"
  | subprocess name => "[ | " ++ name ++ " | ]"
  | join => "     | <---"
  | head => ""

/-- The name of the kind of a box in listings. -/
def typeName : Box → String
  | plain => "FlowchartNode"
  | start => "StartNode"
  | stop => "EndNode"
  | input _ => "InputNode"
  | output _ => "OutputNode"
  | process _ => "ProcessNode"
  | assignment _ _ => "VariableAssignmentNode"
  | condition _ => "ConditionalNode"
  | subprocess _ => "SubProcessNode"
  | join => "DummyConjunctionNode"
  | head => "DummyMiddleNode"

end Box

end Flowchart
