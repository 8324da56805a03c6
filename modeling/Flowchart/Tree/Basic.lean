import Flowchart.Tree.Constant
import Flowchart.Tree.Kind

/-!
# Syntax trees

A syntax tree is built from nodes, lists and constants.  A node has one subtree for each field of
its kind, in the order of the kind, and the coordinates of its place in the source.  Trees may be
incomplete: a required field or coordinate that is not there is kept as `absent`, together with who
misses what.  They may also hold more than their kind has fields for, and any tree may stand in the
place of a name or a number.
-/

set_option autoImplicit false

namespace Flowchart

/-- The place of a node in the source: lines count from one, columns from zero in bytes. -/
structure Place (α : Type) where
  line : α
  column : α
  endLine : α
  endColumn : α
  /-- What else is recorded for the node, under names its kind has no fields for. -/
  remarks : List (String × α) := []

/-- A syntax tree. -/
inductive Tree where
  | node (kind : Kind) (fields : List Tree) (place : Place Tree)
  | list (items : List Tree)
  | constant (value : Constant)
  /-- A field or coordinate that its owner, named by its type, does not have. -/
  | absent (owner field : String)

instance : Inhabited Tree := ⟨.constant .none⟩

/-- The place of a node of the given kind that records none. -/
def Place.nowhere (kind : Kind) : Place Tree where
  line := .absent kind.name "lineno"
  column := .absent kind.name "col_offset"
  endLine := .absent kind.name "end_lineno"
  endColumn := .absent kind.name "end_col_offset"

/-- The coordinates of a place with their names. -/
def Place.coordinates {α : Type} (place : Place α) : List (String × α) :=
  [("lineno", place.line), ("col_offset", place.column), ("end_lineno", place.endLine),
   ("end_col_offset", place.endColumn)]

namespace Tree

/-- The name of the type of a tree. -/
def typeName : Tree → String
  | node kind _ _ => kind.name
  | list _ => "list"
  | constant c => c.typeName
  | absent _ _ => "NoneType"

/-- The full name of the class of a tree. -/
def className : Tree → String
  | node kind _ _ => "ast." ++ kind.name
  | t => t.typeName

/-- What a tree holds under a name: a field of a node, a coordinate of its place or a remark.  Lists
and constants hold nothing, and whatever an absent tree is asked for stays absent. -/
def get (t : Tree) (name : String) : Tree :=
  match t with
  | node kind fields place =>
    ((kind.fields.map (·.name)).zip fields ++ place.coordinates ++ place.remarks).lookup name
      |>.getD (absent kind.name name)
  | absent owner field => absent owner field
  | t => absent t.typeName name

/-- Other names under which a field may be given: the value of a constant may be called a number or
a text. -/
def otherNames (kind : Kind) (name : String) : List String :=
  if kind = .constant && name = "value" then ["n", "s"] else []

/-- The place of a node of the given kind, whose coordinates are given by name.  Those of the end
are unset where the kind lets them be left out. -/
def placeOf (kind : Kind) (entries : List (String × Tree)) : Place Tree :=
  let required := fun (name : String) => (entries.lookup name).getD (absent kind.name name)
  let ending := fun (name : String) =>
    if kind.placement = .beginning then (entries.lookup name).getD (constant .none)
    else required name
  let isRemark := fun (name : String) =>
    !kind.fields.any (·.name == name) && !(Place.nowhere kind).coordinates.any (·.1 == name)
  { line := required "lineno"
    column := required "col_offset"
    endLine := ending "end_lineno"
    endColumn := ending "end_col_offset"
    remarks := entries.filter (isRemark ·.1) }

/-- The node of a kind whose fields and coordinates are given by name.  An optional field that is
not given counts as given without a value, a required one is absent. -/
def ofEntries (kind : Kind) (entries : List (String × Tree)) : Tree :=
  let field := fun (f : Field) =>
    ((f.name :: otherNames kind f.name).findSome? (entries.lookup ·)).getD
      (if f.optional then constant .none else absent kind.name f.name)
  node kind (kind.fields.map field) (placeOf kind entries)

/-! ### Written forms -/

mutual

/-- The written form of a tree, in which a node is named by its kind only.  There is none when a
whole number in it has more digits than the limit. -/
def written? : Tree → Option String
  | node kind _ _ => some ("<ast." ++ kind.name ++ " object>")
  | list items => (writtenItems? items).map fun items => "[" ++ ", ".intercalate items ++ "]"
  | constant c => c.text?
  | absent _ _ => some "None"

/-- The written forms of several trees. -/
def writtenItems? : List Tree → Option (List String)
  | [] => some []
  | t :: rest => do
    let first ← written? t
    let rest ← writtenItems? rest
    return first :: rest

end

/-- The form of a tree inside running text, where a text constant goes without quotes. -/
def plain? : Tree → Option String
  | constant (.str s) => some (Text.ofCodePoints s)
  | t => t.written?

end Tree

end Flowchart
