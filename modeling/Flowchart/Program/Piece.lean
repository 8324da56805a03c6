import Flowchart.Program.Refusal

/-!
# Pieces of the text of a chart

A piece is what stands for an expression in a chart.  It is a text, except that a name may hold
something else: then that is the piece.  Inside running text every piece has a form.  Where texts
are put together, only a text will do.
-/

set_option autoImplicit false

namespace Flowchart

/-- What stands for an expression in a chart. -/
inductive Piece where
  | text (s : String)
  /-- Something that is not a text. -/
  | value (t : Tree)

namespace Piece

/-- What a tree is as a piece. -/
def ofTree : Tree → Piece
  | .constant (.str s) => text (Text.ofCodePoints s)
  | t => value t

/-- The name of the type of a piece. -/
def typeName : Piece → String
  | text _ => "str"
  | value t => t.typeName

/-- The form of a piece inside running text. -/
def shown : Piece → Except Refusal String
  | text s => .ok s
  | value t => t.shown

/-- Whether a piece is the given text. -/
def isText (piece : Piece) (s : String) : Bool :=
  match piece with
  | text t => t == s
  | value _ => false

/-- Whether a piece is one of the given names.  A list cannot be looked up among them. -/
def isAmong (piece : Piece) (names : List String) : Except Refusal Bool :=
  match piece with
  | text s => .ok (names.contains s)
  | value (.list _) => .error (.notLookedUp piece.typeName)
  | value _ => .ok false

/-- The text of a piece that is put behind another text. -/
def appended : Piece → Except Refusal String
  | text s => .ok s
  | piece => .error (.notAppended piece.typeName)

/-- A piece with a text behind it.  A list gets the characters of the text as further items. -/
def extend (piece : Piece) (tail : String) : Except Refusal Piece :=
  match piece with
  | text s => .ok (text (s ++ tail))
  | value (.list items) =>
    let characters := (Text.codePoints tail).map fun c => Tree.constant (.str [c])
    .ok (value (.list (items ++ characters)))
  | value (.constant (.bytes _)) => .error .bytesExtended
  | value t => .error (.notExtended t.typeName)

/-- The texts of pieces that are put in a row, the first of which has the given index. -/
def rowFrom (index : Nat) : List Piece → Except Refusal (List String)
  | [] => .ok []
  | text s :: rest => do return s :: (← rowFrom (index + 1) rest)
  | piece :: _ => .error (.notJoined index piece.typeName)

/-- Pieces in a row, divided by a separator. -/
def join (separator : String) (pieces : List Piece) : Except Refusal String :=
  separator.intercalate <$> rowFrom 0 pieces

/-- The forms of several pieces inside running text. -/
def shownAll (pieces : List Piece) : Except Refusal (List String) :=
  pieces.mapM shown

/-- Texts in a row are divided by the separator. -/
theorem join_texts (separator : String) (texts : List String) :
    join separator (texts.map text) = .ok (separator.intercalate texts) := by
  have row : ∀ (texts : List String) (index : Nat), rowFrom index (texts.map text) = .ok texts := by
    intro texts
    induction texts with
    | nil => intro index; rfl
    | cons s rest ih =>
      intro index
      rw [List.map_cons, rowFrom, ih (index + 1)]
      rfl
  rw [join, row texts 0]
  rfl

end Piece

end Flowchart
