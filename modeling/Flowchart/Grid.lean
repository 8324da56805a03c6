import Flowchart.Text.Numeral

/-!
# Grids of bytes

A grid has rows of equally many bytes, all zero in the beginning.  Texts are written into a range of
columns of one row.  Row and column numbers below zero count from the end, and a range of columns is
clipped to the grid.
-/

set_option autoImplicit false

namespace Flowchart

/-- Rows of `width` bytes each. -/
structure Grid where
  width : Nat
  rows : Array (List UInt8)

namespace Grid

/-- Why a text cannot be written. -/
inductive Fault where
  /-- There is no such row. -/
  | noRow (row : Int) (height : Nat)
  /-- A character is not a byte. -/
  | tooLarge (code : Nat)
  /-- The text is not as long as the range of columns. -/
  | shape (length room : Nat)
deriving Repr, DecidableEq

/-- The wording of a fault. -/
def Fault.message : Fault → String
  | noRow row height =>
    "index " ++ intText row ++ " is out of bounds for axis 0 with size " ++ intText height
  | tooLarge code => "Python integer " ++ intText code ++ " out of bounds for uint8"
  | shape length room =>
    "could not broadcast input array from shape (" ++ intText length ++ ",) into shape (" ++
      intText room ++ ",)"

/-- A grid of zeros. -/
def zero (height width : Nat) : Grid :=
  ⟨width, Array.replicate height (List.replicate width 0)⟩

/-- The row a number stands for. -/
def rowIndex (grid : Grid) (row : Int) : Except Fault Nat :=
  let height := grid.rows.size
  if 0 ≤ row && row < height then .ok row.toNat
  else if row < 0 && 0 ≤ row + height then .ok (row + height).toNat
  else .error (.noRow row height)

/-- The end of a range, clipped to the grid. -/
def clip (grid : Grid) (column : Int) : Nat :=
  if column < 0 then (column + grid.width).toNat else min column.toNat grid.width

/-- The bytes of a text up to the first character that is none, and that character. -/
def bytesOf : List Char → List UInt8 × Option Char
  | [] => ([], none)
  | c :: rest =>
    if 256 ≤ c.toNat then ([], some c)
    else
      let (bytes, bad) := bytesOf rest
      (UInt8.ofNat c.toNat :: bytes, bad)

/-- The grid with the given bytes in a row, from a column on. -/
def put (grid : Grid) (row column : Nat) (bytes : List UInt8) : Grid :=
  { grid with
    rows := grid.rows.modify row fun cells =>
      cells.take column ++ bytes ++ cells.drop (column + bytes.length) }

/-- Writing bytes into a row adds no row. -/
@[simp] theorem size_rows_put (grid : Grid) (row column : Nat) (bytes : List UInt8) :
    (grid.put row column bytes).rows.size = grid.rows.size := by
  simp [put]

/-- Write a text over the columns from `start` up to `stop` of a row.  The text must be exactly as
long as the range; otherwise nothing is written.  Of a text with a character that is not a byte, the
part in front of it is written. -/
def write (row start stop : Int) (text : List Char) : EStateM Fault Grid Unit := do
  let grid ← get
  match grid.rowIndex row with
  | .error fault => throw fault
  | .ok r =>
    let a := grid.clip start
    let room := grid.clip stop - a
    match bytesOf text with
    | (bytes, none) =>
      if bytes.length = room then set (grid.put r a bytes)
      else throw (.shape bytes.length room)
    | (bytes, some bad) =>
      if text.length = room then set (grid.put r a bytes)
      throw (.tooLarge bad.toNat)

/-- A text in the middle of a field of blanks; an odd blank goes to the right. -/
def centred (width : Nat) (text : List Char) : List Char :=
  let blanks := width - text.length
  List.replicate (blanks / 2) ' ' ++ text ++ List.replicate (blanks - blanks / 2) ' '

/-- A text that fits is centred to exactly the width of its field. -/
theorem length_centred (width : Nat) (text : List Char) (h : text.length ≤ width) :
    (centred width text).length = width := by
  simp only [centred, List.length_append, List.length_replicate]
  omega

/-- Bytes as characters. -/
def charsOf (cells : List UInt8) : List Char :=
  cells.map fun b => Char.ofNat b.toNat

/-- Cells without the zeros after the last other one. -/
def trimEnd (cells : List UInt8) : List UInt8 :=
  (cells.reverse.dropWhile (· == 0)).reverse

/-- Cells without the zeros at both ends. -/
def trim (cells : List UInt8) : List UInt8 :=
  trimEnd (cells.dropWhile (· == 0))

/-- The rows that are not all zero, with their numbers and without the zeros at their end. -/
def occupied (grid : Grid) : List (Nat × String) :=
  grid.rows.toList.zipIdx.filterMap fun (cells, r) =>
    let kept := trimEnd cells
    if kept.isEmpty then none else some (r, String.ofList (charsOf kept))

/-- The printed grid: one line for each row that is not all zero, without the zeros at its ends. -/
def printed (grid : Grid) : String :=
  String.join (grid.rows.toList.filterMap fun cells =>
    let kept := trim cells
    if kept.isEmpty then none else some (String.ofList (charsOf kept) ++ "\n"))

end Grid

end Flowchart
