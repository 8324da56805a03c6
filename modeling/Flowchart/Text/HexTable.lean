/-!
# Tables of hexadecimal numbers

A table of characters is written as lines of text.  A line is divided by semicolons into rows, and a
row by spaces into a key and values.  The key is a number, or two numbers with a hyphen between
them for all from the first to the second.
-/

set_option autoImplicit false

namespace Flowchart.Text

/-- A row of a table, for the keys from `first` to `last`. -/
structure HexRow where
  first : Nat
  last : Nat
  values : List Nat
deriving Repr, DecidableEq

/-- The rows of a table. -/
abbrev HexTable := List HexRow

/-- The number that capital hexadecimal digits stand for. -/
def hexNumber (digits : String) : Nat :=
  digits.toList.foldl (fun n c => 16 * n + if c.isDigit then c.toNat - 48 else c.toNat - 55) 0

/-- The row that a text stands for. -/
def HexRow.ofText (text : String) : HexRow :=
  match text.splitOn " " with
  | [] => ⟨0, 0, []⟩
  | key :: values =>
    let values := values.map hexNumber
    match key.splitOn "-" with
    | [first, last] => ⟨hexNumber first, hexNumber last, values⟩
    | _ => ⟨hexNumber key, hexNumber key, values⟩

/-- The table that lines of text stand for. -/
def HexTable.ofLines (lines : List String) : HexTable :=
  lines.flatMap fun line => (line.splitOn ";").map HexRow.ofText

/-- The first row for a key. -/
def HexTable.row? (table : HexTable) (key : Nat) : Option HexRow :=
  List.find? (fun row => row.first ≤ key && key ≤ row.last) table

end Flowchart.Text
