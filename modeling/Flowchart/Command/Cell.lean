import Flowchart.Command.Outline

/-!
# Outlines of notebook cells

The command that prints the syntax tree of a cell, with the options on the line above it.  The line
is divided at spaces; a word that begins with a quote goes on to the next such quote and keeps both.
-/

set_option autoImplicit false

namespace Flowchart.Command

/-- Whether a character separates the words of a line. -/
def isWordGap (c : Char) : Bool :=
  c == ' ' || c == '\t' || c == '\r' || c == '\n'

/-- The words of a line, or nothing when a quotation does not end.  The length of the line bounds
the number of steps. -/
def splitWords : (fuel : Nat) → List Char → Option (List (List Char))
  | 0, _ => some []
  | fuel + 1, line =>
    match line.dropWhile isWordGap with
    | [] => some []
    | c :: rest =>
      if c == '"' || c == '\'' then
        let inner := rest.takeWhile (· != c)
        match rest.dropWhile (· != c) with
        | [] => none
        | _ :: more => (splitWords fuel more).map ((c :: inner ++ [c]) :: ·)
      else
        let word := (c :: rest).takeWhile (!isWordGap ·)
        (splitWords fuel ((c :: rest).dropWhile (!isWordGap ·))).map (word :: ·)

/-- Whether a word is a negative number, which is not an option.  It may have digits of any
script. -/
def isNegativeNumber : List Char → Bool
  | '-' :: digits =>
    let isDigit := fun c => (Text.digitValue? c).isSome
    let whole := digits.takeWhile isDigit
    match digits.dropWhile isDigit with
    | [] => !whole.isEmpty
    | '.' :: fraction => !fraction.isEmpty && fraction.all isDigit
    | _ => false
  | _ => false

/-- What a word of the line is. -/
inductive CellWord where
  /-- The option for the mode, with its value if it is in the same word. -/
  | mode (value : Option String)
  /-- An option that is not known. -/
  | unknown
  /-- Anything else. -/
  | plain

/-- What a word of the line is.  The long option may be cut short, before a value down to its
hyphens. -/
def CellWord.of (word : List Char) : CellWord :=
  match word with
  | ['-', '-'] => .unknown
  | '-' :: '-' :: _ =>
    if (word.takeWhile (· != '=')).isPrefixOf "--mode".toList then
      match word.dropWhile (· != '=') with
      | [] => .mode none
      | _ :: value => .mode (some (String.ofList value))
    else if word.contains ' ' then .plain
    else .unknown
  | ['-', 'm'] => .mode none
  | '-' :: 'm' :: '=' :: value => .mode (some (String.ofList value))
  | '-' :: 'm' :: value => .mode (some (String.ofList value))
  | ['-'] => .plain
  | '-' :: _ => if isNegativeNumber word || word.contains ' ' then .plain else .unknown
  | _ => .plain

/-- The value of an option from the same word.  Two hyphens are left out, so they leave an empty
list of values. -/
def optionValue (value : String) : Option String :=
  if value == "--" then none else some value

/-- The mode that the words of a line choose, and the words that are not understood.  The last
choice counts. -/
def chooseMode (mode : Option String) (extras : List (List Char)) :
    List (List Char) → Except Failure (Option String × List (List Char))
  | [] => .ok (mode, extras.reverse)
  | ['-', '-'] :: rest => .ok (mode, extras.reverse ++ ['-', '-'] :: rest)
  | word :: rest =>
    match CellWord.of word with
    | .mode (some value) => chooseMode (optionValue value) extras rest
    | .mode none =>
      match rest with
      | value :: rest =>
        match CellWord.of value with
        | .plain => chooseMode (some (String.ofList value)) extras rest
        | _ => .error (.usage "argument -m/--mode: expected one argument")
      | [] => .error (.usage "argument -m/--mode: expected one argument")
    | .unknown | .plain => chooseMode mode (word :: extras) rest

/-- The mode that a line chooses. -/
def cellMode (line : String) : Except Failure String := do
  let some words := splitWords (line.toList.length + 1) line.toList | throw .openQuotation
  let (mode, extras) ← chooseMode (some "exec") [] words
  unless extras.isEmpty do
    throw (.usage ("unrecognized arguments: " ++ " ".intercalate (extras.map String.ofList)))
  let some mode := mode | throw (.modeType "list")
  return mode

/-- Print the outline of a cell. -/
def outlineCell (line cell : String) : Transcript :=
  let session : Session Unit := do
    let mode ← Session.get id (cellMode line)
    outlineSession cell mode {}
  session.transcript.1

end Flowchart.Command
