import Flowchart.Source.Token
import Flowchart.Tree.Basic

/-!
# Reading a list of tokens

A cursor stands before the tokens that are still to be read and knows where the last token before it
ended, which is where a node that is complete at this point ends.
-/

set_option autoImplicit false

namespace Flowchart.Source

/-- A place in a list of tokens. -/
structure Cursor where
  rest : List Token
  /-- The end of the last token that is not layout. -/
  last : Spot
  /-- The number of all tokens, which bounds every repetition. -/
  bound : Nat

/-- A reader of tokens, which fails on a malformed program. -/
abbrev Parse := StateT Cursor Option

namespace Parse

/-- The next lexeme.  Behind the last token the program is finished. -/
def peek : Parse Lexeme := do
  match (← get).rest with
  | token :: _ => return token.lexeme
  | [] => return .finish

/-- The lexeme after the next one. -/
def peekSecond : Parse Lexeme := do
  match (← get).rest with
  | _ :: token :: _ => return token.lexeme
  | _ => return .finish

/-- Where the next token begins. -/
def here : Parse Spot := do
  match (← get).rest with
  | token :: _ => return token.start
  | [] => return (← get).last

/-- Pass over the next token. -/
def advance : Parse Unit := do
  match (← get).rest with
  | [] => failure
  | token :: rest =>
    modify fun cursor =>
      let last := match token.lexeme with
        | .lineEnd _ | .indent | .dedent | .finish => cursor.last
        | _ => token.stop
      { cursor with rest, last }

/-- Whether the next token is the given sign. -/
def atSign (text : String) : Parse Bool := do
  match ← peek with
  | .sign s => return s == text
  | _ => return false

/-- Whether the next token is the given keyword. -/
def atKeyword (text : String) : Parse Bool := do
  match ← peek with
  | .keyword s => return s == text
  | _ => return false

/-- Pass over the given sign if it is next. -/
def acceptSign (text : String) : Parse Bool := do
  if ← atSign text then
    advance
    return true
  else return false

/-- Pass over the given keyword if it is next. -/
def acceptKeyword (text : String) : Parse Bool := do
  if ← atKeyword text then
    advance
    return true
  else return false

/-- Pass over the given sign, which must be next. -/
def expectSign (text : String) : Parse Unit := do
  unless ← acceptSign text do failure

/-- Pass over the given keyword, which must be next. -/
def expectKeyword (text : String) : Parse Unit := do
  unless ← acceptKeyword text do failure

/-- The name that must be next. -/
def expectName : Parse String := do
  match ← peek with
  | .name text =>
    advance
    return text
  | _ => failure

/-- Pass over the end of a line, which must be next. -/
def expectLineEnd : Parse Unit := do
  match ← peek with
  | .lineEnd _ => advance
  | _ => failure

/-- Read items as long as `step` gives one, at most as often as there are tokens. -/
def many {α : Type} (step : Parse (Option α)) : Parse (List α) := do
  loop step (← get).bound
where
  /-- The loop, with a bound on its length. -/
  loop {α : Type} (step : Parse (Option α)) : Nat → Parse (List α)
    | 0 => return []
    | bound + 1 => do
      match ← step with
      | none => return []
      | some a => return a :: (← loop step bound)

/-- Change a value as long as `step` gives a new one, at most as often as there are tokens. -/
def iterate {α : Type} (step : α → Parse (Option α)) (start : α) : Parse α := do
  loop step (← get).bound start
where
  /-- The loop, with a bound on its length. -/
  loop {α : Type} (step : α → Parse (Option α)) : Nat → α → Parse α
    | 0, a => return a
    | bound + 1, a => do
      match ← step a with
      | none => return a
      | some b => loop step bound b

end Parse

/-! ### Building trees -/

/-- The place from one position to another. -/
def span (start stop : Spot) : Place Tree :=
  let number := fun (n : Nat) => Tree.constant (.int n)
  ⟨number start.line, number start.column, number stop.line, number stop.column, []⟩

/-- A node that ends with the last token passed over. -/
def finishNode (kind : Kind) (fields : List Tree) (start : Spot) : Parse Tree := do
  return .node kind fields (span start (← get).last)

/-- A node without fields or place. -/
def bare (kind : Kind) : Tree := .node kind [] (.nowhere kind)

/-- A name as a constant. -/
def nameTree (text : String) : Tree := .constant (.ofString text)

/-- No value. -/
def noTree : Tree := .constant .none

/-- A tree or no value. -/
def optional : Option Tree → Tree
  | some t => t
  | none => noTree

end Flowchart.Source
