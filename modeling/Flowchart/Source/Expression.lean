import Flowchart.Source.Cursor

/-!
# Expressions

The grammar of expressions.  Rules that lead back to expressions take the reader for them as a
parameter, and `Source.Statement` ties the knot.
-/

set_option autoImplicit false

namespace Flowchart.Source

open Parse

/-- The parts of the grammar to which others lead back. -/
inductive Rule where
  | expression
  | factor
  | inversion
  /-- The rest of a conditional statement after its keyword, from the given position. -/
  | conditional (start : Spot)
  /-- The body of a compound statement, as a list. -/
  | block

/-- A reader for each rule that others lead back to. -/
abbrev Grammar := Rule → Parse Tree

/-! ### Targets -/

mutual

/-- An expression that can be assigned to or deleted, in its role as a target.  `starred` tells
whether a starred target may stand here; in a tuple or list of targets of an assignment it may. -/
def asTarget (context : Kind) (starred : Bool) : Tree → Option Tree
  | .node .ident [id, _] place => some (.node .ident [id, bare context] place)
  | .node .member [value, attr, _] place => some (.node .member [value, attr, bare context] place)
  | .node .subscript [value, index, _] place =>
    some (.node .subscript [value, index, bare context] place)
  | .node .tuple [.list items, _] place =>
    (asTargets context items).map fun items =>
      .node .tuple [.list items, bare context] place
  | .node .list [.list items, _] place =>
    (asTargets context items).map fun items =>
      .node .list [.list items, bare context] place
  | .node .starred [value, _] place =>
    if starred then
      (asTarget context false value).map fun value => .node .starred [value, bare context] place
    else none
  | _ => none

/-- The targets in a tuple or list. -/
def asTargets (context : Kind) : List Tree → Option (List Tree)
  | [] => some []
  | t :: rest => do
    let t ← asTarget context (context == .store) t
    let rest ← asTargets context rest
    return t :: rest

end

/-- Whether a tree is a target by itself, which is a name, a member or a subscript. -/
def isSingleTarget : Tree → Bool
  | .node .ident _ _ | .node .member _ _ | .node .subscript _ _ => true
  | _ => false

/-! ### Lists of expressions -/

/-- Whether the next token cannot begin an expression, so that a list of expressions ends here. -/
def atListEnd : Parse Bool := do
  match ← peek with
  | .sign s =>
    return [")", "]", "\x7d", "=", ":", ";", "+=", "-=", "*=", "/=", "//=", "%=", "@=", "&=", "|=",
      "^=", ">>=", "<<=", "**=", ":=", "->", ",", "."].contains s
  | .keyword s =>
    return ["in", "if", "else", "for", "from", "as", "import", "and", "or", "is"].contains s
  | .lineEnd _ | .indent | .dedent | .finish => return true
  | _ => return false

/-- Items after the first, each behind a comma, and whether a comma stands at the end, where `atEnd`
tells the end of the list. -/
def commaTail (item : Parse Tree) (atEnd : Parse Bool) : Parse (List Tree × Bool) := do
  let state ← iterate step ([], false)
  return (state.1.reverse, state.2)
where
  /-- One more comma, with an item behind it unless the list ends. -/
  step (state : List Tree × Bool) : Parse (Option (List Tree × Bool)) := do
    if state.2 then return none
    if ← acceptSign "," then
      if ← atEnd then return some (state.1, true)
      else return some ((← item) :: state.1, false)
    else return none

/-- One item, or a tuple of several: a comma makes a tuple, also behind a single item. -/
def tupleOf (item : Parse Tree) (atEnd : Parse Bool) : Parse Tree := do
  let start ← here
  let first ← item
  let (rest, comma) ← commaTail item atEnd
  if rest.isEmpty && !comma then return first
  else finishNode .tuple [.list (first :: rest), bare .load] start

/-- Items up to a closing bracket, which is passed over. -/
def bracketed (item : Parse Tree) (closing : String) : Parse (List Tree × Bool) := do
  if ← acceptSign closing then return ([], false)
  else
    let first ← item
    let (rest, comma) ← commaTail item (atSign closing)
    expectSign closing
    return (first :: rest, comma || !rest.isEmpty)

/-! ### Operators -/

/-- The signs of operations on two operands, from the loosest binding to the tightest. -/
def operatorLevels : List (List (String × Kind)) :=
  [[("|", .bitOr)], [("^", .bitXor)], [("&", .bitAnd)], [("<<", .lShift), (">>", .rShift)],
   [("+", .add), ("-", .sub)],
   [("*", .mult), ("/", .div), ("//", .floorDiv), ("%", .mod), ("@", .matMult)]]

/-- The kind that the next token has in a table of signs. -/
def signIn (table : List (String × Kind)) : Parse (Option Kind) := do
  match ← peek with
  | .sign s => return table.lookup s
  | _ => return none

/-- Operations of the given levels, each of which groups to the left. -/
def operations (g : Grammar) : List (List (String × Kind)) → Parse Tree
  | [] => g .factor
  | level :: tighter => do
    let start ← here
    let first ← operations g tighter
    iterate (step start level tighter) first
where
  /-- One more operand. -/
  step (start : Spot) (level : List (String × Kind)) (tighter : List (List (String × Kind)))
      (left : Tree) : Parse (Option Tree) := do
    match ← signIn level with
    | none => return none
    | some op =>
      advance
      let right ← operations g tighter
      return some (← finishNode .binOp [left, bare op, right] start)

/-- Everything that binds tighter than a comparison. -/
def operand (g : Grammar) : Parse Tree :=
  operations g operatorLevels

/-- The sign of a comparison, which may consist of two words. -/
def comparisonSign : Parse (Option Kind) := do
  match ← peek with
  | .sign s =>
    match [("==", Kind.eq), ("!=", .notEq), ("<=", .ltE), ("<", .lt), (">=", .gtE),
      (">", .gt)].lookup s with
    | some kind =>
      advance
      return some kind
    | none => return none
  | .keyword "in" =>
    advance
    return some .isIn
  | .keyword "not" =>
    match ← peekSecond with
    | .keyword "in" =>
      advance
      advance
      return some .isNotIn
    | _ => return none
  | .keyword "is" =>
    advance
    if ← acceptKeyword "not" then return some .isNotSame else return some .isSame
  | _ => return none

/-- A chain of comparisons. -/
def comparison (g : Grammar) : Parse Tree := do
  let start ← here
  let left ← operand g
  let links ← many do
    match ← comparisonSign with
    | none => return none
    | some op => return some (bare op, ← operand g)
  if links.isEmpty then return left
  else finishNode .compare [left, .list (links.map (·.1)), .list (links.map (·.2))] start

/-- A negation or a comparison. -/
def inversion (g : Grammar) : Parse Tree := do
  let start ← here
  if ← acceptKeyword "not" then
    let inner ← g .inversion
    finishNode .unaryOp [bare .not, inner] start
  else comparison g

/-- Operands joined by one word; two or more make one node. -/
def junction (word : String) (kind : Kind) (item : Parse Tree) : Parse Tree := do
  let start ← here
  let first ← item
  let rest ← many do
    if ← acceptKeyword word then return some (← item) else return none
  if rest.isEmpty then return first
  else finishNode .boolOp [bare kind, .list (first :: rest)] start

/-- Everything that binds tighter than a conditional expression. -/
def disjunction (g : Grammar) : Parse Tree :=
  junction "or" .or (junction "and" .and (inversion g))

/-- A starred operand, or an expression. -/
def starExpression (g : Grammar) : Parse Tree := do
  let start ← here
  if ← acceptSign "*" then
    let value ← operand g
    finishNode .starred [value, bare .load] start
  else g .expression

/-- One expression or a tuple of several, which may be starred. -/
def starExpressions (g : Grammar) : Parse Tree :=
  tupleOf (starExpression g) atListEnd

/-! ### Parameters -/

/-- The parameters read so far. -/
structure Parameters where
  positionalOnly : List Tree := []
  plain : List Tree := []
  defaults : List Tree := []
  rest : Option Tree := none
  /-- Whether a star has been read, after which parameters are given by keyword only. -/
  starred : Bool := false
  keywordOnly : List Tree := []
  keywordDefaults : List Tree := []
  keywordRest : Option Tree := none

/-- The node of a list of parameters. -/
def Parameters.tree (p : Parameters) : Tree :=
  .node .parameters
    [.list p.positionalOnly, .list p.plain, optional p.rest, .list p.keywordOnly,
     .list p.keywordDefaults, optional p.keywordRest, .list p.defaults] (.nowhere .parameters)

/-- One parameter with its annotation, which only definitions have.  The annotation of a starred
parameter may be starred too. -/
def parameter (g : Grammar) (annotated starred : Bool) : Parse Tree := do
  let start ← here
  let name ← expectName
  let annotation ←
    if annotated then
      if ← acceptSign ":" then
        some <$> if starred then starExpression g else g .expression
      else pure none
    else pure none
  finishNode .parameter [nameTree name, optional annotation, noTree] start

/-- A default value, if there is one. -/
def defaultValue (g : Grammar) : Parse (Option Tree) := do
  if ← acceptSign "=" then some <$> g .expression else return none

/-- One entry of a list of parameters.  A parameter without a default does not follow one that has
it, unless both are given by keyword only. -/
def parameterEntry (g : Grammar) (annotated : Bool) (p : Parameters) : Parse Parameters := do
  if p.keywordRest.isSome then failure
  if ← acceptSign "**" then
    return { p with keywordRest := some (← parameter g annotated false) }
  else if ← acceptSign "*" then
    if p.starred then failure
    if ← atSign "," then
      -- a bare star has to be followed by a parameter
      match ← peekSecond with
      | .name _ => return { p with starred := true }
      | _ => failure
    else return { p with starred := true, rest := some (← parameter g annotated true) }
  else if ← acceptSign "/" then
    if p.starred || !p.positionalOnly.isEmpty || p.plain.isEmpty then failure
    return { p with positionalOnly := p.plain, plain := [] }
  else
    let entry ← parameter g annotated false
    let value ← defaultValue g
    if p.starred then
      return { p with
        keywordOnly := p.keywordOnly ++ [entry]
        keywordDefaults := p.keywordDefaults ++ [optional value] }
    else
      match value with
      | some value =>
        return { p with plain := p.plain ++ [entry], defaults := p.defaults ++ [value] }
      | none =>
        if p.defaults.isEmpty then return { p with plain := p.plain ++ [entry] } else failure

/-- A list of parameters up to the given sign, which is not passed over. -/
def parameters (g : Grammar) (annotated : Bool) (closing : String) : Parse Tree := do
  if ← atSign closing then return Parameters.tree {}
  else
    let first ← parameterEntry g annotated {}
    let all ← iterate step first
    return all.tree
where
  /-- One more entry; a comma may stand at the end. -/
  step (p : Parameters) : Parse (Option Parameters) := do
    if ← acceptSign "," then
      if ← atSign closing then return none
      else return some (← parameterEntry g annotated p)
    else return none

/-! ### Calls, subscripts and members -/

/-- The arguments read so far. -/
structure Arguments where
  positional : List Tree := []
  keywords : List Tree := []
  /-- Whether an argument given by keyword has been read. -/
  named : Bool := false
  /-- Whether a mapping of arguments has been read. -/
  mapped : Bool := false

/-- One argument.  Arguments without a name come before those with one, starred arguments before
mappings. -/
def argument (g : Grammar) (a : Arguments) : Parse Arguments := do
  let start ← here
  if ← acceptSign "*" then
    if a.mapped then failure
    let value ← g .expression
    let starred ← finishNode .starred [value, bare .load] start
    return { a with positional := a.positional ++ [starred] }
  else if ← acceptSign "**" then
    let value ← g .expression
    let keyword ← finishNode .keywordArg [noTree, value] start
    return { a with keywords := a.keywords ++ [keyword], named := true, mapped := true }
  else
    match ← peek, ← peekSecond with
    | .name name, .sign "=" =>
      advance
      advance
      let value ← g .expression
      let keyword ← finishNode .keywordArg [nameTree name, value] start
      return { a with keywords := a.keywords ++ [keyword], named := true }
    | _, _ =>
      if a.named then failure
      return { a with positional := a.positional ++ [← g .expression] }

/-- The arguments up to the closing bracket, which is passed over. -/
def arguments (g : Grammar) : Parse Arguments := do
  if ← acceptSign ")" then return {}
  else
    let first ← argument g {}
    let all ← iterate step first
    expectSign ")"
    return all
where
  /-- One more argument; a comma may stand at the end. -/
  step (a : Arguments) : Parse (Option Arguments) := do
    if ← acceptSign "," then
      if ← atSign ")" then return none
      else return some (← argument g a)
    else return none

/-- A bound of a slice, which is left out before a colon or the end of the subscript. -/
def sliceBound (g : Grammar) : Parse Tree := do
  if (← atSign ":") || (← atSign ",") || (← atSign "]") then return noTree
  else g .expression

/-- A slice, an expression or a starred expression inside a subscript. -/
def sliceItem (g : Grammar) : Parse Tree := do
  let start ← here
  if ← acceptSign "*" then
    let value ← g .expression
    finishNode .starred [value, bare .load] start
  else
    let lower ← sliceBound g
    if ← acceptSign ":" then
      let upper ← sliceBound g
      let step ← if ← acceptSign ":" then sliceBound g else pure noTree
      finishNode .slice [lower, upper, step] start
    else
      match lower with
      | .node .. => return lower
      | _ => failure

/-- What stands between the brackets of a subscript: one item, or a tuple of several.  A starred
expression alone makes a tuple. -/
def subscriptIndex (g : Grammar) : Parse Tree := do
  let start ← here
  let index ← tupleOf (sliceItem g) (atSign "]")
  match index with
  | .node .starred _ _ => finishNode .tuple [.list [index], bare .load] start
  | _ => return index

/-- One member access, call or subscript behind an expression. -/
def trailer (g : Grammar) (start : Spot) (value : Tree) : Parse (Option Tree) := do
  if ← acceptSign "." then
    let name ← expectName
    return some (← finishNode .member [value, nameTree name, bare .load] start)
  else if ← acceptSign "(" then
    let args ← arguments g
    return some (← finishNode .call [value, .list args.positional, .list args.keywords] start)
  else if ← acceptSign "[" then
    let index ← subscriptIndex g
    expectSign "]"
    return some (← finishNode .subscript [value, index, bare .load] start)
  else return none

/-! ### Atoms -/

/-- A constant node. -/
def constantNode (value : Constant) (mark : Tree) (start : Spot) : Parse Tree :=
  finishNode .constant [.constant value, mark] start

/-- Literals side by side are one constant.  Texts and bytes do not mix, and the mark of the first
text counts. -/
def literals : Parse Tree := do
  let start ← here
  match ← peek with
  | .text marked first =>
    advance
    let rest ← many do
      match ← peek with
      | .text _ more =>
        advance
        return some more
      | .bytes _ => failure
      | _ => return none
    constantNode (.str (first ++ rest.flatten)) (if marked then nameTree "u" else noTree) start
  | .bytes first =>
    advance
    let rest ← many do
      match ← peek with
      | .bytes more =>
        advance
        return some more
      | .text _ _ => failure
      | _ => return none
    constantNode (.bytes (first ++ rest.flatten)) noTree start
  | _ => failure

/-- What stands between parentheses: nothing or several items make a tuple, one expression stands
for itself. -/
def parenthesised (g : Grammar) (start : Spot) : Parse Tree := do
  let (items, isTuple) ← bracketed (starExpression g) ")"
  match items with
  | [item] =>
    if isTuple then finishNode .tuple [.list items, bare .load] start
    else
      match item with
      | .node .starred _ _ => failure
      | _ => return item
  | _ => finishNode .tuple [.list items, bare .load] start

/-- An entry of a dictionary: a key and a value, or a mapping, which has no key. -/
def dictEntry (g : Grammar) : Parse (Tree × Tree) := do
  if ← acceptSign "**" then return (noTree, ← operand g)
  else
    let key ← g .expression
    expectSign ":"
    return (key, ← g .expression)

/-- Entries of a dictionary after the first, up to the closing brace. -/
def dictTail (g : Grammar) : Parse (List (Tree × Tree)) := do
  let entries ← many do
    if ← acceptSign "," then
      if ← atSign "\x7d" then return none
      else return some (← dictEntry g)
    else return none
  expectSign "\x7d"
  return entries

/-- A dictionary or a set, after its opening brace. -/
def braced (g : Grammar) (start : Spot) : Parse Tree := do
  let dict (entries : List (Tree × Tree)) : Parse Tree :=
    finishNode .dict [.list (entries.map (·.1)), .list (entries.map (·.2))] start
  if ← acceptSign "\x7d" then dict []
  else if ← atSign "**" then
    let first ← dictEntry g
    dict (first :: (← dictTail g))
  else
    let first ← starExpression g
    if ← acceptSign ":" then
      match first with
      | .node .starred _ _ => failure
      | _ =>
        let value ← g .expression
        dict ((first, value) :: (← dictTail g))
    else
      let (rest, _) ← commaTail (starExpression g) (atSign "\x7d")
      expectSign "\x7d"
      finishNode .set [.list (first :: rest)] start

/-- A name, a literal or something in brackets. -/
def atom (g : Grammar) : Parse Tree := do
  let start ← here
  match ← peek with
  | .name name =>
    advance
    finishNode .ident [nameTree name, bare .load] start
  | .keyword "True" =>
    advance
    constantNode (.bool true) noTree start
  | .keyword "False" =>
    advance
    constantNode (.bool false) noTree start
  | .keyword "None" =>
    advance
    constantNode .none noTree start
  | .number value =>
    advance
    constantNode (.number value) noTree start
  | .text _ _ | .bytes _ => literals
  | .sign "..." =>
    advance
    constantNode .ellipsis noTree start
  | .sign "(" =>
    advance
    parenthesised g start
  | .sign "[" =>
    advance
    let (items, _) ← bracketed (starExpression g) "]"
    finishNode .list [.list items, bare .load] start
  | .sign "\x7b" =>
    advance
    braced g start
  | _ => failure

/-- An atom with everything that follows it directly. -/
def primary (g : Grammar) : Parse Tree := do
  let start ← here
  let first ← atom g
  iterate (trailer g start) first

/-- A sign before an operand, or a power.  The exponent may have a sign itself. -/
def factor (g : Grammar) : Parse Tree := do
  let start ← here
  match ← signIn [("+", .uAdd), ("-", .uSub), ("~", .invert)] with
  | some op =>
    advance
    let inner ← g .factor
    finishNode .unaryOp [bare op, inner] start
  | none =>
    let base ← primary g
    if ← acceptSign "**" then
      let exponent ← g .factor
      finishNode .binOp [base, bare .pow, exponent] start
    else return base

/-- An anonymous function, a conditional expression, or anything tighter. -/
def expression (g : Grammar) : Parse Tree := do
  let start ← here
  if ← acceptKeyword "lambda" then
    let params ← parameters g false ":"
    expectSign ":"
    let body ← g .expression
    finishNode .lambda [params, body] start
  else
    let body ← disjunction g
    if ← acceptKeyword "if" then
      let test ← disjunction g
      expectKeyword "else"
      let orelse ← g .expression
      finishNode .ifExp [test, body, orelse] start
    else return body

end Flowchart.Source
