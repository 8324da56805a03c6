import Flowchart.Source.Expression

/-!
# Statements

The grammar of statements, and the readers for every rule of the grammar.
-/

set_option autoImplicit false

namespace Flowchart.Source

open Parse

/-! ### Simple statements -/

/-- The signs of updates. -/
def updateSigns : List (String × Kind) :=
  [("+=", .add), ("-=", .sub), ("*=", .mult), ("/=", .div), ("//=", .floorDiv), ("%=", .mod),
   ("@=", .matMult), ("&=", .bitAnd), ("|=", .bitOr), ("^=", .bitXor), (">>=", .rShift),
   ("<<=", .lShift), ("**=", .pow)]

/-- A tree as a target, where it can be one. -/
def target (context : Kind) (starred : Bool) (t : Tree) : Parse Tree :=
  match asTarget context starred t with
  | some t => return t
  | none => failure

/-- The rest of an annotated assignment, after the target.  It is simple when the target is a name
that does not stand in parentheses. -/
def annotated (g : Grammar) (start : Spot) (simple : Bool) (first : Tree) : Parse Tree := do
  unless isSingleTarget first do failure
  let first ← target .store false first
  let annotation ← g .expression
  let value ← if ← acceptSign "=" then some <$> starExpressions g else pure none
  let simple := match first with
    | .node .ident _ _ => simple
    | _ => false
  finishNode .annAssign
    [first, annotation, optional value, .constant (.int (if simple then 1 else 0))] start

/-- The rest of an assignment, after its first target.  All expressions but the last are targets. -/
def assignment (g : Grammar) (start : Spot) (first : Tree) : Parse Tree := do
  let more ← many do
    if ← acceptSign "=" then return some (← starExpressions g) else return none
  match (first :: more).reverse with
  | [] => failure
  | value :: targets =>
    let targets ← targets.reverse.mapM (target .store true)
    finishNode .assign [.list targets, value, noTree] start

/-- A statement that begins with an expression. -/
def expressionStatement (g : Grammar) : Parse Tree := do
  let start ← here
  let parenthesised ← atSign "("
  let first ← starExpressions g
  if ← atSign "=" then assignment g start first
  else if ← acceptSign ":" then annotated g start (!parenthesised) first
  else
    match ← signIn updateSigns with
    | some op =>
      advance
      unless isSingleTarget first do failure
      let first ← target .store false first
      let value ← starExpressions g
      finishNode .augAssign [first, bare op, value] start
    | none => finishNode .exprStmt [first] start

/-- A name with dots. -/
def dottedName : Parse String := do
  let first ← expectName
  let rest ← many do
    if ← acceptSign "." then return some (← expectName) else return none
  return ".".intercalate (first :: rest)

/-- An imported name with the name it is given. -/
def aliasOf (name : Parse String) : Parse Tree := do
  let start ← here
  let name ← name
  let given ← if ← acceptKeyword "as" then some <$> expectName else pure none
  finishNode .importAlias [nameTree name, optional (given.map nameTree)] start

/-- One or more items with commas between them. -/
def commaSeparated {α : Type} (item : Parse α) : Parse (List α) := do
  let first ← item
  let rest ← many do
    if ← acceptSign "," then return some (← item) else return none
  return first :: rest

/-- The names of an import, in parentheses, up to the closing one. -/
def importedInParentheses : Parse (List Tree) := do
  let first ← aliasOf expectName
  let rest ← many do
    if ← acceptSign "," then
      if ← atSign ")" then return none
      else return some (← aliasOf expectName)
    else return none
  expectSign ")"
  return first :: rest

/-- The names imported from a module. -/
def importedNames : Parse (List Tree) := do
  let start ← here
  if ← acceptSign "*" then
    return [← finishNode .importAlias [nameTree "*", noTree] start]
  else if ← acceptSign "(" then importedInParentheses
  else commaSeparated (aliasOf expectName)

/-- The dots before the name of a module. -/
def leadingDots : Parse Nat := do
  let dots ← many do
    if ← acceptSign "." then return some 1
    else if ← acceptSign "..." then return some 3
    else return none
  return dots.foldl (· + ·) 0

/-- An import from a module, after its keyword. -/
def importFrom (start : Spot) : Parse Tree := do
  let level ← leadingDots
  let module ← if level ≠ 0 && (← atKeyword "import") then pure none else some <$> dottedName
  expectKeyword "import"
  let names ← importedNames
  finishNode .importFrom
    [optional (module.map nameTree), .list names, .constant (.int level)] start

/-- Whether a simple statement is at its end. -/
def atStatementEnd : Parse Bool := do
  match ← peek with
  | .lineEnd _ | .finish => return true
  | .sign s => return s == ";"
  | _ => return false

/-- An expression, unless the statement ends here. -/
def unlessAtEnd (item : Parse Tree) : Parse Tree := do
  if ← atStatementEnd then return noTree else item

/-- A simple statement. -/
def simpleStatement (g : Grammar) : Parse Tree := do
  let start ← here
  match ← peek with
  | .keyword "pass" =>
    advance
    finishNode .passStmt [] start
  | .keyword "break" =>
    advance
    finishNode .breakStmt [] start
  | .keyword "continue" =>
    advance
    finishNode .continueStmt [] start
  | .keyword "return" =>
    advance
    let value ← unlessAtEnd (starExpressions g)
    finishNode .returnStmt [value] start
  | .keyword "raise" =>
    advance
    let exc ← unlessAtEnd (g .expression)
    let cause ←
      if (← atKeyword "from") && exc matches .node .. then
        advance
        g .expression
      else pure noTree
    finishNode .raiseStmt [exc, cause] start
  | .keyword "assert" =>
    advance
    let test ← g .expression
    let message ← if ← acceptSign "," then g .expression else pure noTree
    finishNode .assertStmt [test, message] start
  | .keyword "del" =>
    advance
    let item : Parse Tree := do target .del false (← operand g)
    let first ← item
    let (rest, _) ← commaTail item atListEnd
    finishNode .deleteStmt [.list (first :: rest)] start
  | .keyword "global" =>
    advance
    let names ← commaSeparated expectName
    finishNode .globalStmt [.list (names.map nameTree)] start
  | .keyword "nonlocal" =>
    advance
    let names ← commaSeparated expectName
    finishNode .nonlocalStmt [.list (names.map nameTree)] start
  | .keyword "import" =>
    advance
    let names ← commaSeparated (aliasOf dottedName)
    finishNode .importStmt [.list names] start
  | .keyword "from" =>
    advance
    importFrom start
  | _ => expressionStatement g

/-- Simple statements on one line, up to its end. -/
def simpleLine (g : Grammar) : Parse (List Tree) := do
  let first ← simpleStatement g
  let rest ← many do
    if ← acceptSign ";" then
      match ← peek with
      | .lineEnd _ => return none
      | _ => return some (← simpleStatement g)
    else return none
  return first :: rest

/-- A line of simple statements with its end. -/
def simpleStatements (g : Grammar) : Parse (List Tree) := do
  let line ← simpleLine g
  expectLineEnd
  return line

/-! ### Compound statements -/

/-- The body of a compound statement, after its colon. -/
def body (g : Grammar) : Parse Tree := do
  expectSign ":"
  g .block

/-- The statements for the other case, if there are any. -/
def elseBody (g : Grammar) : Parse Tree := do
  if ← acceptKeyword "else" then body g else return .list []

/-- The rest of a conditional statement, after its keyword.  A further case is a conditional
statement in the place of the other case. -/
def conditional (g : Grammar) (start : Spot) : Parse Tree := do
  let test ← g .expression
  let body ← body g
  let next ← here
  let orelse ←
    if ← acceptKeyword "elif" then do
      let inner ← g (.conditional next)
      pure (Tree.list [inner])
    else elseBody g
  finishNode .ifStmt [test, body, orelse] start

/-- A loop over values, after its keyword. -/
def forLoop (g : Grammar) (start : Spot) : Parse Tree := do
  let item : Parse Tree := do
    let start ← here
    if ← acceptSign "*" then
      let value ← operand g
      finishNode .starred [value, bare .load] start
    else operand g
  let loopTarget ← target .store true (← tupleOf item atListEnd)
  expectKeyword "in"
  let values ← starExpressions g
  let body ← body g
  let orelse ← elseBody g
  finishNode .forStmt [loopTarget, values, body, orelse, noTree] start

/-- The definition of a function, after its keyword. -/
def functionDefinition (g : Grammar) (start : Spot) : Parse Tree := do
  let name ← expectName
  expectSign "("
  let params ← parameters g true ")"
  expectSign ")"
  let returns ← if ← acceptSign "->" then some <$> g .expression else pure none
  let body ← body g
  finishNode .functionDef [nameTree name, params, body, .list [], optional returns, noTree] start

/-- The definition of a class, after its keyword. -/
def classDefinition (g : Grammar) (start : Spot) : Parse Tree := do
  let name ← expectName
  let args ← if ← acceptSign "(" then arguments g else pure {}
  let body ← body g
  finishNode .classDef
    [nameTree name, .list args.positional, .list args.keywords, body, .list []] start

/-- A compound statement, if one begins here. -/
def compoundStatement (g : Grammar) : Parse (Option Tree) := do
  let start ← here
  match ← peek with
  | .keyword "if" =>
    advance
    return some (← conditional g start)
  | .keyword "while" =>
    advance
    let test ← g .expression
    let body ← body g
    let orelse ← elseBody g
    return some (← finishNode .whileStmt [test, body, orelse] start)
  | .keyword "for" =>
    advance
    return some (← forLoop g start)
  | .keyword "def" =>
    advance
    return some (← functionDefinition g start)
  | .keyword "class" =>
    advance
    return some (← classDefinition g start)
  | _ => return none

/-- One compound statement, or a line of simple ones. -/
def statement (g : Grammar) : Parse (List Tree) := do
  match ← compoundStatement g with
  | some t => return [t]
  | none => simpleStatements g

/-- The indented lines of a body, or the simple statements on its first line. -/
def block (g : Grammar) : Parse Tree := do
  match ← peek with
  | .lineEnd _ =>
    advance
    match ← peek with
    | .indent =>
      advance
      let lines ← many do
        match ← peek with
        | .dedent => return none
        | _ => return some (← statement g)
      match ← peek with
      | .dedent => advance
      | _ => failure
      return .list lines.flatten
    | _ => failure
  | _ => return .list (← simpleStatements g)

/-! ### The whole grammar -/

/-- The reader for a rule, which follows the grammar at most `depth` rules deep. -/
def rule : (depth : Nat) → Grammar
  | 0, _ => failure
  | depth + 1, .expression => expression (rule depth)
  | depth + 1, .factor => factor (rule depth)
  | depth + 1, .inversion => inversion (rule depth)
  | depth + 1, .conditional start => conditional (rule depth) start
  | depth + 1, .block => block (rule depth)

/-- The forms of a program. -/
inductive Mode where
  /-- Any number of statements. -/
  | file
  /-- One expression. -/
  | expression
  /-- One statement, or one line of simple statements. -/
  | interactive
  /-- The types of the parameters and of the result of a function. -/
  | signature
deriving Repr, DecidableEq

/-- The end of the program must be next. -/
def expectFinish : Parse Unit := do
  match ← peek with
  | .finish => return
  | _ => failure

/-- The end of the program must be next, but for ends of lines. -/
def expectLastLine : Parse Unit := do
  let _ ← many do
    match ← peek with
    | .lineEnd _ =>
      advance
      return some ()
    | _ => return none
  expectFinish

/-- One statement alone.  A compound statement is complete only before one more end of a line, which
tells that no line of it follows; nothing but spaces and comments follows a line of simple
statements. -/
def loneStatement (g : Grammar) : Parse (List Tree) := do
  match ← compoundStatement g with
  | some t =>
    expectLineEnd
    expectFinish
    return [t]
  | none =>
    let line ← simpleLine g
    match ← peek with
    | .lineEnd true => return line
    | _ => failure

/-- The types of parameters, up to the closing parenthesis.  A starred one and then a doubly starred
one may stand at the end. -/
def parameterTypes (g : Grammar) : Parse (List Tree) := do
  let types ← iterate step ([], 0)
  return types.1.reverse
where
  /-- One more type, with the number of stars on the last one. -/
  step (state : List Tree × Nat) : Parse (Option (List Tree × Nat)) := do
    if ← atSign ")" then
      -- no comma stands before the parenthesis
      return none
    else
      unless state.1.isEmpty do expectSign ","
      let stars ←
        if ← acceptSign "*" then pure 1
        else if ← acceptSign "**" then pure 2
        else pure 0
      if stars = 0 && state.2 ≠ 0 || stars ≠ 0 && stars ≤ state.2 then failure
      return some ((← g .expression) :: state.1, stars)

/-- A whole program. -/
def programOf (g : Grammar) : Mode → Parse Tree
  | .file => do
    let lines ← many do
      match ← peek with
      | .finish => return none
      | _ => return some (← statement g)
    expectFinish
    return .node .program [.list lines.flatten, .list []] (.nowhere .program)
  | .expression => do
    let body ← tupleOf (g .expression) atListEnd
    expectLastLine
    return .node .expression [body] (.nowhere .expression)
  | .interactive => do
    let lines ← loneStatement g
    return .node .interactive [.list lines] (.nowhere .interactive)
  | .signature => do
    expectSign "("
    let types ← parameterTypes g
    expectSign ")"
    expectSign "->"
    let result ← g .expression
    expectLastLine
    return .node .functionType [.list types, result] (.nowhere .functionType)

end Flowchart.Source
