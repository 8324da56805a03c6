/-!
# Kinds of syntax nodes

The nodes of a program's syntax tree come in a fixed number of kinds.  A kind has a name, a list of
fields in a fixed order, and a rule on which coordinates of its place a node must record.
-/

set_option autoImplicit false

namespace Flowchart

/-- A field of a kind of node.  An optional field that is left out counts as given without a
value. -/
structure Field where
  name : String
  optional : Bool
deriving Repr, DecidableEq

/-- Which coordinates of its place in the source a node records. -/
inductive Placement where
  /-- The kind has no place. -/
  | unplaced
  /-- Line and column of the beginning are required, those of the end may be left out. -/
  | beginning
  /-- All four coordinates are required. -/
  | whole
deriving Repr, DecidableEq

/-- A field that must be given. -/
def Field.required (name : String) : Field := ⟨name, false⟩

/-- A field that may be left out. -/
def Field.maybe (name : String) : Field := ⟨name, true⟩

/-- The kinds of syntax nodes. -/
inductive Kind where
  | add | and | annAssign | assertStmt | assign | asyncFor | asyncFunctionDef | asyncWith
  | member | augAssign | await | binOp | bitAnd | bitOr | bitXor | boolOp | breakStmt | call
  | classDef | compare | constant | continueStmt | del | deleteStmt | dict | dictComp | div
  | eq | exceptHandler | exprStmt | expression | floorDiv | forStmt | formattedValue
  | functionDef | functionType | generatorExp | globalStmt | gt | gtE | ifStmt | ifExp
  | importStmt | importFrom | isIn | interactive | invert | isSame | isNotSame | joinedStr
  | lShift | lambda | list | listComp | load | lt | ltE | matMult | matchStmt | matchAs
  | matchClass | matchMapping | matchOr | matchSequence | matchSingleton | matchStar
  | matchValue | mod | program | mult | ident | namedExpr | nonlocalStmt | not | notEq
  | isNotIn | or | passStmt | pow | rShift | raiseStmt | returnStmt | set | setComp | slice
  | starred | store | sub | subscript | tryStmt | tryStar | tuple | typeIgnore | uAdd | uSub
  | unaryOp | whileStmt | withStmt | yield | yieldFrom | importAlias | parameter | parameters
  | comprehension | keywordArg | matchCase | withItem
deriving Repr, DecidableEq

namespace Kind

/-- All kinds. -/
def all : List Kind :=
  [.add, .and, .annAssign, .assertStmt, .assign, .asyncFor, .asyncFunctionDef, .asyncWith,
   .member, .augAssign, .await, .binOp, .bitAnd, .bitOr, .bitXor, .boolOp, .breakStmt, .call,
   .classDef, .compare, .constant, .continueStmt, .del, .deleteStmt, .dict, .dictComp, .div,
   .eq, .exceptHandler, .exprStmt, .expression, .floorDiv, .forStmt, .formattedValue,
   .functionDef, .functionType, .generatorExp, .globalStmt, .gt, .gtE, .ifStmt, .ifExp,
   .importStmt, .importFrom, .isIn, .interactive, .invert, .isSame, .isNotSame, .joinedStr,
   .lShift, .lambda, .list, .listComp, .load, .lt, .ltE, .matMult, .matchStmt, .matchAs,
   .matchClass, .matchMapping, .matchOr, .matchSequence, .matchSingleton, .matchStar,
   .matchValue, .mod, .program, .mult, .ident, .namedExpr, .nonlocalStmt, .not, .notEq,
   .isNotIn, .or, .passStmt, .pow, .rShift, .raiseStmt, .returnStmt, .set, .setComp, .slice,
   .starred, .store, .sub, .subscript, .tryStmt, .tryStar, .tuple, .typeIgnore, .uAdd, .uSub,
   .unaryOp, .whileStmt, .withStmt, .yield, .yieldFrom, .importAlias, .parameter, .parameters,
   .comprehension, .keywordArg, .matchCase, .withItem]

/-- The list has all kinds. -/
theorem mem_all (kind : Kind) : kind ∈ all := by
  cases kind <;> decide

/-- The name of a kind, as trees show it. -/
def name : Kind → String
  | .add => "Add"
  | .and => "And"
  | .annAssign => "AnnAssign"
  | .assertStmt => "Assert"
  | .assign => "Assign"
  | .asyncFor => "AsyncFor"
  | .asyncFunctionDef => "AsyncFunctionDef"
  | .asyncWith => "AsyncWith"
  | .member => "Attribute"
  | .augAssign => "AugAssign"
  | .await => "Await"
  | .binOp => "BinOp"
  | .bitAnd => "BitAnd"
  | .bitOr => "BitOr"
  | .bitXor => "BitXor"
  | .boolOp => "BoolOp"
  | .breakStmt => "Break"
  | .call => "Call"
  | .classDef => "ClassDef"
  | .compare => "Compare"
  | .constant => "Constant"
  | .continueStmt => "Continue"
  | .del => "Del"
  | .deleteStmt => "Delete"
  | .dict => "Dict"
  | .dictComp => "DictComp"
  | .div => "Div"
  | .eq => "Eq"
  | .exceptHandler => "ExceptHandler"
  | .exprStmt => "Expr"
  | .expression => "Expression"
  | .floorDiv => "FloorDiv"
  | .forStmt => "For"
  | .formattedValue => "FormattedValue"
  | .functionDef => "FunctionDef"
  | .functionType => "FunctionType"
  | .generatorExp => "GeneratorExp"
  | .globalStmt => "Global"
  | .gt => "Gt"
  | .gtE => "GtE"
  | .ifStmt => "If"
  | .ifExp => "IfExp"
  | .importStmt => "Import"
  | .importFrom => "ImportFrom"
  | .isIn => "In"
  | .interactive => "Interactive"
  | .invert => "Invert"
  | .isSame => "Is"
  | .isNotSame => "IsNot"
  | .joinedStr => "JoinedStr"
  | .lShift => "LShift"
  | .lambda => "Lambda"
  | .list => "List"
  | .listComp => "ListComp"
  | .load => "Load"
  | .lt => "Lt"
  | .ltE => "LtE"
  | .matMult => "MatMult"
  | .matchStmt => "Match"
  | .matchAs => "MatchAs"
  | .matchClass => "MatchClass"
  | .matchMapping => "MatchMapping"
  | .matchOr => "MatchOr"
  | .matchSequence => "MatchSequence"
  | .matchSingleton => "MatchSingleton"
  | .matchStar => "MatchStar"
  | .matchValue => "MatchValue"
  | .mod => "Mod"
  | .program => "Module"
  | .mult => "Mult"
  | .ident => "Name"
  | .namedExpr => "NamedExpr"
  | .nonlocalStmt => "Nonlocal"
  | .not => "Not"
  | .notEq => "NotEq"
  | .isNotIn => "NotIn"
  | .or => "Or"
  | .passStmt => "Pass"
  | .pow => "Pow"
  | .rShift => "RShift"
  | .raiseStmt => "Raise"
  | .returnStmt => "Return"
  | .set => "Set"
  | .setComp => "SetComp"
  | .slice => "Slice"
  | .starred => "Starred"
  | .store => "Store"
  | .sub => "Sub"
  | .subscript => "Subscript"
  | .tryStmt => "Try"
  | .tryStar => "TryStar"
  | .tuple => "Tuple"
  | .typeIgnore => "TypeIgnore"
  | .uAdd => "UAdd"
  | .uSub => "USub"
  | .unaryOp => "UnaryOp"
  | .whileStmt => "While"
  | .withStmt => "With"
  | .yield => "Yield"
  | .yieldFrom => "YieldFrom"
  | .importAlias => "alias"
  | .parameter => "arg"
  | .parameters => "arguments"
  | .comprehension => "comprehension"
  | .keywordArg => "keyword"
  | .matchCase => "match_case"
  | .withItem => "withitem"

/-- The fields of a kind, in the order in which trees show them. -/
def fields : Kind → List Field
  | .annAssign => [.required "target", .required "annotation", .maybe "value", .required "simple"]
  | .assertStmt => [.required "test", .maybe "msg"]
  | .assign => [.required "targets", .required "value", .maybe "type_comment"]
  | .asyncFor =>
    [.required "target", .required "iter", .required "body", .required "orelse",
     .maybe "type_comment"]
  | .asyncFunctionDef =>
    [.required "name", .required "args", .required "body", .required "decorator_list",
     .maybe "returns", .maybe "type_comment"]
  | .asyncWith => [.required "items", .required "body", .maybe "type_comment"]
  | .member => [.required "value", .required "attr", .required "ctx"]
  | .augAssign => [.required "target", .required "op", .required "value"]
  | .await => [.required "value"]
  | .binOp => [.required "left", .required "op", .required "right"]
  | .boolOp => [.required "op", .required "values"]
  | .call => [.required "func", .required "args", .required "keywords"]
  | .classDef =>
    [.required "name", .required "bases", .required "keywords", .required "body",
     .required "decorator_list"]
  | .compare => [.required "left", .required "ops", .required "comparators"]
  | .constant => [.required "value", .maybe "kind"]
  | .deleteStmt => [.required "targets"]
  | .dict => [.required "keys", .required "values"]
  | .dictComp => [.required "key", .required "value", .required "generators"]
  | .exceptHandler => [.maybe "type", .maybe "name", .required "body"]
  | .exprStmt => [.required "value"]
  | .expression => [.required "body"]
  | .forStmt =>
    [.required "target", .required "iter", .required "body", .required "orelse",
     .maybe "type_comment"]
  | .formattedValue => [.required "value", .required "conversion", .maybe "format_spec"]
  | .functionDef =>
    [.required "name", .required "args", .required "body", .required "decorator_list",
     .maybe "returns", .maybe "type_comment"]
  | .functionType => [.required "argtypes", .required "returns"]
  | .generatorExp => [.required "elt", .required "generators"]
  | .globalStmt => [.required "names"]
  | .ifStmt => [.required "test", .required "body", .required "orelse"]
  | .ifExp => [.required "test", .required "body", .required "orelse"]
  | .importStmt => [.required "names"]
  | .importFrom => [.maybe "module", .required "names", .maybe "level"]
  | .interactive => [.required "body"]
  | .joinedStr => [.required "values"]
  | .lambda => [.required "args", .required "body"]
  | .list => [.required "elts", .required "ctx"]
  | .listComp => [.required "elt", .required "generators"]
  | .matchStmt => [.required "subject", .required "cases"]
  | .matchAs => [.maybe "pattern", .maybe "name"]
  | .matchClass =>
    [.required "cls", .required "patterns", .required "kwd_attrs", .required "kwd_patterns"]
  | .matchMapping => [.required "keys", .required "patterns", .maybe "rest"]
  | .matchOr => [.required "patterns"]
  | .matchSequence => [.required "patterns"]
  | .matchSingleton => [.required "value"]
  | .matchStar => [.maybe "name"]
  | .matchValue => [.required "value"]
  | .program => [.required "body", .required "type_ignores"]
  | .ident => [.required "id", .required "ctx"]
  | .namedExpr => [.required "target", .required "value"]
  | .nonlocalStmt => [.required "names"]
  | .raiseStmt => [.maybe "exc", .maybe "cause"]
  | .returnStmt => [.maybe "value"]
  | .set => [.required "elts"]
  | .setComp => [.required "elt", .required "generators"]
  | .slice => [.maybe "lower", .maybe "upper", .maybe "step"]
  | .starred => [.required "value", .required "ctx"]
  | .subscript => [.required "value", .required "slice", .required "ctx"]
  | .tryStmt =>
    [.required "body", .required "handlers", .required "orelse", .required "finalbody"]
  | .tryStar =>
    [.required "body", .required "handlers", .required "orelse", .required "finalbody"]
  | .tuple => [.required "elts", .required "ctx"]
  | .typeIgnore => [.required "lineno", .required "tag"]
  | .unaryOp => [.required "op", .required "operand"]
  | .whileStmt => [.required "test", .required "body", .required "orelse"]
  | .withStmt => [.required "items", .required "body", .maybe "type_comment"]
  | .yield => [.maybe "value"]
  | .yieldFrom => [.required "value"]
  | .importAlias => [.required "name", .maybe "asname"]
  | .parameter => [.required "arg", .maybe "annotation", .maybe "type_comment"]
  | .parameters =>
    [.required "posonlyargs", .required "args", .maybe "vararg", .required "kwonlyargs",
     .required "kw_defaults", .maybe "kwarg", .required "defaults"]
  | .comprehension =>
    [.required "target", .required "iter", .required "ifs", .required "is_async"]
  | .keywordArg => [.maybe "arg", .required "value"]
  | .matchCase => [.required "pattern", .maybe "guard", .required "body"]
  | .withItem => [.required "context_expr", .maybe "optional_vars"]
  | _ => []

/-- The coordinates a kind records: statements, expressions, handlers, parameters, keyword
arguments and import names have a place, patterns a complete one. -/
def placement : Kind → Placement
  | .functionDef | .asyncFunctionDef | .classDef | .returnStmt | .deleteStmt | .assign
  | .augAssign | .annAssign | .forStmt | .asyncFor | .whileStmt | .ifStmt | .withStmt
  | .asyncWith | .matchStmt | .raiseStmt | .tryStmt | .tryStar | .assertStmt | .importStmt
  | .importFrom | .globalStmt | .nonlocalStmt | .exprStmt | .passStmt | .breakStmt
  | .continueStmt | .boolOp | .namedExpr | .binOp | .unaryOp | .lambda | .ifExp | .dict
  | .set | .listComp | .setComp | .dictComp | .generatorExp | .await | .yield | .yieldFrom
  | .compare | .call | .formattedValue | .joinedStr | .constant | .member | .subscript
  | .starred | .ident | .list | .tuple | .slice | .exceptHandler | .parameter | .keywordArg
  | .importAlias => .beginning
  | .matchValue | .matchSingleton | .matchSequence | .matchMapping | .matchClass
  | .matchStar | .matchAs | .matchOr => .whole
  | _ => .unplaced

/-- The kind with a given name. -/
def ofName? (name : String) : Option Kind :=
  all.find? fun kind => kind.name == name

end Kind

end Flowchart
