/-!
# Graph descriptions in the DOT language

A graph is described by a list of statements, and `digraph` is the only place where they become
text.  Names and values stand as they are when the language reads them as one word, and between
double quotes otherwise.
-/

set_option autoImplicit false

namespace Flowchart.Dot

/-- A statement of a graph description. -/
inductive Statement where
  | setting (key value : String)
  | node (name label : String) (shape : Option String)
  | edge (tail head : String) (label : Option String) (headport tailport : String)
deriving Repr, DecidableEq

/-- The words that have a meaning of their own, in any case of letters. -/
def reserved : List String :=
  ["node", "edge", "graph", "digraph", "subgraph", "strict"]

/-- A text without the line end it may have as its last character. -/
def withoutLineEnd (text : List Char) : List Char :=
  if text.getLast? == some '\n' then text.dropLast else text

/-- A text in angle brackets is markup, which is never quoted. -/
def isMarkup (text : List Char) : Bool :=
  let isBracketed := fun (t : List Char) =>
    2 ≤ t.length && t.head? == some '<' && t.getLast? == some '>'
  isBracketed text || isBracketed (withoutLineEnd text)

/-- Letters, digits and underscores, a letter or underscore first. -/
def isIdentifier : List Char → Bool
  | [] => false
  | c :: rest => (c.isAlpha || c == '_') && rest.all fun d => d.isAlphanum || d == '_'

/-- A decimal number with an optional sign, in which digits stand before the point or after it. -/
def isNumeral (text : List Char) : Bool :=
  let unsigned := match text with
    | '-' :: rest => rest
    | rest => rest
  let whole := unsigned.takeWhile Char.isDigit
  match unsigned.dropWhile Char.isDigit with
  | [] => !whole.isEmpty
  | '.' :: fraction => fraction.all Char.isDigit && !(whole.isEmpty && fraction.isEmpty)
  | _ => false

/-- Whether a text is read as one word without quotes. -/
def isPlainWord (text : List Char) : Bool :=
  let body := withoutLineEnd text
  (isIdentifier body || isNumeral body) &&
    !reserved.contains (String.ofList (text.map Char.toLower))

/-- A backslash before each double quote that does not have one already.  `escaped` tells whether
the text so far ends in a backslash that itself is not escaped. -/
def escapeQuotes : (escaped : Bool) → List Char → List Char
  | _, [] => []
  | escaped, c :: rest =>
    if c == '"' then
      (if escaped then ['"'] else ['\\', '"']) ++ escapeQuotes false rest
    else c :: escapeQuotes (c == '\\' && !escaped) rest

/-- A name or value as it stands in a description. -/
def quote (text : String) : String :=
  let chars := text.toList
  if isMarkup chars || isPlainWord chars then text
  else String.ofList ('"' :: (escapeQuotes false chars ++ ['"']))

/-- Attributes in brackets, in the given order, without those that have no value. -/
def attributes (items : List (String × Option String)) : String :=
  let given := items.filterMap fun (key, value) => value.map fun v => key ++ "=" ++ quote v
  " [" ++ " ".intercalate given ++ "]"

/-- The line of a statement. -/
def Statement.line : Statement → String
  | setting key value => "\t" ++ key ++ "=" ++ quote value ++ "\n"
  | node name label shape =>
    "\t" ++ quote name ++ attributes [("label", some label), ("shape", shape)] ++ "\n"
  | edge tail head label headport tailport =>
    "\t" ++ quote tail ++ " -> " ++ quote head
      ++ attributes [("label", label), ("headport", some headport), ("tailport", some tailport)]
      ++ "\n"

/-- The description of a directed graph. -/
def digraph (statements : List Statement) : String :=
  "digraph \x7b\n" ++ String.join (statements.map Statement.line) ++ "\x7d\n"

end Flowchart.Dot
