import Flowchart.Source.Literal
import Flowchart.Text.Identifier
import Flowchart.Text.Normal

/-!
# From text to tokens

The text is read once from left to right.  At the beginning of a line the indentation is measured
twice, with tabs up to multiples of eight columns and with tabs of one column, and both measures
have to agree on every comparison with the lines around it.  Line ends inside brackets do not count,
and neither do lines without a token.

Names that are the same up to the compatible forms of their letters are the same name, so a name is
kept in its normal form.  Keywords are recognised as they are written.
-/

set_option autoImplicit false

namespace Flowchart.Source

/-- Where the reading of a program stands. -/
structure Reader where
  rest : List Char
  spot : Spot
  /-- The indentations in force, the innermost first, by both measures. -/
  indents : List (Nat × Nat)
  /-- The brackets that are open, the innermost first. -/
  brackets : List Char
  /-- The tokens read so far, the last one first. -/
  tokens : List Token

/-- The greatest number of indentations in force at once. -/
def indentLimit : Nat := 100

/-- The greatest number of brackets open at once. -/
def bracketLimit : Nat := 200

namespace Reader

/-- Pass over some characters at the front. -/
def skip (r : Reader) (passed rest : List Char) : Reader :=
  { r with rest, spot := r.spot.afterAll passed }

/-- Add a token that takes up the given characters at the front. -/
def take (r : Reader) (lexeme : Lexeme) (passed rest : List Char) : Reader :=
  let stop := r.spot.afterAll passed
  { r with rest, spot := stop, tokens := ⟨lexeme, r.spot, stop⟩ :: r.tokens }

/-- Add a token that takes up no characters. -/
def mark (r : Reader) (lexeme : Lexeme) : Reader :=
  { r with tokens := ⟨lexeme, r.spot, r.spot⟩ :: r.tokens }

/-- Whether a character is passed over between tokens. -/
def isSpace (c : Char) : Bool :=
  c == ' ' || c == '\t' || c == '\x0c'

/-! ### The beginning of a line -/

/-- The indentation of a line by both measures, the characters it takes up and the rest.  After a
backslash at the end of the line the indentation continues on the next line, but its measures stay;
`fixed` holds them. -/
def measure (fixed : Option Nat) (wide narrow : Nat) :
    List Char → Option ((Nat × Nat) × List Char × List Char)
  | ' ' :: rest => pass ' ' (measure fixed (wide + 1) (narrow + 1) rest)
  | '\t' :: rest => pass '\t' (measure fixed ((wide / 8 + 1) * 8) (narrow + 1) rest)
  | '\x0c' :: rest => pass '\x0c' (measure fixed 0 0 rest)
  | '\\' :: '\n' :: c :: rest =>
    let first := match fixed with
      | none => if wide = 0 then none else some wide
      | some n => some n
    (pass '\n' (measure first wide narrow (c :: rest))).map
      fun (columns, passed, rest) => (columns, '\\' :: passed, rest)
  | '\\' :: _ => none
  | rest => some ((fixed.getD wide, fixed.getD narrow), [], rest)
where
  /-- Put a character in front of those passed over. -/
  pass (c : Char) : Option ((Nat × Nat) × List Char × List Char) →
      Option ((Nat × Nat) × List Char × List Char)
    | some (columns, passed, rest) => some (columns, c :: passed, rest)
    | none => none

/-- Leave the indentations that are wider than a line. -/
def dedent (r : Reader) (wide : Nat) : List (Nat × Nat) → Reader
  | (w, n) :: outer =>
    if wide < w then dedent (r.mark .dedent) wide outer
    else { r with indents := (w, n) :: outer }
  | [] => { r with indents := [] }

/-- Compare the indentation of a line with those in force. -/
def indentTo (r : Reader) (columns : Nat × Nat) : Option Reader :=
  let (wide, narrow) := columns
  match r.indents with
  | [] => none
  | (w, n) :: _ =>
    if wide = w then
      if narrow = n then some r else none
    else if w < wide then
      if narrow ≤ n || indentLimit ≤ r.indents.length then none
      else some { (r.mark .indent) with indents := columns :: r.indents }
    else
      let r := r.dedent wide r.indents
      if r.indents.head? = some columns then some r else none

/-- Read the beginning of a line.  A line of spaces and a comment only has no indentation. -/
def beginLine (r : Reader) : Option Reader := do
  let (columns, passed, rest) ← measure none 0 0 r.rest
  let r := r.skip passed rest
  if rest.head? == some '\n' || rest.head? == some '#' then
    let comment := rest.takeWhile (· != '\n')
    return r.skip comment (rest.dropWhile (· != '\n'))
  else if r.brackets.isEmpty then r.indentTo columns
  else return r

/-! ### Tokens -/

/-- The bracket that closes a given one. -/
def closing (c : Char) : Option Char :=
  [('(', ')'), ('[', ']'), ('\x7b', '\x7d')].lookup c

/-- Keep track of brackets: a closing bracket has to fit the innermost open one. -/
def trackBracket (r : Reader) (sign : List Char) : Option Reader :=
  match sign with
  | [c] =>
    if (closing c).isSome then
      if bracketLimit ≤ r.brackets.length then none
      else some { r with brackets := c :: r.brackets }
    else if c == ')' || c == ']' || c == '\x7d' then
      match r.brackets with
      | first :: outer =>
        if closing first == some c then some { r with brackets := outer } else none
      | [] => none
    else some r
  | _ => some r

/-- A word of characters that may be a name. -/
def wordLexeme (word : List Char) : Option Lexeme :=
  let text := String.ofList word
  if keywords.contains text then some (.keyword text)
  else
    match word with
    | c :: rest =>
      if Text.isNameStart c && rest.all Text.isNameContinue then
        some (.name (String.ofList (Text.normalForm word)))
      else none
    | [] => none

/-- The token at the front, where no space, line end or comment stands. -/
def readToken (r : Reader) (c : Char) (rest : List Char) : Option Reader :=
  let text := c :: rest
  if c.isDigit || (c == '.' && rest.head?.any Char.isDigit) then
    (readNumber text).map fun (value, passed, rest) => r.take (.number value) passed rest
  else if c == '"' || c == '\'' then
    (readLiteral [] text).map fun (lexeme, passed, rest) => r.take lexeme passed rest
  else if isWordPart c then
    let word := text.takeWhile isWordPart
    let rest := text.dropWhile isWordPart
    let isQuote := rest.head? == some '"' || rest.head? == some '\''
    match if isQuote then Marks.ofLetters? word else none with
    | some _ => (readLiteral word rest).map fun (lexeme, passed, rest) => r.take lexeme passed rest
    | none => (wordLexeme word).map fun lexeme => r.take lexeme word rest
  else do
    let sign ← (signs.map String.toList).find? (·.isPrefixOf text)
    let r ← r.trackBracket sign
    return r.take (.sign (String.ofList sign)) sign (text.drop sign.length)

/-- Whether only spaces, line ends and comments follow. -/
def isIdle (inComment : Bool) : List Char → Bool
  | [] => true
  | c :: rest =>
    if c == '\n' then isIdle false rest
    else if inComment || c == '#' then isIdle true rest
    else isSpace c && isIdle false rest

/-- Read on to the end of the text.  Every step passes over a character or ends the reading, so the
length of the text bounds the steps. -/
def readAll : (fuel : Nat) → Reader → Option Reader
  | 0, _ => none
  | fuel + 1, r =>
    match r.rest with
    | [] => if r.brackets.isEmpty then some r else none
    | c :: rest =>
      if isSpace c then readAll fuel (r.skip [c] rest)
      else if c == '#' then
        let comment := r.rest.takeWhile (· != '\n')
        readAll fuel (r.skip comment (r.rest.dropWhile (· != '\n')))
      else if c == '\n' then do
        -- a line without tokens, and a line that goes on inside brackets, has no end of its own
        let ended := r.brackets.isEmpty && lineHasTokens r.tokens
        let r := if ended then r.take (.lineEnd (isIdle false rest)) [c] rest else r.skip [c] rest
        let r ← r.beginLine
        readAll fuel r
      else if c == '\\' then
        match rest with
        | '\n' :: d :: more => readAll fuel (r.skip ['\\', '\n'] (d :: more))
        | _ => none
      else do
        let r ← r.readToken c rest
        readAll fuel r
where
  /-- Whether a token of the current line has been read. -/
  lineHasTokens : List Token → Bool
    | ⟨.lineEnd _, _, _⟩ :: _ | ⟨.indent, _, _⟩ :: _ | ⟨.dedent, _, _⟩ :: _ | [] => false
    | _ => true

/-- Add the end of the program.  Where a statement stands alone, the end of the text ends its last
line; so it does once more behind what is still indented then. -/
def finish (alone : Bool) (r : Reader) : Reader :=
  if alone && !r.tokens.isEmpty then
    let r := r.mark (.lineEnd true)
    let r := if r.indents.length ≤ 1 then r else (r.dedent 0 r.indents).mark (.lineEnd true)
    r.mark .finish
  else r.mark .finish

end Reader

/-- The tokens of a text, or nothing when it cannot be divided into tokens.  `alone` tells whether
the text is to hold a single statement. -/
def tokens? (alone : Bool) (text : List Char) : Option (List Token) := do
  let r ← Reader.beginLine ⟨text, ⟨1, 0⟩, [(0, 0)], [], []⟩
  let r ← Reader.readAll (text.length + 2) r
  return (r.finish alone).tokens.reverse

end Flowchart.Source
