import Flowchart.Encoding.Decode

/-!
# Encodings of program files

A program file may name its encoding in a comment on its first line, or on its second line if the
first is blank or a comment.  Without such a comment the file is in UTF-8, where a byte order mark
at its beginning is passed over.  Behind such a mark only the name of UTF-8 itself may be given.
-/

set_option autoImplicit false

namespace Flowchart.Command

/-! ### Declarations -/

/-- Whether a character may stand in the name of an encoding. -/
def isEncodingChar (c : Char) : Bool :=
  c.isAlphanum || c == '_' || c == '-' || c == '.'

/-- Whether a character is a space at the beginning of a line. -/
def isMargin (c : Char) : Bool :=
  c == ' ' || c == '\t' || c == '\x0c'

/-- The name of an encoding in a comment: it follows the first `coding` with a colon or equals sign
that a name follows. -/
def declaredIn : List Char → Option (List Char)
  | [] => none
  | c :: rest =>
    let found :=
      if "coding".toList.isPrefixOf (c :: rest) then
        match rest.drop 5 with
        | mark :: more =>
          if mark == ':' || mark == '=' then
            let name := (more.dropWhile fun c => c == ' ' || c == '\t').takeWhile isEncodingChar
            if name.isEmpty then none else some name
          else none
        | [] => none
      else none
    match found with
    | some name => some name
    | none => declaredIn rest

/-- The name of an encoding that a line declares. -/
def declared? (line : List Char) : Option (List Char) :=
  match line.dropWhile isMargin with
  | '#' :: comment => declaredIn comment
  | _ => none

/-- Whether a line is blank or a comment. -/
def isBlankLine (line : List Char) : Bool :=
  match line.dropWhile isMargin with
  | [] => true
  | c :: _ => c == '#' || c == '\r' || c == '\n'

/-- The name of an encoding that a file declares. -/
def declaration? (text : List Char) : Option (List Char) :=
  let first := text.takeWhile (· != '\n')
  let second := ((text.dropWhile (· != '\n')).drop 1).takeWhile (· != '\n')
  match declared? first with
  | some name => some name
  | none => if isBlankLine first then declared? second else none

/-- The encoding whose usual name is meant, as far as the first twelve characters tell.  Letters
count in either case, an underscore is a hyphen, and more may follow behind a hyphen. -/
def usualEncoding? (name : List Char) : Option Encoding :=
  let plain := (name.take 12).map fun c => if c == '_' then '-' else c.toLower
  let means (s : String) : Bool := plain == s.toList || (s ++ "-").toList.isPrefixOf plain
  if means "utf-8" then some .utf8
  else if ["latin-1", "iso-8859-1", "iso-latin-1"].any means then some .latin1
  else none

/-- The encoding that a declaration names. -/
def declaredEncoding? (name : List Char) : Option Encoding :=
  usualEncoding? name <|> Encoding.ofName? name

/-! ### Decoding -/

/-- The text of a program file, given the text it has in UTF-8. -/
def programText (text : String) : Except Encoding.Fault String :=
  match text.toList with
  | '\uFEFF' :: body =>
    match declaration? body with
    | none => .ok (String.ofList body)
    | some name =>
      if usualEncoding? name = some .utf8 then .ok (String.ofList body) else .error .unknown
  | body =>
    match declaration? body with
    | none => .ok text
    | some name =>
      match declaredEncoding? name with
      | some encoding => encoding.decode (String.ofList name) text
      | none => .error .unknown

end Flowchart.Command
