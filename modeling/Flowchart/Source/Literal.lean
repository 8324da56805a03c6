import Flowchart.Source.Token

/-!
# Literals

Numbers and quoted texts as a program writes them.  Each reader takes the text from the beginning of
the literal and returns what it stands for, or nothing when the literal is malformed.
-/

set_option autoImplicit false

namespace Flowchart.Source

/-! ### Numbers -/

/-- Digits after the first one, in which single underscores may stand between digits. -/
def digitRun (isDigit : Char → Bool) : List Char → Option (List Char × List Char)
  | [] => some ([], [])
  | c :: rest =>
    if isDigit c then
      (digitRun isDigit rest).map fun (run, rest) => (c :: run, rest)
    else if c == '_' then
      if rest.head?.any isDigit then
        (digitRun isDigit rest).map fun (run, rest) => (c :: run, rest)
      else none
    else some ([], c :: rest)

/-- Whether a character may belong to a word. -/
def isWordPart (c : Char) : Bool :=
  c.isAlphanum || c == '_' || 128 ≤ c.toNat

/-- Whether a number may end before the given text.  The words that can follow a number in a program
may follow it without a space. -/
def mayEndNumber (rest : List Char) : Bool :=
  (["and", "else", "for", "if", "in", "is", "or", "not"].any fun word =>
    word.toList.isPrefixOf rest) || !rest.head?.any isWordPart

/-- The value of a digit in a base up to sixteen. -/
def digitOf (c : Char) : Nat :=
  if c.isDigit then c.toNat - 48 else c.toLower.toNat - 87

/-- The number that digits stand for; underscores are passed over. -/
def valueOf (base : Nat) (digits : List Char) : Nat :=
  (digits.filter (· != '_')).foldl (fun n c => base * n + digitOf c) 0

/-- A whole number in the given base, after its mark. -/
def readBased (base : Nat) (isDigit : Char → Bool) (text : List Char) :
    Option (Number × List Char × List Char) := do
  let underscore := text.takeWhile (· == '_')
  let body := text.dropWhile (· == '_')
  if 1 < underscore.length || !body.head?.any isDigit then none
  let (run, rest) ← digitRun isDigit body
  if rest.head?.any Char.isDigit || !mayEndNumber rest then none
  return (.int (valueOf base run), underscore ++ run, rest)

/-- An exponent: its text and value, and what follows.  A letter that no digit follows is not part
of the number. -/
def readExponent (text : List Char) : Option (List Char × Int × List Char) :=
  match text with
  | mark :: rest =>
    if mark == 'e' || mark == 'E' then
      match rest with
      | sign :: more =>
        if sign == '+' || sign == '-' then
          if more.head?.any Char.isDigit then
            (digitRun Char.isDigit more).map fun (run, rest) =>
              let value : Int := valueOf 10 run
              (mark :: sign :: run, if sign == '-' then -value else value, rest)
          else none
        else if sign.isDigit then
          (digitRun Char.isDigit rest).map fun (run, rest) =>
            (mark :: run, (valueOf 10 run : Int), rest)
        else if mayEndNumber text then some ([], 0, text) else none
      | [] => none
    else some ([], 0, text)
  | [] => some ([], 0, [])

/-- A decimal number: digits, a fraction, an exponent and the mark of an imaginary number, each but
the first two optional.  A whole number has a limited number of digits, and it does not begin with a
zero unless it is zero; only right before `else` this passes, as a floating point number. -/
def readDecimal (text : List Char) : Option (Number × List Char × List Char) := do
  let (whole, rest) ← if text.head?.any Char.isDigit then digitRun Char.isDigit text
    else some ([], text)
  let (point, fraction, rest) : List Char × List Char × List Char ←
    match rest with
    | '.' :: more =>
      if more.head?.any Char.isDigit then
        (digitRun Char.isDigit more).map fun (run, rest) => (['.'], run, rest)
      else some (['.'], [], more)
    | _ => some ([], [], rest)
  let (exponent, power, rest) ← readExponent rest
  let digits := (fraction.filter (· != '_')).length
  let value := Decimal.nearestDecimal false (valueOf 10 (whole ++ fraction)) (power - digits)
  let consumed := whole ++ point ++ fraction ++ exponent
  match rest with
  | mark :: more =>
    if mark == 'j' || mark == 'J' then
      if mayEndNumber more then return (.complex 0 value, consumed ++ [mark], more) else none
    else if mayEndNumber rest then ends whole point exponent value consumed rest else none
  | [] => ends whole point exponent value consumed rest
where
  /-- The number without the mark of an imaginary one. -/
  ends (whole point exponent : List Char) (value : Float) (consumed rest : List Char) :
      Option (Number × List Char × List Char) :=
    if point.isEmpty && exponent.isEmpty then
      if whole.head? == some '0' then
        if valueOf 10 whole = 0 then some (.int 0, consumed, rest)
        else if rest.head?.any (·.toLower == 'e') then some (.float value, consumed, rest)
        else none
      else if digitLimit < (whole.filter (· != '_')).length then none
      else some (.int (valueOf 10 whole), consumed, rest)
    else some (.float value, consumed, rest)

/-- A number with its text and what follows it. -/
def readNumber (text : List Char) : Option (Number × List Char × List Char) :=
  let marked (base : Nat) (isDigit : Char → Bool) (zero mark : Char) (rest : List Char) :=
    (readBased base isDigit rest).map fun (value, run, rest) => (value, zero :: mark :: run, rest)
  match text with
  | '0' :: mark :: rest =>
    if mark == 'x' || mark == 'X' then
      marked 16 (fun c => c.isDigit || ('a' ≤ c.toLower && c.toLower ≤ 'f')) '0' mark rest
    else if mark == 'o' || mark == 'O' then
      marked 8 (fun c => '0' ≤ c && c ≤ '7') '0' mark rest
    else if mark == 'b' || mark == 'B' then
      marked 2 (fun c => c == '0' || c == '1') '0' mark rest
    else readDecimal text
  | _ => readDecimal text

/-! ### Quoted texts -/

/-- The body of a literal between single quotes, up to its end. -/
def shortBody (quote : Char) : List Char → Option (List Char × List Char)
  | [] => none
  | '\\' :: c :: rest => (shortBody quote rest).map fun (body, rest) => ('\\' :: c :: body, rest)
  | c :: rest =>
    if c == quote then some ([], rest)
    else if c == '\n' then none
    else (shortBody quote rest).map fun (body, rest) => (c :: body, rest)

/-- The body of a literal between triple quotes, up to its end. -/
def longBody (quote : Char) : List Char → Option (List Char × List Char)
  | [] => none
  | '\\' :: c :: rest => (longBody quote rest).map fun (body, rest) => ('\\' :: c :: body, rest)
  | c :: rest =>
    if c == quote && [quote, quote].isPrefixOf rest then some ([], rest.drop 2)
    else (longBody quote rest).map fun (body, rest) => (c :: body, rest)

/-- The quotes and the body of a literal, and what follows it. -/
def readQuoted (text : List Char) : Option (List Char × List Char × List Char) :=
  match text with
  | [] => none
  | quote :: rest =>
    if [quote, quote].isPrefixOf rest then
      (longBody quote (rest.drop 2)).map fun (body, rest) => ([quote, quote, quote], body, rest)
    else (shortBody quote rest).map fun (body, rest) => ([quote], body, rest)

/-- Whether a character is a hexadecimal digit. -/
def isHexDigit (c : Char) : Bool :=
  c.isDigit || ('a' ≤ c.toLower && c.toLower ≤ 'f')

/-- Whether a character is an octal digit. -/
def isOctalDigit (c : Char) : Bool :=
  '0' ≤ c && c ≤ '7'

/-- The characters that an escape with a single letter stands for. -/
def simpleEscapes : List (Char × Nat) :=
  [('\\', 92), ('\'', 39), ('"', 34), ('a', 7), ('b', 8), ('f', 12), ('n', 10), ('r', 13), ('t', 9),
   ('v', 11)]

/-- The value of exactly `count` hexadecimal digits, and what follows them. -/
def hexValue? (count : Nat) (text : List Char) : Option (Nat × List Char) :=
  let digits := text.take count
  if digits.length = count && digits.all isHexDigit then
    some (valueOf 16 digits, text.drop count)
  else none

/-- One escape after its backslash: the units it stands for and what follows.  Escapes that are not
known keep their backslash.  A text has escapes for any code point, by four or eight hexadecimal
digits; characters cannot be given by their names. -/
def readEscape (inText : Bool) (text : List Char) : Option (List Nat × List Char) :=
  match text with
  | [] => none
  | c :: rest =>
    if c == '\n' then some ([], rest)
    else
      match simpleEscapes.lookup c with
      | some n => some ([n], rest)
      | none =>
        if isOctalDigit c then
          let digits := (text.take 3).takeWhile isOctalDigit
          some ([valueOf 8 digits], text.drop digits.length)
        else if c == 'x' then (hexValue? 2 rest).map fun (n, rest) => ([n], rest)
        else if inText && c == 'u' then (hexValue? 4 rest).map fun (n, rest) => ([n], rest)
        else if inText && c == 'U' then (hexValue? 8 rest).map fun (n, rest) => ([n], rest)
        else if inText && c == 'N' then none
        else some ([92, c.toNat], rest)

/-- The units of a literal in which escapes are read.  Every step consumes a character, so the
length of the body bounds the steps. -/
def readUnits (inText : Bool) : (fuel : Nat) → List Char → Option (List Nat)
  | _, [] => some []
  | 0, _ :: _ => none
  | fuel + 1, c :: rest =>
    if c == '\\' then do
      let (units, rest) ← readEscape inText rest
      let more ← readUnits inText fuel rest
      return units ++ more
    else (readUnits inText fuel rest).map (c.toNat :: ·)

/-- The code points of the body of a text literal. -/
def textValue (raw : Bool) (body : List Char) : Option (List Text.CodePoint) :=
  if raw then some (body.map Text.CodePoint.ofChar)
  else do
    let units ← readUnits true body.length body
    units.mapM fun n => if h : n < 0x110000 then some ⟨n, h⟩ else none

/-- The bytes of the body of a byte literal, which is written in ASCII. -/
def bytesValue (raw : Bool) (body : List Char) : Option (List UInt8) :=
  if body.any fun c => 128 ≤ c.toNat then none
  else if raw then some (body.map fun c => UInt8.ofNat c.toNat)
  else (readUnits false body.length body).map fun units => units.map UInt8.ofNat

/-- The marks before the quote of a literal. -/
structure Marks where
  bytes : Bool
  raw : Bool
  unicode : Bool

/-- Marks from their letters, in either case: `b` and `r` in any order, or `u` alone. -/
def Marks.ofLetters? (letters : List Char) : Option Marks :=
  let lower := String.ofList (letters.map Char.toLower)
  if lower == "" then some ⟨false, false, false⟩
  else if lower == "r" then some ⟨false, true, false⟩
  else if lower == "u" then some ⟨false, false, letters == ['u']⟩
  else if lower == "b" then some ⟨true, false, false⟩
  else if lower == "br" || lower == "rb" then some ⟨true, true, false⟩
  else none

/-- A quoted literal with marks: the lexeme, its text and what follows. -/
def readLiteral (letters text : List Char) : Option (Lexeme × List Char × List Char) := do
  let marks ← Marks.ofLetters? letters
  let (quotes, body, rest) ← readQuoted text
  let lexeme ←
    if marks.bytes then (bytesValue marks.raw body).map Lexeme.bytes
    else (textValue marks.raw body).map (Lexeme.text marks.unicode)
  return (lexeme, letters ++ quotes ++ body ++ quotes, rest)

end Flowchart.Source
