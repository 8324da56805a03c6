import Flowchart.Encoding.Escaped
import Flowchart.Encoding.Name
import Flowchart.Encoding.Shifted

/-!
# From bytes to text

The text that bytes stand for in an encoding.  Texts in UTF-8 are taken as they are, since they are
what everything else is compared with.
-/

set_option autoImplicit false

namespace Flowchart.Encoding

/-- Two characters of ASCII that some encodings have replaced. -/
def replacedAscii (name : String) (n : Nat) : Nat :=
  if name = "shift_jis_2004" || name = "shift_jisx0213" then
    if n = 92 then 0xA5 else if n = 126 then 0x203E else n
  else n

/-- The text of bytes in an encoding with several bytes for a character outside ASCII.  Only
characters of ASCII are known. -/
def readMultibyte (name : String) (position : Nat) : List UInt8 → Except Fault (List Nat)
  | [] => .ok []
  | b :: rest =>
    if b < 128 then do
      return replacedAscii name b.toNat :: (← readMultibyte name (position + 1) rest)
    else .error (.malformed name "illegal multibyte sequence" b position 1)

/-- The numbers of the characters that bytes stand for.  The name is the one under which the
encoding was asked for. -/
def numbersOf (encoding : Encoding) (name : String) (text : String) : Except Fault (List Nat) :=
  let bytes := text.toUTF8.toList
  let latin := bytes.map UInt8.toNat
  match encoding with
  | .utf8 => .ok (text.toList.map Char.toNat)
  | .markedUtf8 =>
    match text.toList with
    | '\uFEFF' :: rest => .ok (rest.map Char.toNat)
    | chars => .ok (chars.map Char.toNat)
  | .utf16 (some order) => readUtf16 order 0 bytes
  | .utf16 none => do
    let _ ← readUtf16 .little 0 bytes
    throw (.refused "UTF-16 stream does not start with BOM")
  | .utf32 (some order) => readUtf32 order 0 bytes
  | .utf32 none => do
    let _ ← readUtf32 .little 0 bytes
    throw (.refused "UTF-32 stream does not start with BOM")
  | .utf7 => readUtf7 0 none bytes
  | .ascii => readAscii 0 bytes
  | .latin1 => .ok latin
  | .page name =>
    match page? name with
    | some table => readPage table 0 bytes
    | none => .ok latin
  | .multibyte name => readMultibyte name 0 bytes
  | .escaped all => readEscaped all bytes.length 0 bytes
  | .punycode => readPunycode bytes
  | .undefined => throw (.refused "undefined encoding")
  | .binary => throw (.notText name)

/-- The numbers of the characters of a text whose line ends are single line feeds. -/
def unixNumbers : List Nat → List Nat
  | [] => []
  | 13 :: 10 :: rest => 10 :: unixNumbers rest
  | 13 :: rest => 10 :: unixNumbers rest
  | n :: rest => n :: unixNumbers rest

/-- The text with the given numbers of characters.  A half of a character is not one. -/
def textOf (numbers : List Nat) : Except Fault String :=
  let numbers := unixNumbers numbers
  let before := numbers.takeWhile (!isSurrogate ·)
  match numbers.drop before.length with
  | [] => .ok (String.ofList (numbers.map Char.ofNat))
  | first :: rest =>
    .error (.notCharacter first before.length (1 + (rest.takeWhile isSurrogate).length))

/-- The text in a file in an encoding, given the text it has in UTF-8. -/
def decode (encoding : Encoding) (name : String) (text : String) : Except Fault String := do
  textOf (← numbersOf encoding name text)

end Flowchart.Encoding
