import Flowchart.Text.Numeral

/-!
# Encodings of texts

The encodings a text may be in, and why bytes may not be a text.
-/

set_option autoImplicit false

namespace Flowchart

/-- The order of the bytes of a number. -/
inductive ByteOrder where
  /-- The lowest byte comes first. -/
  | little
  /-- The highest byte comes first. -/
  | big
deriving Repr, DecidableEq

namespace ByteOrder

/-- The number of two bytes. -/
def pair : ByteOrder → UInt8 → UInt8 → Nat
  | little, a, b => a.toNat + 256 * b.toNat
  | big, a, b => 256 * a.toNat + b.toNat

/-- The number of four bytes. -/
def quad (order : ByteOrder) (a b c d : UInt8) : Nat :=
  match order with
  | little => order.pair a b + 0x10000 * order.pair c d
  | big => 0x10000 * order.pair a b + order.pair c d

/-- The end of the name of an encoding that says the order of its bytes. -/
def ending : ByteOrder → String
  | little => "-le"
  | big => "-be"

end ByteOrder

/-- An encoding, as far as it has to be told apart from others.  Where the order of bytes is not
given, a mark at the beginning of the text tells it. -/
inductive Encoding where
  | utf8
  /-- UTF-8 in which a mark at the beginning is passed over. -/
  | markedUtf8
  | utf16 (order : Option ByteOrder)
  | utf32 (order : Option ByteOrder)
  | utf7
  | ascii
  | latin1
  /-- One byte for each character, by the table of the given name. -/
  | page (name : String)
  /-- Several bytes for a character outside ASCII. -/
  | multibyte (name : String)
  /-- Latin-1 with escape sequences for other characters, either all the sequences that there are or
  only those that give the number of a character. -/
  | escaped (all : Bool)
  /-- Characters outside ASCII are left out, and numbers at the end tell which to insert where. -/
  | punycode
  /-- An encoding that no text is in. -/
  | undefined
  /-- An encoding of something other than texts. -/
  | binary
deriving Repr, DecidableEq

namespace Encoding

/-- Why bytes are not a text. -/
inductive Fault where
  /-- There is no encoding of the declared name, or it does not agree with a mark. -/
  | unknown
  /-- The named encoding is not one of texts. -/
  | notText (name : String)
  /-- Some bytes, of which the first is given, stand for no character. -/
  | malformed (encoding reason : String) (first : UInt8) (position count : Nat)
  /-- The bytes as a whole are no text. -/
  | refused (reason : String)
  /-- Some numbers in the text, of which the first is given, are not those of characters. -/
  | notCharacter (first position count : Nat)
deriving Repr, DecidableEq

/-- At least `width` hexadecimal digits of a number. -/
def hexText (width n : Nat) : String :=
  let digits := Nat.toDigits 16 n
  String.ofList (List.replicate (width - digits.length) '0' ++ digits)

/-- The wording of a fault. -/
def Fault.message : Fault → String
  | unknown => "unknown encoding"
  | notText name =>
    "'" ++ name ++ "' is not a text encoding; use codecs.open() to handle arbitrary codecs"
  | malformed encoding reason first position count =>
    "'" ++ encoding ++ "' codec can't decode " ++
      (if count = 1 then "byte 0x" ++ hexText 2 first.toNat ++ " in position " ++ intText position
        else "bytes in position " ++ intText position ++ "-" ++ intText (position + count - 1)) ++
      ": " ++ reason
  | refused reason => reason
  | notCharacter first position count =>
    "'utf-8' codec can't encode " ++
      (if count = 1 then "character '\\u" ++ hexText 4 first ++ "' in position " ++ intText position
        else "characters in position " ++ intText position ++ "-" ++
          intText (position + count - 1)) ++
      ": surrogates not allowed"

end Encoding

end Flowchart
