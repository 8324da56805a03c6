import Flowchart.Encoding.Basic

/-!
# Encodings with two or four bytes for a number

In UTF-16 a character is one number of two bytes, or two such numbers, a high and a low surrogate.
In UTF-32 it is one number of four bytes.
-/

set_option autoImplicit false

namespace Flowchart.Encoding

/-- Whether a number is that of the first half of a character. -/
def isHighSurrogate (n : Nat) : Bool := 0xD800 ≤ n && n < 0xDC00

/-- Whether a number is that of the second half of a character. -/
def isLowSurrogate (n : Nat) : Bool := 0xDC00 ≤ n && n < 0xE000

/-- Whether a number is that of half a character. -/
def isSurrogate (n : Nat) : Bool := isHighSurrogate n || isLowSurrogate n

/-- The character of two halves. -/
def joinSurrogates (high low : Nat) : Nat :=
  0x10000 + (high - 0xD800) * 0x400 + (low - 0xDC00)

/-- The text of bytes in UTF-16, from the given position on. -/
def readUtf16 (order : ByteOrder) (position : Nat) : List UInt8 → Except Fault (List Nat)
  | [] => .ok []
  | [a] => .error (fault "truncated data" a 1)
  | a :: b :: rest =>
    let n := order.pair a b
    if isHighSurrogate n then
      match rest with
      | c :: d :: more =>
        let low := order.pair c d
        if isLowSurrogate low then do
          return joinSurrogates n low :: (← readUtf16 order (position + 4) more)
        else .error (fault "illegal UTF-16 surrogate" a 2)
      | rest => .error (fault "unexpected end of data" a (2 + rest.length))
    else if isLowSurrogate n then .error (fault "illegal encoding" a 2)
    else do return n :: (← readUtf16 order (position + 2) rest)
where
  /-- A fault at the current position. -/
  fault (reason : String) (first : UInt8) (count : Nat) : Fault :=
    .malformed ("utf-16" ++ order.ending) reason first position count

/-- The text of bytes in UTF-32, from the given position on. -/
def readUtf32 (order : ByteOrder) (position : Nat) : List UInt8 → Except Fault (List Nat)
  | [] => .ok []
  | a :: b :: c :: d :: rest =>
    let n := order.quad a b c d
    if isSurrogate n then
      .error (fault "code point in surrogate code point range(0xd800, 0xe000)" a 4)
    else if 0x110000 ≤ n then .error (fault "code point not in range(0x110000)" a 4)
    else do return n :: (← readUtf32 order (position + 4) rest)
  | a :: rest => .error (fault "truncated data" a (1 + rest.length))
where
  /-- A fault at the current position. -/
  fault (reason : String) (first : UInt8) (count : Nat) : Fault :=
    .malformed ("utf-32" ++ order.ending) reason first position count

end Flowchart.Encoding
