import Passage.Numeral.Digit
import Passage.Text.Utf8

/-!
# Percent encoding

Bytes written as `%` and two hexadecimal digits. An encoder is given by the ASCII
characters that it leaves as they are; every other character is written byte by
byte. Decoding leaves a `%` that no two digits follow as it is.
-/

namespace Passage.Url.Percent

open Numeral (hexDigit? upperHex)

def escapeByte (b : UInt8) : List Char :=
  ['%', upperHex (b.toNat / 16), upperHex (b.toNat % 16)]

def encodeChar (keeps : Char → Bool) (c : Char) : List Char :=
  if c.toNat < 128 && keeps c then [c] else (String.utf8EncodeChar c).flatMap escapeByte

def encode (keeps : Char → Bool) (s : List Char) : List Char := s.flatMap (encodeChar keeps)

/-- The bytes that the text stands for. -/
def decode : List Char → List UInt8
  | [] => []
  | [c] => String.utf8EncodeChar c
  | [c, d] => String.utf8EncodeChar c ++ decode [d]
  | c :: a :: b :: rest =>
    match (if c = '%' then hexDigit? a else none), hexDigit? b with
    | some x, some y => UInt8.ofNat (16 * x + y) :: decode rest
    | _, _ => String.utf8EncodeChar c ++ decode (a :: b :: rest)

/-- The characters that need no escape anywhere: letters, digits and `-_.~`. -/
def isUnreserved (c : Char) : Bool := c.isAlphanum || c ∈ ['-', '_', '.', '~']

def isControl (c : Char) : Bool := c.toNat < 32 || c.toNat = 127

def fragmentKeeps (c : Char) : Bool :=
  !isControl c && !(c ∈ [' ', '"', '<', '>', '\x60'])

def pathKeeps (c : Char) : Bool :=
  fragmentKeeps c && !(c ∈ ['#', '?', '\x7b', '\x7d'])

def userKeeps (c : Char) : Bool :=
  pathKeeps c && !(c ∈ ['/', ':', ';', '=', '@', '[', '\\', ']', '^', '|'])

def queryKeeps (c : Char) : Bool := !isControl c && !(c ∈ [' ', '"', '#', '<', '>'])

/-- In a special scheme the apostrophe is escaped in a query as well. -/
def specialQueryKeeps (c : Char) : Bool := queryKeeps c && c != '\''

end Passage.Url.Percent
