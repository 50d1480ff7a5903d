/-!
# UTF-8

Byte lengths of text and the reading of bytes. A byte that belongs to no
well-formed sequence is read as `none`; the ASCII bytes around it keep their
meaning, so what is read from damaged bytes can still be taken apart.
-/

namespace Passage.Text.Utf8

def width (s : List Char) : Nat := s.foldr (fun c size => c.utf8Size + size) 0

def isContinuation (b : UInt8) : Bool := 0x80 ≤ b && b ≤ 0xBF

/-- Six payload bits of a continuation byte. -/
def payload (b : UInt8) : Nat := b.toNat % 64

def scalar? (n : Nat) : Option Char :=
  if h : n.isValidChar then some (Char.ofNatAux n h) else none

/-- The character of a two-, three- or four-byte sequence in its shortest form. -/
def char? (bytes : List UInt8) : Option Char :=
  match bytes with
  | [a, b] =>
    let n := (a.toNat % 32) * 64 + payload b
    if 0xC0 ≤ a && a ≤ 0xDF && isContinuation b && 0x80 ≤ n then scalar? n else none
  | [a, b, c] =>
    let n := ((a.toNat % 16) * 64 + payload b) * 64 + payload c
    if 0xE0 ≤ a && a ≤ 0xEF && isContinuation b && isContinuation c && 0x800 ≤ n then scalar? n
    else none
  | [a, b, c, d] =>
    let n := (((a.toNat % 8) * 64 + payload b) * 64 + payload c) * 64 + payload d
    if 0xF0 ≤ a && a ≤ 0xF7 && isContinuation b && isContinuation c && isContinuation d &&
        0x10000 ≤ n then scalar? n
    else none
  | _ => none

def decode : List UInt8 → List (Option Char)
  | [] => []
  | a :: rest =>
    if a < 0x80 then some (Char.ofUInt8 a) :: decode rest
    else if let some c := char? (a :: rest.take 1) then some c :: decode (rest.drop 1)
    else if let some c := char? (a :: rest.take 2) then some c :: decode (rest.drop 2)
    else if let some c := char? (a :: rest.take 3) then some c :: decode (rest.drop 3)
    else none :: decode rest
termination_by s => s.length
decreasing_by all_goals simp; try omega

/-- The text that the bytes encode, if all of them do. -/
def text? (bytes : List UInt8) : Option String :=
  ((decode bytes).mapM id).map String.ofList

end Passage.Text.Utf8
