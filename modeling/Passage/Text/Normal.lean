import Passage.Text.Ranges
import Passage.Text.Composites
import Passage.Text.CombiningClass

/-!
# Composed normal form

Unicode's normal form C: characters are taken apart into bases and marks, the
marks behind a base are sorted by combining class, and what can be one character
is put together again.
-/

namespace Passage.Text.Normal

/-- The combining class of a character, zero for a base. -/
def combiningClass (c : Char) : Nat :=
  if c.toNat < 0x300 then 0
  else match combiningClasses.value? c.toNat with
    | some v => v.foldl (fun n d => 10 * n + (d.toNat - 48)) 0
    | none => 0

/-- A composed character with its two parts. -/
structure Composite where
  whole : Nat
  base : Nat
  mark : Nat

def table : List Composite :=
  composites.filterMap fun r =>
    match (r.value.splitOn '.').mapM Numeral.hexNumber? with
    | some [a, b] => some ⟨r.first, a, b⟩
    | _ => none

def hangulBase : Nat := 0xAC00

def isHangul (n : Nat) : Bool := hangulBase ≤ n && n < hangulBase + 11172

/-- Takes one layer off a composed character. -/
def split (c : Char) : List Char :=
  let n := c.toNat
  if n < 0xC0 then [c]
  else if isHangul n then
    let i := n - hangulBase
    let parts := [Char.ofNat (0x1100 + i / 588), Char.ofNat (0x1161 + i % 588 / 28)]
    if i % 28 = 0 then parts else parts ++ [Char.ofNat (0x11A7 + i % 28)]
  else match table.find? (·.whole == n) with
    | some e => [Char.ofNat e.base, Char.ofNat e.mark]
    | none => [c]

/-- No character has more than four layers. -/
def decompose (s : List Char) : List Char :=
  (((s.flatMap split).flatMap split).flatMap split).flatMap split

/-- Puts a mark behind the marks of its class or a lower one, `marks` being sorted. -/
def insertMark (c : Char) : List Char → List Char
  | [] => [c]
  | m :: ms => if combiningClass c < combiningClass m then c :: m :: ms else m :: insertMark c ms

/-- Sorts the marks behind each base; `marks` are those met since the last base. -/
def orderFrom (marks : List Char) : List Char → List Char
  | [] => marks
  | c :: rest =>
    if combiningClass c = 0 then marks ++ c :: orderFrom [] rest
    else orderFrom (insertMark c marks) rest

def composePair? (a b : Char) : Option Char :=
  let m := a.toNat
  let n := b.toNat
  if 0x1100 ≤ m && m < 0x1113 && 0x1161 ≤ n && n < 0x1176 then
    some (Char.ofNat (hangulBase + ((m - 0x1100) * 21 + (n - 0x1161)) * 28))
  else if isHangul m && (m - hangulBase) % 28 = 0 && 0x11A7 < n && n < 0x11C3 then
    some (Char.ofNat (m + (n - 0x11A7)))
  else (table.find? fun e => e.base == m && e.mark == n).map (Char.ofNat ·.whole)

/-- Composes the text behind a base, `kept` being the marks that did not join it, last first. -/
def composeFrom (base : Char) (kept : List Char) : List Char → List Char
  | [] => base :: kept.reverse
  | c :: rest =>
    let reaches := match kept with
      | [] => true
      | k :: _ => combiningClass k < combiningClass c
    match (if reaches then composePair? base c else none) with
    | some whole => composeFrom whole kept rest
    | none =>
      if combiningClass c = 0 then (base :: kept.reverse) ++ composeFrom c [] rest
      else composeFrom base (c :: kept) rest

/-- Composes from the first base on. -/
def compose : List Char → List Char
  | [] => []
  | c :: rest => if combiningClass c = 0 then composeFrom c [] rest else c :: compose rest

def nfc (s : List Char) : List Char :=
  if s.all (·.toNat < 0x300) then s else compose (orderFrom [] (decompose s))

end Passage.Text.Normal
