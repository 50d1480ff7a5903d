import Passage.Url.Domain
import Passage.Url.Percent

/-!
# Hosts

A host is a domain name, an IPv4 address or an IPv6 address. A name whose last
label is a number is read as an IPv4 address or refused. Outside the special
schemes a host is any text without delimiters.
-/

namespace Passage.Url

open Numeral (hexNumber? ofDigits?)
open Text

/-- Why a text is no URL. -/
inductive Fault
  | relative
  | emptyHost
  | port
  | ipv4
  | ipv6
  | domain
  | hostCharacter
  deriving DecidableEq, Repr

def Fault.message : Fault → String
  | relative => "relative URL without a base"
  | emptyHost => "empty host"
  | port => "invalid port number"
  | ipv4 => "invalid IPv4 address"
  | ipv6 => "invalid IPv6 address"
  | domain => "invalid international domain name"
  | hostCharacter => "invalid domain character"

inductive Host
  | domain (name : List Char)
  | ipv4 (address : Nat)
  | ipv6 (pieces : List Nat)
  deriving DecidableEq, Repr

namespace Host

/-! ## IPv4 -/

/-- A part of an IPv4 address: decimal, octal after `0`, hexadecimal after `0x`. -/
def part? : List Char → Option Nat
  | [] => none
  | '0' :: 'x' :: s => ofDigits? 16 s
  | '0' :: 'X' :: s => ofDigits? 16 s
  | '0' :: c :: s => ofDigits? 8 (c :: s)
  | s => ofDigits? 10 s

/-- The labels of a name, less an empty one at its end. -/
def parts (name : List Char) : List (List Char) :=
  let labels := name.splitOn '.'
  if labels.getLast? = some [] then labels.dropLast else labels

def endsInNumber (name : List Char) : Bool :=
  match (parts name).getLast? with
  | some last => (last ≠ [] && last.all Char.isDigit) || (part? last).isSome
  | none => false

/-- Combines the parts: each but the last is a byte, and the last one fills what is left. -/
def combine : List Nat → Nat → Nat → Option Nat
  | [], _, _ => none
  | [n], room, high => if n < room then some (high * room + n) else none
  | n :: ns, room, high => if n < 256 then combine ns (room / 256) (high * 256 + n) else none

def ipv4? (name : List Char) : Option Nat := do
  let numbers ← (parts name).mapM part?
  if numbers.length ≤ 4 then combine numbers 0x100000000 0 else none

/-! ## IPv6 -/

def hexPiece? (s : List Char) : Option Nat := if s.length ≤ 4 then hexNumber? s else none

/-- A decimal byte without a leading zero. -/
def octet? (s : List Char) : Option Nat :=
  match s with
  | [] => none
  | '0' :: _ :: _ => none
  | _ => (ofDigits? 10 s).bind fun n => if n < 256 then some n else none

/-- The two pieces of an IPv4 address in dotted form. -/
def dotted? (s : List Char) : Option (List Nat) :=
  match (s.splitOn '.').mapM octet? with
  | some [a, b, c, d] => some [256 * a + b, 256 * c + d]
  | _ => none

/-- The pieces between colons; the last one may be dotted if `final` is set. -/
def pieces? (final : Bool) : List (List Char) → Option (List Nat)
  | [] => some []
  | [s] =>
    if final && s.contains '.' then dotted? s else (hexPiece? s).map ([·])
  | s :: rest => do
    let n ← hexPiece? s
    let ns ← pieces? final rest
    return n :: ns

def colonPieces? (final : Bool) (s : List Char) : Option (List Nat) :=
  if s = [] then some [] else pieces? final (s.splitOn ':')

/-- The text before the first `::` and the text behind it. -/
def splitElision : List Char → Option (List Char × List Char)
  | ':' :: ':' :: rest => some ([], rest)
  | c :: rest => (splitElision rest).map fun (a, b) => (c :: a, b)
  | [] => none

/-- The eight pieces of an IPv6 address. -/
def ipv6? (s : List Char) : Option (List Nat) :=
  match splitElision s with
  | none => (colonPieces? true s).bind fun ps => if ps.length = 8 then some ps else none
  | some (a, b) => do
    let front ← colonPieces? false a
    let back ← colonPieces? true b
    if front.length + back.length ≤ 7 then
      some (front ++ List.replicate (8 - front.length - back.length) 0 ++ back)
    else none

def hexText (n : Nat) : List Char := Nat.toDigits 16 n

/-- The length of the run of zeros that the list begins with. -/
def zeros (ps : List Nat) : Nat := (ps.takeWhile (· = 0)).length

/-- The place and length of the first longest run of zeros. -/
def longestZeros (i : Nat) : List Nat → Nat × Nat
  | [] => (i, 0)
  | p :: ps =>
    let later := longestZeros (i + 1) ps
    let here := zeros (p :: ps)
    if later.2 ≤ here then (i, here) else later

def colonText (ps : List Nat) : List Char := List.intercalate [':'] (ps.map hexText)

/-- An IPv6 address, its first longest run of two or more zeros left out. -/
def ipv6Text (ps : List Nat) : List Char :=
  let (i, n) := longestZeros 0 ps
  if n < 2 then colonText ps
  else colonText (ps.take i) ++ [':', ':'] ++ colonText (ps.drop (i + n))

def ipv4Text (n : Nat) : List Char :=
  let octets := [n / 0x1000000, n / 0x10000 % 256, n / 0x100 % 256, n % 256]
  List.intercalate ['.'] (octets.map (Nat.toDigits 10))

/-! ## Reading and writing -/

def bracketed? (s : List Char) : Except Fault Host :=
  if s.getLast? = some ']' then
    match ipv6? (s.drop 1).dropLast with
    | some ps => .ok (.ipv6 ps)
    | none => .error .ipv6
  else .error .ipv6

/-- The host of a special scheme. -/
def parse (s : List Char) : Except Fault Host :=
  if s.head? = some '[' then bracketed? s
  else
    match (Utf8.text? (Percent.decode s)).bind fun t => Domain.toAscii? t.toList with
    | none => .error .domain
    | some [] => .error .emptyHost
    | some name =>
      if endsInNumber name then
        match ipv4? name with
        | some n => .ok (.ipv4 n)
        | none => .error .ipv4
      else .ok (.domain name)

def isDelimiter (c : Char) : Bool :=
  c ∈ ['\x00', '\t', '\n', '\r', ' ', '#', '/', ':', '<', '>', '?', '@', '[', '\\', ']', '^', '|']

/-- The host of a scheme that is not special. -/
def parseOpaque (s : List Char) : Except Fault Host :=
  if s.head? = some '[' then bracketed? s
  else if s.any isDelimiter then .error .hostCharacter
  else .ok (.domain (Percent.encode (!Percent.isControl ·) s))

def text : Host → List Char
  | domain name => name
  | ipv4 n => ipv4Text n
  | ipv6 ps => '[' :: ipv6Text ps ++ [']']

end Host

end Passage.Url
