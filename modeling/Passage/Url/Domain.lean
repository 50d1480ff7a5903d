import Passage.Text.Normal
import Passage.Url.Punycode
import Passage.Url.Domain.Classes
import Passage.Url.Domain.Mapping

/-!
# Domain names

The ASCII form of a domain name: characters are mapped and composed, each label is
checked, and labels with characters beyond ASCII are encoded. Hyphens may stand
anywhere, labels may be empty and have any length.
-/

namespace Passage.Url.Domain

open Numeral (hexNumber?)
open Text

/-- What replaces a character, or `none` if no name may hold it. -/
def mapChar (c : Char) : Option (List Char) :=
  let n := c.toNat
  match mapping.find? n with
  | none => some [c]
  | some r =>
    match r.value with
    | ['!'] => none
    | ['_'] => some []
    | '>' :: code => (hexNumber? code).map fun m => [Char.ofNat (m + (n - r.first))]
    | '2' :: '>' :: code =>
      if (n - r.first) % 2 = 1 then some [c]
      else (hexNumber? code).map fun m => [Char.ofNat (m + (n - r.first))]
    | codes => ((codes.splitOn '.').mapM hexNumber?).map (·.map Char.ofNat)

/-- ASCII characters that delimit or hide something in a URL. -/
def isForbidden (c : Char) : Bool :=
  c.toNat ≤ 32 || c.toNat = 127 ||
    c ∈ ['%', '#', '/', ':', '<', '>', '?', '@', '[', '\\', ']', '^', '|']

def classOf (r : Ranges) (c : Char) : List Char := (r.value? c.toNat).getD []

def isMark (c : Char) : Bool := (marks.find? c.toNat).isSome

def direction (c : Char) : List Char :=
  match directions.value? c.toNat with
  | some v => v
  | none => ['L']

def isVirama (c : Char) : Bool := Normal.combiningClass c = 9

/-- Letters that join around a non-joiner: the nearest ones that are not transparent. -/
def joinsAcross (before after : List Char) : Bool :=
  let opaqueEnd (s : List Char) := s.dropWhile fun c => classOf joiningTypes c = ['T']
  match opaqueEnd before.reverse, opaqueEnd after with
  | a :: _, b :: _ =>
    (classOf joiningTypes a = ['L'] || classOf joiningTypes a = ['D']) &&
      (classOf joiningTypes b = ['R'] || classOf joiningTypes b = ['D'])
  | _, _ => false

/-- Joiners stand behind a virama only; a non-joiner also between letters that join. -/
def joinersFit (before : List Char) : List Char → Bool
  | [] => true
  | c :: rest =>
    let virama := before.getLast?.any isVirama
    let fits :=
      if c.toNat = 0x200D then virama
      else if c.toNat = 0x200C then virama || joinsAcross before rest
      else true
    fits && joinersFit (before ++ [c]) rest

def isRightToLeft (d : List Char) : Bool :=
  d = ['R'] || d = ['A', 'L'] || d = ['A', 'N']

/-- The classes that may close a label, marks behind them aside. -/
def endsIn (allowed : List (List Char)) (ds : List (List Char)) : Bool :=
  match ds.reverse.dropWhile (· = ['N', 'S', 'M']) with
  | d :: _ => d ∈ allowed
  | [] => false

/-- The rule of writing directions that every label of a right-to-left name obeys. -/
def directionFits (label : List Char) : Bool :=
  let ds := label.map direction
  let neutral : List (List Char) :=
    ["ES".toList, "CS".toList, "ET".toList, "ON".toList, "BN".toList, "NSM".toList]
  match ds with
  | [] => true
  | first :: _ =>
    if first = ['L'] then
      ds.all (· ∈ "L".toList :: "EN".toList :: neutral) && endsIn ["L".toList, "EN".toList] ds
    else if first = ['R'] || first = ['A', 'L'] then
      ds.all (· ∈ "R".toList :: "AL".toList :: "AN".toList :: "EN".toList :: neutral) &&
        endsIn ["R".toList, "AL".toList, "EN".toList, "AN".toList] ds &&
        !("EN".toList ∈ ds && "AN".toList ∈ ds)
    else false

def encodedMarker : List Char := "xn--".toList

/-- Longer labels are not encoded. -/
def maxLabel : Nat := 1000

/-- Longer encodings are not decoded. -/
def maxEncoding : Nat := 2000

/-- An encoded label has to stand for a text that needs encoding and that mapping leaves alone. -/
def isMapped (text : List Char) : Bool :=
  text.any (fun c => 128 ≤ c.toNat) && text.take 4 ≠ encodedMarker &&
    text.all (fun c => mapChar c = some [c]) && Normal.nfc text = text

/-- The characters of a label, decoded if the label is encoded. -/
def labelText? (label : List Char) : Option (List Char) :=
  if label.take 4 ≠ encodedMarker then some label
  else
    let code := label.drop 4
    if maxEncoding < code.length then none else (Punycode.decode code).filter isMapped

def labelFits (text : List Char) : Bool :=
  (text.length ≤ maxLabel || text.all (·.toNat < 128)) && !text.head?.any isMark &&
    joinersFit [] text

def encodeLabel (text : List Char) : List Char :=
  if text.all (·.toNat < 128) then text else encodedMarker ++ Punycode.encode text

/-- The ASCII form of a name with characters beyond ASCII or with encoded labels. -/
def international? (name : List Char) : Option (List Char) := do
  let mapped ← name.mapM mapChar
  let text := Normal.nfc mapped.flatten
  if text.any isForbidden then none
  let labels ← (text.splitOn '.').mapM labelText?
  let rightToLeft := labels.any (·.any fun c => isRightToLeft (direction c))
  if labels.all labelFits && (!rightToLeft || labels.all directionFits) then
    some (List.intercalate ['.'] (labels.map encodeLabel))
  else none

def isEncoded (label : List Char) : Bool := label.take 4 = encodedMarker

/-- The ASCII form of a domain name, if it is one. -/
def toAscii? (name : List Char) : Option (List Char) :=
  let lower := name.map Char.toLower
  if lower.all (·.toNat < 128) && !(lower.splitOn '.').any isEncoded then
    if lower.any isForbidden then none else some lower
  else international? name

end Passage.Url.Domain
