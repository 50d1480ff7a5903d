import Passage.Numeral.Digit
import Passage.Text.Blank

/-!
# Tables of code points

A property of characters as a list of ranges, each with a value, read from a
compact text: words `first:value` or `first-last:value` with hexadecimal codes.
A word that is none of these is left out.
-/

namespace Passage.Text

open Numeral (hexNumber?)

structure Range where
  first : Nat
  last : Nat
  value : List Char

abbrev Ranges := List Range

namespace Ranges

def range? (word : List Char) : Option Range :=
  match word.splitOn ':' with
  | [codes, value] =>
    match (codes.splitOn '-').mapM hexNumber? with
    | some [a] => some ⟨a, a, value⟩
    | some [a, b] => some ⟨a, b, value⟩
    | _ => none
  | _ => none

/-- The words of a text, cut at white space. -/
def words (s : List Char) : List (List Char) := (s.splitOnP isBlank).filter (· ≠ [])

def ofText (text : String) : Ranges := (words text.toList).filterMap range?

def find? (r : Ranges) (n : Nat) : Option Range := List.find? (fun e => e.first ≤ n && n ≤ e.last) r

/-- The value of the first range that holds the code. -/
def value? (r : Ranges) (n : Nat) : Option (List Char) := (r.find? n).map Range.value

end Ranges

end Passage.Text
