/-!
# White space and trimming

The characters that separate words in a query and that are cut from the ends of
sources, queries and paragraphs: Unicode's White_Space property. Zero-width
characters and the information separators are not among them.
-/

namespace Passage.Text

/-- A character with the White_Space property. -/
def isBlank (c : Char) : Bool :=
  let n := c.toNat
  (9 ≤ n && n ≤ 13) || n == 32 || n == 0x85 || n == 0xA0 || n == 0x1680 ||
    (0x2000 ≤ n && n ≤ 0x200A) || n == 0x2028 || n == 0x2029 || n == 0x202F ||
    n == 0x205F || n == 0x3000

def trimLeft (s : List Char) : List Char := s.dropWhile isBlank

def trimRight (s : List Char) : List Char := (s.reverse.dropWhile isBlank).reverse

/-- The text without the white space at its two ends. -/
def trim (s : List Char) : List Char := trimRight (trimLeft s)

def trimmed (s : String) : String := String.ofList (trim s.toList)

end Passage.Text
