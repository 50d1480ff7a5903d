/-!
# Lines

A line ends at a line feed, and a carriage return right in front of it belongs to
the line's end. What follows the last line feed is a line unless it is empty.
-/

namespace Passage.Text

variable {α : Type} [DecidableEq α]

/-- A line as it was collected, last element first, less its carriage return. -/
def closeLine (cr : α) : List α → List α
  | [] => []
  | c :: cs => if c = cr then cs.reverse else (c :: cs).reverse

/-- The lines of a sequence; `line` is the part of the first one in front of it, last element
first. -/
def linesFrom (lf cr : α) (line : List α) : List α → List (List α)
  | [] => if line = [] then [] else [line.reverse]
  | c :: rest =>
    if c = lf then closeLine cr line :: linesFrom lf cr [] rest
    else linesFrom lf cr (c :: line) rest

def lines (s : List Char) : List (List Char) := linesFrom '\n' '\r' [] s

def byteLines (s : List UInt8) : List (List UInt8) := linesFrom 10 13 [] s

end Passage.Text
