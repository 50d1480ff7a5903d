import Passage.Query.Term
import Passage.Text.CaseFold
import Passage.Text.Word
import Passage.Text.Utf8

/-!
# Patterns

What a term asks of a text under the match options, how it is written as a
regular expression, and how large it is once compiled. Nothing here matches; the
written form is read by no part of the search.
-/

namespace Passage.Match

open Text

structure Options where
  caseSensitive : Bool := false
  wholeWord : Bool := false
  deriving DecidableEq, Repr

/-- A literal, perhaps with the word characters after it, perhaps between word boundaries. -/
structure Pattern where
  literal : List Char
  openEnded : Bool
  options : Options
  deriving DecidableEq, Repr

namespace Pattern

/-- Only a plain term's `*` stands for more word characters. -/
def ofTerm (t : Query.Term) (o : Options) : Pattern where
  literal := t.value.toList
  openEnded := t.kind = .plain && t.wildcard
  options := o

/-- The characters that mean something else in a regular expression. -/
def metacharacters : List Char :=
  ['\\', '.', '+', '*', '?', '(', ')', '|', '[', ']', '\x7b', '\x7d', '^', '$', '#', '&', '-', '~']

def escape (s : List Char) : List Char :=
  s.flatMap fun c => if c ∈ metacharacters then ['\\', c] else [c]

def wordRun : List Char := "(?-u:\\w)*".toList

def wordBoundary : List Char := "(?-u:\\b)".toList

/-- The pattern as a regular expression. -/
def source (p : Pattern) : List Char :=
  let body := escape p.literal ++ (if p.openEnded then wordRun else [])
  if p.options.wholeWord then wordBoundary ++ body ++ wordBoundary else body

/-- A state of a compiled pattern takes this many bytes. -/
def stateBytes : Nat := 32

/-- The compiled size of one class of code points: alone, one state a byte; ASCII ones share a
state with one edge each; others branch into their encodings. -/
def classBytes : List Nat → Nat
  | [n] => stateBytes * (Char.ofNat n).utf8Size
  | codes =>
    if codes.all (· < 128) then 2 * stateBytes + 8 * codes.length
    else 2 * stateBytes + 4 * codes.length +
      stateBytes * codes.foldr (fun n size => (Char.ofNat n).utf8Size + size) 0

/-- The compiled size of the literal, which the rest of a pattern adds next to nothing to. -/
def compiledBytes (p : Pattern) : Nat :=
  let bytes (c : Char) : Nat :=
    if p.options.caseSensitive then stateBytes * c.utf8Size else classBytes (CaseFold.variants c)
  p.literal.foldr (fun c size => bytes c + size) 0

/-- No larger pattern is compiled. -/
def maxBytes : Nat := 10485760

def fits (p : Pattern) : Bool := p.compiledBytes ≤ maxBytes

end Pattern

end Passage.Match
