/-!
# Word characters

Letters, digits and the underscore of ASCII. Whole-word search and wildcards go
by this class alone, so an accented letter ends a word.
-/

namespace Passage.Text

def isWord (c : Char) : Bool :=
  ('a' ≤ c && c ≤ 'z') || ('A' ≤ c && c ≤ 'Z') || ('0' ≤ c && c ≤ '9') || c == '_'

/-- A word begins or ends between these two neighbours; `none` is an end of the text. -/
def isBoundary (before after : Option Char) : Bool :=
  before.any isWord != after.any isWord

end Passage.Text
