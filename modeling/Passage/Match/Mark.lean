import Passage.Error
import Passage.Match.Occurrence

/-!
# Marking matches

A paragraph that satisfies a query is shown with its matches between markers. The
terms are applied one after another, each to the text that the ones before it have
marked, so a later term may match inside a mark, or inside a marker itself.
-/

namespace Passage.Match

def markOpen : List Char := "<mark>".toList

def markClose : List Char := "</mark>".toList

theorem markOpen_eq : markOpen = ['<', 'm', 'a', 'r', 'k', '>'] := rfl

theorem markClose_eq : markClose = ['<', '/', 'm', 'a', 'r', 'k', '>'] := rfl

/-- A piece of text as it is written out, a hit between markers. -/
def Piece.marked : Piece → List Char
  | keep c => [c]
  | hit s => markOpen ++ s ++ markClose

/-- The text with each match of the pattern between markers. -/
def Pattern.mark (p : Pattern) (text : List Char) : List Char :=
  (p.pieces text).flatMap Piece.marked

/-- The pattern of a term, unless it is too large to be compiled. -/
def compileTerm (o : Options) (t : Query.Term) : Except Error Pattern :=
  let p := Pattern.ofTerm t o
  if p.fits then .ok p
  else .error (.invalidQuery ("Failed to compile '" ++ t.value ++
    "': Compiled regex exceeds size limit of " ++ toString Pattern.maxBytes ++ " bytes."))

/-- A query whose terms are all compiled. -/
structure Compiled where
  must : List Pattern
  should : List Pattern
  not : List Pattern

def compile (o : Options) (q : Query.Classified) : Except Error Compiled := do
  return {
    must := ← q.must.mapM (compileTerm o)
    should := ← q.should.mapM (compileTerm o)
    not := ← q.not.mapM (compileTerm o) }

namespace Compiled

/-- No excluded pattern occurs, every required one does, and there is something to look for. -/
def accepts (q : Compiled) (text : List Char) : Bool :=
  !q.not.any (·.occursIn text) && q.must.all (·.occursIn text) &&
    !(q.must.isEmpty && q.should.isEmpty)

/-- The marked text of a paragraph that satisfies the query. -/
def annotate? (q : Compiled) (paragraph : String) : Option String :=
  if q.accepts paragraph.toList then
    some (String.ofList ((q.must ++ q.should).foldl (fun s p => p.mark s) paragraph.toList))
  else none

end Compiled

/-- Matches a single paragraph. -/
def annotate (o : Options) (q : Query.Classified) (paragraph : String) :
    Except Error (Option String) :=
  (compile o q).map (·.annotate? paragraph)

end Passage.Match
