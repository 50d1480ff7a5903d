import Passage.Match.Mark

/-!
# Searching paragraphs

A query runs over the paragraphs of a document and finds those that satisfy it, in
document order and without a score. A limited search also refuses queries that are
longer than its limit.
-/

namespace Passage

open Text

/-- A paragraph that satisfies a query. -/
structure Finding where
  /-- The paragraph's place in the document, from zero. -/
  index : Nat
  annotated : String
  raw : String
  deriving DecidableEq, Repr

namespace Finding

/-- The number by which readers call the paragraph. -/
def number (f : Finding) : Nat := f.index + 1

def locator (f : Finding) : String := "Paragraph " ++ toString f.number

end Finding

namespace Search

open Match (Options Compiled)

/-- The paragraphs that satisfy a compiled query, the first of them having index `i`. -/
def collectFrom (q : Compiled) (i : Nat) : List String → List Finding
  | [] => []
  | p :: rest =>
    match q.annotate? p with
    | some a => ⟨i, a, p⟩ :: collectFrom q (i + 1) rest
    | none => collectFrom q (i + 1) rest

/-- Runs a classified query; one that nothing can satisfy is not compiled. -/
def run (o : Options) (paragraphs : List String) (q : Query.Classified) :
    Except Error (List Finding) :=
  if q.unmatchable then .ok []
  else (Match.compile o q).map (collectFrom · 0 paragraphs)

/-- The query to search for, refusing an empty document first and then a blank query. -/
def prepare (paragraphs : List String) (query : String) : Except Error String :=
  if paragraphs.isEmpty then .error .emptyDocument
  else if trim query.toList = [] then .error .emptyQuery
  else .ok (trimmed query)

/-- Searches the paragraphs for a query. -/
def search (o : Options) (paragraphs : List String) (query : String) :
    Except Error (List Finding) := do
  run o paragraphs (Query.parse (← prepare paragraphs query))

/-- What a limited search answers. -/
structure Response where
  query : String
  classified : Query.Classified
  findings : List Finding

def Response.count (r : Response) : Nat := r.findings.length

/-- The query, if it has at most `limit` characters. -/
def checkLength (limit : Nat) (query : String) : Except Error String :=
  if query.length ≤ limit then .ok query
  else .error (.invalidQuery ("Query is " ++ toString query.length ++
    " characters long, the limit is " ++ toString limit))

/-- Searches the paragraphs for a query of at most `limit` characters. -/
def limited (limit : Nat) (o : Options) (paragraphs : List String) (query : String) :
    Except Error Response := do
  let text ← prepare paragraphs query >>= checkLength limit
  let q := Query.parse text
  return ⟨text, q, ← run o paragraphs q⟩

end Search

end Passage
