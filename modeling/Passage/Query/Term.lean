import Passage.Query.Token

/-!
# Terms and classified queries

Each token but the word `or` is a term. A leading `-` excludes it; the first term
after an `or` that is not excluded is optional; every other term is required. A
trailing `*` makes a term a wildcard.
-/

namespace Passage.Query

structure Term where
  kind : Kind
  /-- The text without the leading `-` and the trailing `*`. -/
  value : String
  wildcard : Bool
  deriving DecidableEq, Repr

/-- The terms of a query by what they ask of a paragraph. -/
structure Classified where
  must : List Term := []
  should : List Term := []
  not : List Term := []
  deriving DecidableEq, Repr

/-- No paragraph can satisfy a query that only excludes. -/
def Classified.unmatchable (q : Classified) : Bool := q.must.isEmpty && q.should.isEmpty

def lowerAscii (s : List Char) : List Char := s.map Char.toLower

def Token.isOr (t : Token) : Bool := t.kind = .plain && lowerAscii t.value.toList = ['o', 'r']

/-- The word behind a plain token's `-`. -/
def Token.negated? (t : Token) : Option (List Char) :=
  match t.kind, t.value.toList with
  | .plain, '-' :: rest => some rest
  | _, _ => none

/-- A term of the given text, its trailing `*` taken off. -/
def Term.ofText (kind : Kind) (text : List Char) : Term :=
  if text.getLast? = some '*' then ⟨kind, String.ofList text.dropLast, true⟩
  else ⟨kind, String.ofList text, false⟩

/-- Sorts tokens into terms; `pending` tells that an `or` waits for its term. -/
def classifyFrom (pending : Bool) : List Token → Classified
  | [] => {}
  | t :: rest =>
    if t.isOr then classifyFrom true rest
    else match t.negated? with
      | some word =>
        let q := classifyFrom pending rest
        { q with not := Term.ofText t.kind word :: q.not }
      | none =>
        let q := classifyFrom false rest
        let term := Term.ofText t.kind t.value.toList
        if pending then { q with should := term :: q.should } else { q with must := term :: q.must }

def classify (tokens : List Token) : Classified := classifyFrom false tokens

def parse (query : String) : Classified := classify (Token.ofQuery query)

end Passage.Query
