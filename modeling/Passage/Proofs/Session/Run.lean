import Passage.Config.Basic
import Passage.Session

/-!
# Runs of a session

A run applies operations to a session one after another. A load comes with what its
extraction answered, be it content or a failure, so nothing is assumed of extractors.
What an operation does to a session is said here once and cited elsewhere.
-/

namespace Passage.Session

/-- What a caller may ask of a session. -/
inductive Operation
  | load (source : String) (answer : Except Error Content)
  | search (query : String)
  | next
  | prev
  | goTo (index : Nat)
  | setOptions (options : Match.Options)
  deriving Repr

def ofConfig (c : Config) : Session := start c.pageSize c.maxQueryLength c.options

def apply (s : Session) : Operation → Session
  | .load source answer => (s.load source answer).1
  | .search query => (s.search query).1
  | .next => s.next
  | .prev => s.prev
  | .goTo index => s.goTo index
  | .setOptions options => s.setOptions options

def run (s : Session) (ops : List Operation) : Session := ops.foldl apply s

theorem run_append (s : Session) (ops later : List Operation) :
    s.run (ops ++ later) = (s.run ops).run later :=
  List.foldl_append

/-! ## What an operation returns -/

inductive Answer
  | loaded (result : Except Error Document)
  | counted (result : Except Error Nat)
  /-- The index of the user's page. -/
  | page (index : Nat)
  | done

def answer (s : Session) : Operation → Answer
  | .load source answer => .loaded (s.load source answer).2
  | .search query => .counted (s.search query).2
  | .next => .page s.next.page.index
  | .prev => .page s.prev.page.index
  | .goTo index => .page (s.goTo index).page.index
  | .setOptions _ => .done

/-- The operations of a run, each with what it returned. -/
def record (s : Session) : List Operation → List (Operation × Answer)
  | [] => []
  | op :: ops => (op, s.answer op) :: (s.apply op).record ops

/-! ## What an operation does -/

/-- What is left of a session that gets other results. -/
def withResults (s : Session) (results : List Finding) (status : Status) : Session :=
  { s with results, page := s.page.reset, status }

/-- A search replaces the results and nothing of a failed one is kept. -/
theorem search_cases (s : Session) (query : String) :
    (∃ e, Search.limited s.maxQueryLength s.options s.paragraphs query = .error e ∧
      s.search query = (s.withResults [] (.failed e.statusMessage), .error e)) ∨
    ∃ r, Search.limited s.maxQueryLength s.options s.paragraphs query = .ok r ∧
      s.search query = (s.withResults r.findings
        (if r.findings.length = 0 then .noMatches else .found r.findings.length),
        .ok r.findings.length) := by
  rw [search]
  cases h : Search.limited s.maxQueryLength s.options s.paragraphs query with
  | error e => exact Or.inl ⟨e, rfl, rfl⟩
  | ok r => exact Or.inr ⟨r, rfl, rfl⟩

end Passage.Session
